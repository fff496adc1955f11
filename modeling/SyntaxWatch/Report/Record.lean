import SyntaxWatch.Diagnostic

/-!
# Records

What was shown, in the order in which it was shown.

## Main definitions

* `Record`: the sets of diagnostics that were shown, each with its resource.
* `Record.add`, `Record.latest?`, `Record.reached`: adding to it and looking at it.
-/

namespace SyntaxWatch

/-- The sets of diagnostics that were shown, each with its resource, the first one first. -/
structure Record where
  entries : List (Text × List Diagnostic) := []
  deriving DecidableEq

namespace Record

/-- The record after one more set is shown. -/
def add (r : Record) (resource : Text) (set : List Diagnostic) : Record :=
  { entries := r.entries ++ [(resource, set)] }

/-- The number of sets that were shown. -/
def count (r : Record) : Nat :=
  r.entries.length

/-- The set that was shown last. -/
def latest? (r : Record) : Option (List Diagnostic) :=
  r.entries.getLast?.map (·.2)

/-- Whether at least `n` sets were shown. -/
def reached (r : Record) (n : Nat) : Bool :=
  n ≤ r.count

@[simp] theorem count_add (r : Record) (resource : Text) (set : List Diagnostic) :
    (r.add resource set).count = r.count + 1 := by
  simp [count, add]

@[simp] theorem latest?_add (r : Record) (resource : Text) (set : List Diagnostic) :
    (r.add resource set).latest? = some set := by
  simp [latest?, add]

end Record

end SyntaxWatch
