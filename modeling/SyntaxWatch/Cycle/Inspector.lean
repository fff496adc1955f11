import SyntaxWatch.Cycle.Basic
import SyntaxWatch.Process.Command

/-!
# Inspectors

An inspector runs cycles on demand for one resource, on a host that does not hold its command
back. It remembers what the last cycle saw until it is told to forget it.

## Main definitions

* `Inspector.inspect`: one cycle.
* `Inspector.forget`: makes the next cycle run in full.
-/

namespace SyntaxWatch

/-- A command and what its last cycle saw. -/
structure Inspector where
  command : Command
  memory : Recall := {}

namespace Inspector

/-- One cycle on a text. The checker is run only when the text is not known. -/
def inspect (i : Inspector) (h : Host) (text : Text) (cap : Nat) (unwanted : Bool) :
    Host × Inspector × List Event :=
  if i.memory.knowsText text then
    (h, i, [.ended (.ok .sameText)])
  else
    let (h', check) := i.command.run h text
    let (memory, events) := i.memory.cycle text cap unwanted check
    (h', { i with memory }, events)

/-- Makes the next cycle run in full. -/
def forget (i : Inspector) : Inspector :=
  { i with memory := .empty }

/-- A single check of a text, without anything remembered. -/
def once (c : Command) (h : Host) (text : Text) (cap : Nat) :
    Host × Except CheckFault (List Diagnostic) :=
  let (h', check) := c.run h text
  (h', check.map (·.diagnose text cap))

end Inspector

end SyntaxWatch
