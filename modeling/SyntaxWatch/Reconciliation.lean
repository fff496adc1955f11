import SyntaxWatch.Finding
import SyntaxWatch.Highlight

/-!
# Reconciliation

Turns the complaints of one run into the diagnostics to show. The checker reports follow-up
complaints after the first one, so they are taken in reverse; every complaint gives one
diagnostic, and at most one diagnostic of a source line is highlighted. A later diagnostic takes
the highlight of its line over unless an error was seen there before.

## Main definitions

* `Severity.ofSummary`: the severity of a complaint.
* `Diagnostic.place`: adds the diagnostic of one complaint to those before it.
* `Diagnostic.reconcile`: the diagnostics of a list of complaints.
* `Transcript.diagnose`: the diagnostics of a run of the checker.
-/

namespace SyntaxWatch

/-- The words that tell a warning from an error. -/
def Severity.warningWords : List Text :=
  ["possible".toList, "Useless".toList, "may".toList, "better written as".toList]

/-- A complaint whose summary has one of the warning words is a warning. -/
def Severity.ofSummary (summary : Text) : Severity :=
  if warningWords.any (Search.occurs · summary) then .warning else .error

namespace Diagnostic

/-- The diagnostic without its highlight. -/
def unlit (d : Diagnostic) : Diagnostic :=
  { d with span := none }

/-- Takes the highlight from the diagnostics of a line. -/
def unlitAt (line : Nat) (placed : List Diagnostic) : List Diagnostic :=
  placed.map fun d => if d.line = line then d.unlit else d

/-- Whether an error was placed on a line. -/
def errorAt (line : Nat) (placed : List Diagnostic) : Bool :=
  placed.any fun d => d.line == line && d.severity == .error

/-- Adds the diagnostic of one complaint at the front of those placed before it. It takes over
the highlight of its line when the line has one to give and no error is on it. -/
def place (text : Text) (placed : List Diagnostic) (f : Finding) : List Diagnostic :=
  let severity := Severity.ofSummary f.summary
  let dark : Diagnostic := { line := f.line, message := f.message, severity, span := none }
  if errorAt f.line placed then
    dark :: placed
  else
    match text.highlight f.line with
    | .ok span => { dark with span := some span } :: unlitAt f.line placed
    | .error _ => dark :: placed

/-- The diagnostics of a list of complaints, the last complaint first. -/
def reconcile (text : Text) (findings : List Finding) : List Diagnostic :=
  (findings.reverse.foldl (place text) []).reverse

/-- Placing a complaint adds one diagnostic. -/
@[simp] theorem length_place (text : Text) (placed : List Diagnostic) (f : Finding) :
    (place text placed f).length = placed.length + 1 := by
  unfold place
  split
  · rfl
  · split <;> simp [unlitAt]

/-- Every complaint gives one diagnostic. -/
theorem length_reconcile (text : Text) (findings : List Finding) :
    (reconcile text findings).length = findings.length := by
  have fold : ∀ (fs : List Finding) (placed : List Diagnostic),
      (fs.foldl (place text) placed).length = placed.length + fs.length := by
    intro fs
    induction fs with
    | nil => simp
    | cons f fs ih =>
      intro placed
      rw [List.foldl_cons, ih, length_place, List.length_cons]
      omega
  rw [reconcile, List.length_reverse, fold, List.length_nil, List.length_reverse, Nat.zero_add]

end Diagnostic

/-- The diagnostics of a run of the checker on `text`, from the first `cap` lines of its output. -/
def Transcript.diagnose (transcript : Transcript) (text : Text) (cap : Nat) : List Diagnostic :=
  Diagnostic.reconcile text (transcript.findings cap)

end SyntaxWatch
