import SyntaxWatch.Cycle.Recall
import SyntaxWatch.Process.Fault
import SyntaxWatch.Reconciliation

/-!
# Cycles

One cycle checks one snapshot of a text and shows what the checker had to say, unless nothing has
changed since the last cycle. The checker is not run for a text that is known, and nothing is
shown for an output that is known. The name of the scratch file differs from run to run, so
outputs are compared without it.

A cycle whose run fails changes nothing, so what is shown stays and the next cycle tries again. A
cycle that is no longer wanted when its run is over is discarded.

## Main definitions

* `Outcome`, `Event`: how a cycle ends, and what it does on the way.
* `Recall.conclude`: what a cycle does with a transcript.
* `Recall.cycle`: a whole cycle.
-/

namespace SyntaxWatch

/-- How a cycle ends. -/
inductive Outcome where
  /-- The text was known, and the checker was not run. -/
  | sameText
  /-- The output was known, and nothing was shown. -/
  | sameOutput
  /-- The cycle was no longer wanted when its run was over. -/
  | discarded
  /-- A set of diagnostics was shown. -/
  | shown (count : Nat)
  deriving DecidableEq, Repr

/-- What a cycle does that others can see. -/
inductive Event where
  /-- The checker was run on a text. -/
  | checked (text : Text)
  /-- The diagnostics of a text were shown. -/
  | shown (text : Text) (set : List Diagnostic)
  /-- The cycle ended. -/
  | ended (result : Except CheckFault Outcome)

/-- What stands for the path of the input where outputs are compared. -/
def Transcript.placeholder : Text := "<input>".toList

/-- The output of a transcript without the path of its input. -/
def Transcript.fingerprint (t : Transcript) : Text :=
  Search.replace t.input placeholder t.output

namespace Recall

/-- What a cycle on `text` does with the transcript of its run: what it remembers, how it ends, and
what it shows. -/
def conclude (r : Recall) (text : Text) (cap : Nat) (unwanted : Bool) (t : Transcript) :
    Recall × Outcome × Option (List Diagnostic) :=
  if unwanted then
    (r, .discarded, none)
  else if r.knowsOutput t.fingerprint then
    (r.withText text, .sameOutput, none)
  else
    let set := t.diagnose text cap
    ((r.withText text).withOutput t.fingerprint, .shown set.length, some set)

/-- The events of showing a set of diagnostics, if there is one to show. -/
def shownEvents (text : Text) : Option (List Diagnostic) → List Event
  | some set => [.shown text set]
  | none => []

/-- The end of a cycle on `text` whose run is over. -/
def close (r : Recall) (text : Text) (cap : Nat) (unwanted : Bool) :
    Except CheckFault Transcript → Recall × List Event
  | .error fault => (r, [.ended (.error fault)])
  | .ok t =>
    let (r', outcome, set?) := r.conclude text cap unwanted t
    (r', shownEvents text set? ++ [.ended (.ok outcome)])

/-- A whole cycle on `text`, whose run of the checker would yield `check`. -/
def cycle (r : Recall) (text : Text) (cap : Nat) (unwanted : Bool)
    (check : Except CheckFault Transcript) : Recall × List Event :=
  if r.knowsText text then
    (r, [.ended (.ok .sameText)])
  else
    let (r', events) := r.close text cap unwanted check
    (r', .checked text :: events)

end Recall

namespace Event

/-- The set of diagnostics that an event shows. -/
def set? : Event → Option (List Diagnostic)
  | .shown _ set => some set
  | _ => none

/-- The result with which an event ends a cycle. -/
def result? : Event → Option (Except CheckFault Outcome)
  | .ended result => some result
  | _ => none

end Event

end SyntaxWatch
