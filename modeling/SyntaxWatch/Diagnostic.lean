import SyntaxWatch.Text.Basic

/-!
# Diagnostics

What is shown for one complaint of the checker: the source line, the message, how grave it is, and
the bytes of the source to highlight.
-/

namespace SyntaxWatch

/-- How grave a complaint is. -/
inductive Severity where
  | error
  | warning
  deriving DecidableEq, Repr

/-- The part of a text from the byte offset `start` up to the byte offset `stop`. -/
structure Span where
  start : Nat
  stop : Nat
  deriving DecidableEq, Repr

namespace Span

/-- The number of bytes of a span. A span that stops before it starts has no length. -/
def length? (span : Span) : Option Nat :=
  if span.start ≤ span.stop then some (span.stop - span.start) else none

/-- Whether a span stops where it starts. -/
def isEmpty (span : Span) : Bool :=
  span.start == span.stop

end Span

/-- One complaint of the checker, as it is shown. -/
structure Diagnostic where
  line : Nat
  message : Text
  severity : Severity
  span : Option Span
  deriving DecidableEq, Repr

namespace Diagnostic

/-- The number of diagnostics of a severity. -/
def countOf (severity : Severity) (set : List Diagnostic) : Nat :=
  set.countP (·.severity == severity)

/-- Whether a set holds an error. -/
def hasErrors (set : List Diagnostic) : Bool :=
  set.any (·.severity == .error)

/-- A set holds an error exactly when it counts one. -/
theorem hasErrors_iff (set : List Diagnostic) :
    hasErrors set = true ↔ 0 < countOf .error set := by
  simp [hasErrors, countOf, List.countP_pos_iff]

end Diagnostic

end SyntaxWatch
