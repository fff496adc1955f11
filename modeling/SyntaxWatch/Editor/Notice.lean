import SyntaxWatch.Diagnostic
import SyntaxWatch.Editor.Position

/-!
# Notices

A diagnostic as an editor receives it, with a range of positions in place of a span of bytes.
Diagnostics without a usable span cover their whole line.

## Main definitions

* `Notice.ofDiagnostic`: the notice of a diagnostic of a text.
-/

namespace SyntaxWatch

/-- A diagnostic with the range that an editor underlines. -/
structure Notice where
  start : Position
  stop : Position
  severity : Severity
  message : Text
  deriving DecidableEq, Repr

namespace Notice

/-- The range of a whole line: from its start to the start of the next line, as far as the numbers
of an editor go. -/
def wholeLine (line : Nat) : Position × Position :=
  let first := min (line - 1) Position.limit
  (⟨first, 0⟩, ⟨min (first + 1) Position.limit, 0⟩)

/-- The positions of a span whose two ends fall between characters of the text. -/
def spanRange? (text : Text) (span : Span) : Option (Position × Position) := do
  let start ← text.position? span.start
  let stop ← text.position? span.stop
  return (start, stop)

/-- The range to underline for a diagnostic of a text. -/
def range (text : Text) (d : Diagnostic) : Position × Position :=
  (d.span.bind (spanRange? text)).getD (wholeLine d.line)

/-- The notice of a diagnostic of a text. -/
def ofDiagnostic (text : Text) (d : Diagnostic) : Notice where
  start := (range text d).1
  stop := (range text d).2
  severity := d.severity
  message := d.message

/-- The notices of a set of diagnostics, in the same order. -/
def ofDiagnostics (text : Text) (set : List Diagnostic) : List Notice :=
  set.map (ofDiagnostic text)

end Notice

end SyntaxWatch
