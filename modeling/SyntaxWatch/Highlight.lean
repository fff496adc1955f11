import SyntaxWatch.Diagnostic
import SyntaxWatch.Text.Blank

/-!
# Highlights

Finds the bytes of a source line. Lines are numbered from one, and a text that ends in a newline
has an empty line behind it. The highlight of a line leaves out its indentation and the blanks at
its end.

## Main definitions

* `Text.lineCount`: the number of lines.
* `Text.lineStart`: the byte offset at which a line starts.
* `Text.highlight`: the part of a line that is highlighted.
-/

namespace SyntaxWatch

/-- Why a text has no line of some number. -/
inductive LineError where
  | zero
  | outOfRange (line available : Nat)
  deriving DecidableEq, Repr

/-- The wording of an error. -/
def LineError.message : LineError → String
  | .zero => "line numbers are 1-based, got 0"
  | .outOfRange line available => s!"line {line} is out of range, text has {available} lines"

namespace Text

/-- The number of lines, with the empty one behind a last newline. -/
def lineCount (text : Text) : Nat :=
  text.count '\n' + 1

/-- What remains of a text behind its first `n` newlines, and the number of bytes before that. -/
def skipLines : Nat → Text → Option (Nat × Text)
  | 0, text => some (0, text)
  | _ + 1, [] => none
  | n + 1, c :: rest =>
    (skipLines (if c = '\n' then n else n + 1) rest).map fun (skipped, left) =>
      (c.utf8Size + skipped, left)

/-- The byte offset at which a line starts, and the text from there on. -/
def seekLine (text : Text) : Nat → Except LineError (Nat × Text)
  | 0 => .error .zero
  | n + 1 =>
    match skipLines n text with
    | some found => .ok found
    | none => .error (.outOfRange (n + 1) text.lineCount)

/-- The byte offset at which a line starts. -/
def lineStart (text : Text) (line : Nat) : Except LineError Nat :=
  return (← seekLine text line).1

/-- Spaces and tabs, which indent a line. -/
def isIndent (c : Char) : Bool :=
  c == ' ' || c == '\t'

/-- The highlight of a line: it starts behind the indentation and is as long as the line without
the blanks at both its ends. -/
def highlight (text : Text) (line : Nat) : Except LineError Span := do
  let (lineStart, rest) ← seekLine text line
  let content : Text := rest.takeWhile (· ≠ '\n')
  let start := lineStart + (content.takeWhile isIndent).length
  return { start, stop := start + content.trim.bytes }

/-! ### Which lines there are -/

/-- As many lines can be skipped as there are line feeds to skip them by. -/
theorem skipLines_isSome_iff (n : Nat) (text : Text) :
    (skipLines n text).isSome ↔ n ≤ text.count '\n' := by
  induction text generalizing n with
  | nil => cases n <;> simp [skipLines]
  | cons c rest ih =>
    cases n with
    | zero => simp [skipLines]
    | succ n =>
      rw [skipLines, Option.isSome_map, ih]
      by_cases hc : c = '\n'
      · simp [hc]
      · simp [hc, List.count_cons_of_ne]

end Text

end SyntaxWatch
