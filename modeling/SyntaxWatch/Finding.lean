import SyntaxWatch.Text.Blank
import SyntaxWatch.Text.Decimal
import SyntaxWatch.Text.Search

/-!
# Findings

Reads the complaints of the checker from what it wrote. A complaint is a line that names the
checked file and refers to one of its lines, as in `syntax error at /tmp/a.pl line 3, near "x"`.
The line after it, when it is indented, continues its message.

## Main definitions

* `Transcript`: what the checker wrote, with the path of the file that it was given.
* `Transcript.keptLines`: the lines that are looked at at all.
* `Finding.ofLine?`: the complaint on one line.
* `Transcript.findings`: the complaints of a transcript.
-/

namespace SyntaxWatch

/-- What a run of the checker left behind: the text of its error stream, and the path of the input
file as it appears there. -/
structure Transcript where
  output : Text
  input : Text
  deriving DecidableEq

/-- One complaint of the checker. The summary is the message up to the reference to the source
line. -/
structure Finding where
  line : Nat
  message : Text
  summary : Text
  continued : Bool
  deriving DecidableEq, Repr

namespace Finding

/-- The words that introduce a reference to a source line. -/
def marker : Text := " line ".toList

/-- The part of a text before the first `c`, if there is one. -/
def upTo? (c : Char) (text : Text) : Option Text :=
  if c ∈ text then some (text.takeWhile (· ≠ c)) else none

/-- The spelling of the line number in the word after the marker: it ends at a full stop, or at a
comma when there is no full stop. -/
def number? (word : Text) : Option Text :=
  upTo? '.' word <|> upTo? ',' word

/-- The complaint on one line. The path of the input is left out of the message wherever a space
follows it, and the number is sought in the word after the first marker. -/
def ofLine? (input line : Text) (continuation : Option Text) : Option Finding :=
  if input = [] ∨ Search.occurs input line = false then
    none
  else do
    let stripped := Search.replace (input ++ [' ']) [] line
    let (before, rest) ← Search.around? marker stripped
    let number ← number? (rest.takeWhile (· ≠ ' '))
    let line ← Decimal.read? number
    return {
      line
      message := match continuation with
        | none => stripped
        | some next => stripped ++ ' ' :: next.trimStart
      summary := before ++ marker ++ number
      continued := continuation.isSome }

/-- Whether a line continues the message of the line before it. -/
def isContinuation : Text → Bool
  | c :: _ => c == ' ' || c == '\t'
  | [] => false

/-- The complaints on a sequence of lines. -/
def ofLines (input : Text) : List Text → List Finding
  | [] => []
  | line :: rest =>
    (ofLine? input line (rest.head?.filter isContinuation)).toList ++ ofLines input rest

end Finding

namespace Transcript

/-- The part of a line before its first carriage return. -/
def beforeReturn (line : Text) : Text :=
  line.takeWhile (· ≠ '\r')

/-- The lines of an output that are looked at: the first `cap` of those that are not empty, each
cut at its first carriage return. -/
def keptLines (output : Text) (cap : Nat) : List Text :=
  ((output.lines.filter (· ≠ [])).map beforeReturn).take cap

/-- The complaints on the kept lines, in the order in which the checker printed them. -/
def findings (transcript : Transcript) (cap : Nat) : List Finding :=
  Finding.ofLines transcript.input (keptLines transcript.output cap)

end Transcript

end SyntaxWatch
