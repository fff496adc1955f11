import SyntaxWatch.Json.Basic
import SyntaxWatch.Text.Radix

/-!
# Reading JSON

A reader for the written form of values as RFC 8259 has it: blanks between tokens, strings with all
escapes, pairs of surrogates included, and no number with a leading zero. Of the numbers only the
integers are read. A text is taken apart into tokens, one character at a time, and a value is built
up from the tokens.

## Main definitions

* `Json.Token`, `Json.Scan`: the tokens, and what is being read of one.
* `Json.Build`: what has been built up of a value.
* `Json.read?`: the value that a text writes.
-/

namespace SyntaxWatch.Json

/-- A token of a written value. -/
inductive Token where
  | openArray
  | closeArray
  | openObject
  | closeObject
  | comma
  | colon
  /-- A run of characters that belong to no other token: a number, a truth value, null. -/
  | word (text : Text)
  | string (text : Text)
  deriving DecidableEq

/-! ### Characters to tokens -/

/-- What is being read. Texts are what has been read of a token. -/
inductive Scan where
  /-- Between tokens. -/
  | between
  | word (text : Text)
  | string (text : Text)
  /-- Behind a backslash. -/
  | escape (text : Text)
  /-- Inside an escape by number, with the digits still to come and the value so far, and behind the
  first half of a pair when there is one. -/
  | code (text : Text) (high : Option Nat) (missing value : Nat)
  /-- Behind the first half of a pair, and behind the backslash of the second one. -/
  | half (text : Text) (high : Nat)
  | halfEscape (text : Text) (high : Nat)
  deriving DecidableEq

namespace Scan

/-- The blanks between tokens. -/
def isSpace (c : Char) : Bool :=
  c = ' ' || c = '\t' || c = '\n' || c = '\r'

/-- The token that a character is. -/
def mark? : Char → Option Token
  | '[' => some .openArray
  | ']' => some .closeArray
  | '\x7b' => some .openObject
  | '\x7d' => some .closeObject
  | ',' => some .comma
  | ':' => some .colon
  | _ => none

/-- Whether a character ends a word. -/
def endsWord (c : Char) : Bool :=
  isSpace c || (mark? c).isSome || c = '"'

/-- Reads a character between tokens: what is being read then, and the tokens that are complete. -/
def start (c : Char) : Scan × List Token :=
  if endsWord c then (if c = '"' then string [] else between, (mark? c).toList)
  else (word [c], [])

/-- Reads the character behind a backslash. -/
def escaped (text : Text) : Char → Option Scan
  | '"' => some (string (text ++ ['"']))
  | '\\' => some (string (text ++ ['\\']))
  | '/' => some (string (text ++ ['/']))
  | 'b' => some (string (text ++ ['\x08']))
  | 'f' => some (string (text ++ ['\x0C']))
  | 'n' => some (string (text ++ ['\n']))
  | 'r' => some (string (text ++ ['\r']))
  | 't' => some (string (text ++ ['\t']))
  | 'u' => some (code text none 4 0)
  | _ => none

/-- The number of the character that two halves of a pair stand for. -/
def paired (high low : Nat) : Nat :=
  0x10000 + (high - 0xD800) * 0x400 + (low - 0xDC00)

/-- Goes on behind an escape by number. One half of a pair does not stand alone. -/
def coded (text : Text) (high : Option Nat) (value : Nat) : Option Scan :=
  match high with
  | some high =>
    if 0xDC00 ≤ value ∧ value < 0xE000 then
      some (string (text ++ [Char.ofNat (paired high value)]))
    else
      none
  | none =>
    if 0xD800 ≤ value ∧ value < 0xDC00 then some (half text value)
    else if value.isValidChar then some (string (text ++ [Char.ofNat value]))
    else none

/-- Reads one character: what is being read then, and the tokens that are complete. -/
def step (scan : Scan) (c : Char) : Option (Scan × List Token) :=
  match scan with
  | between => some (start c)
  | word text =>
    if endsWord c then some ((start c).1, .word text :: (start c).2)
    else some (word (text ++ [c]), [])
  | string text =>
    if c = '"' then some (between, [.string text])
    else if c = '\\' then some (escape text, [])
    else if c.toNat < 0x20 then none
    else some (string (text ++ [c]), [])
  | escape text => (escaped text c).map (·, [])
  | code text high missing value => do
    let digit ← Radix.digit? 16 c
    let value := value * 16 + digit
    if 1 < missing then return (code text high (missing - 1) value, [])
    else return (← coded text high value, [])
  | half text high => if c = '\\' then some (halfEscape text high, []) else none
  | halfEscape text high => if c = 'u' then some (code text (some high) 4 0, []) else none

/-- The tokens that the end of the text completes. Inside a string there is no end. -/
def finish : Scan → Option (List Token)
  | between => some []
  | word text => some [.word text]
  | _ => none

/-- Reads the rest of a text. -/
def run : Scan → Text → Option (List Token)
  | scan, [] => scan.finish
  | scan, c :: rest => do
    let (next, tokens) ← scan.step c
    return tokens ++ (← run next rest)

end Scan

/-! ### Tokens to values -/

/-- The number that digits write. There are no leading zeros. -/
def natural? (digits : Text) : Option Nat :=
  if digits.head? = some '0' ∧ digits ≠ ['0'] then none else Decimal.digits? digits

/-- The integer that a word writes. -/
def ofInteger? : Text → Option Int
  | '-' :: digits => (natural? digits).map fun n => -n
  | digits => (natural? digits).map fun n => n

/-- The value that a word writes. -/
def ofWord? (word : Text) : Option Json :=
  if word = "null".toList then some null
  else if word = "true".toList then some (bool true)
  else if word = "false".toList then some (bool false)
  else (ofInteger? word).map number

/-- An array or an object that is not complete: what is in it so far, and for an object the key
whose value is being read. -/
inductive Frame where
  | items (before : List Json)
  | field (before : List (Text × Json)) (key : Text)

/-- What has been built up, and what may come next. -/
inductive Build where
  /-- A value. -/
  | value (around : List Frame)
  /-- An item, or the end of the array that was just opened. -/
  | item (around : List Frame)
  /-- A key, or the end of the object that was just opened. -/
  | firstKey (around : List Frame)
  /-- A key, in an object with some fields. -/
  | key (around : List Frame) (before : List (Text × Json))
  /-- The colon behind a key. -/
  | colon (around : List Frame) (before : List (Text × Json)) (key : Text)
  /-- What follows a complete value. -/
  | behind (around : List Frame) (value : Json)

namespace Build

/-- Takes the first token of a value. -/
def start (around : List Frame) : Token → Option Build
  | .openArray => some (item around)
  | .openObject => some (firstKey around)
  | .word text => (ofWord? text).map (behind around)
  | .string text => some (behind around (.string text))
  | _ => none

/-- Takes one token. -/
def step : Build → Token → Option Build
  | value around, token => start around token
  | item around, .closeArray => some (behind around (array []))
  | item around, token => start (.items [] :: around) token
  | firstKey around, .closeObject => some (behind around (object []))
  | firstKey around, .string name => some (colon around [] name)
  | key around before, .string name => some (colon around before name)
  | colon around before name, .colon => some (value (.field before name :: around))
  | behind (.items before :: around) v, .comma => some (value (.items (before ++ [v]) :: around))
  | behind (.items before :: around) v, .closeArray => some (behind around (array (before ++ [v])))
  | behind (.field before name :: around) v, .comma => some (key around (before ++ [(name, v)]))
  | behind (.field before name :: around) v, .closeObject =>
    some (behind around (object (before ++ [(name, v)])))
  | _, _ => none

/-- The value that is complete at the end. -/
def finish : Build → Option Json
  | behind [] v => some v
  | _ => none

end Build

/-- The value that a text writes. -/
def read? (text : Text) : Option Json := do
  let tokens ← Scan.run .between text
  let built ← tokens.foldlM Build.step (.value [])
  built.finish

example : read? "\"\\ud834\\uDD1E\"".toList = some (string [Char.ofNat 0x1D11E]) := rfl

example : read? " [ -12 , null ]\n".toList = some (array [number (-12), null]) := rfl

example : read? "[01]".toList = none ∧ read? "[1,]".toList = none :=
  ⟨rfl, rfl⟩

end SyntaxWatch.Json
