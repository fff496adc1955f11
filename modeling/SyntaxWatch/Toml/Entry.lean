import SyntaxWatch.Toml.Token

/-!
# Entries of a TOML document

The entries of a document without tables: a key and a value on a line each. Values are whole
numbers, truth values, strings, and lists of strings, which may go over several lines. Documents
that hold anything else are refused.

## Main definitions

* `Toml.Value`: the values.
* `Toml.Value.ofWord?`: the value that a word spells.
* `Toml.entries?`: the entries of a document.
-/

namespace SyntaxWatch.Toml

/-- The value of an entry. -/
inductive Value where
  | integer (value : Int)
  | boolean (value : Bool)
  | string (value : Text)
  | strings (values : List Text)
  deriving DecidableEq, Repr

/-- The number that digits spell in a base, with single underscores between some of them. -/
def digits? (base : Nat) (text : Text) : Option Nat :=
  if (text.splitOn '_').contains [] then none else Radix.number? base (text.filter (· ≠ '_'))

/-- The number that a word without a sign spells in base ten. There are no leading zeros. -/
def decimal? : Text → Option Nat
  | ['0'] => some 0
  | '0' :: _ => none
  | text => digits? 10 text

/-- The whole number that a word spells. A base other than ten is told by two characters, and then
there is no sign. -/
def integer? : Text → Option Int
  | '+' :: rest => (decimal? rest).map Int.ofNat
  | '-' :: rest => (decimal? rest).map fun n => -Int.ofNat n
  | '0' :: 'x' :: rest => (digits? 16 rest).map Int.ofNat
  | '0' :: 'o' :: rest => (digits? 8 rest).map Int.ofNat
  | '0' :: 'b' :: rest => (digits? 2 rest).map Int.ofNat
  | text => (decimal? text).map Int.ofNat

/-- The value that a word spells. -/
def Value.ofWord? (text : Text) : Option Value :=
  if text = "true".toList then some (.boolean true)
  else if text = "false".toList then some (.boolean false)
  else (integer? text).map .integer

/-- Where the reading of a line stands. -/
inductive Place where
  | lineStart
  | key (key : Text)
  | value (key : Text)
  /-- In a list, where an item or the end may follow. -/
  | item (key : Text) (values : List Text)
  /-- In a list, behind an item. -/
  | behindItem (key : Text) (values : List Text)
  /-- Behind the value. -/
  | lineEnd
  deriving DecidableEq, Repr

/-- Reads one token: where the reading stands then, and the entry that is complete. -/
def Place.step (place : Place) (token : Token) : Option (Place × List (Text × Value)) :=
  match place, token with
  | lineStart, .newline => some (lineStart, [])
  | lineStart, .word text => some (key text, [])
  | lineStart, .string text => some (key text, [])
  | key k, .equals => some (value k, [])
  | value k, .word text => (Value.ofWord? text).map fun v => (lineEnd, [(k, v)])
  | value k, .string text => some (lineEnd, [(k, .string text)])
  | value k, .block text => some (lineEnd, [(k, .string text)])
  | value k, .opening => some (item k [], [])
  | item k values, .newline => some (item k values, [])
  | item k values, .string text => some (behindItem k (values ++ [text]), [])
  | item k values, .block text => some (behindItem k (values ++ [text]), [])
  | item k values, .closing => some (lineEnd, [(k, .strings values)])
  | behindItem k values, .newline => some (behindItem k values, [])
  | behindItem k values, .comma => some (item k values, [])
  | behindItem k values, .closing => some (lineEnd, [(k, .strings values)])
  | lineEnd, .newline => some (lineStart, [])
  | _, _ => none

/-- Reads the rest of a document. -/
def Place.run : Place → List Token → Option (List (Text × Value))
  | lineStart, [] => some []
  | lineEnd, [] => some []
  | _, [] => none
  | place, token :: rest => do
    let (next, entries) ← place.step token
    return entries ++ (← run next rest)

/-- The entries of a document. -/
def entries? (text : Text) : Option (List (Text × Value)) :=
  (Token.ofText? text).bind Place.lineStart.run

end SyntaxWatch.Toml
