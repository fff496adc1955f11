import SyntaxWatch.Text.Decimal

/-!
# JSON values and their written form

Values of the data format in which reports are printed and in which editors speak, and the compact
form in which they are written: no blanks, fields in their order, and in strings only those
characters escaped that have to be.

## Main definitions

* `Json`: the values.
* `Json.field?`, `Json.text?`, and the other readers of one layer of a value.
* `Json.quoted`: the written form of a string.
* `Json.print`: the written form of a value.
-/

namespace SyntaxWatch

/-- A JSON value whose numbers are integers. Fields keep their order. -/
inductive Json where
  | null
  | bool (value : Bool)
  | number (value : Int)
  | string (value : Text)
  | array (items : List Json)
  | object (fields : List (Text × Json))
  deriving Inhabited

namespace Json

/-! ### Reading one layer -/

/-- The value of a field of an object. -/
def field? (name : String) : Json → Option Json
  | object fields => (fields.find? fun (key, _) => key == name.toList).map (·.2)
  | _ => none

/-- The text of a string. -/
def text? : Json → Option Text
  | string value => some value
  | _ => none

/-- The value of a number. -/
def integer? : Json → Option Int
  | number value => some value
  | _ => none

/-- The items of an array. -/
def items? : Json → Option (List Json)
  | array items => some items
  | _ => none

/-- Whether a value is an object. -/
def isObject : Json → Bool
  | object _ => true
  | _ => false

/-- Whether a value is null. -/
def isNull : Json → Bool
  | null => true
  | _ => false

/-! ### Writing -/

/-- The written form of a character inside a string. The quote, the backslash and the control
characters are escaped, five of them by a letter. -/
def escape (c : Char) : Text :=
  if c = '"' then ['\\', '"']
  else if c = '\\' then ['\\', '\\']
  else if c = '\n' then ['\\', 'n']
  else if c = '\r' then ['\\', 'r']
  else if c = '\t' then ['\\', 't']
  else if c = '\x08' then ['\\', 'b']
  else if c = '\x0C' then ['\\', 'f']
  else if c.toNat < 0x20 then
    ['\\', 'u', '0', '0', (c.toNat / 16).digitChar, (c.toNat % 16).digitChar]
  else [c]

/-- The written form of a string. -/
def quoted (text : Text) : Text :=
  '"' :: text.flatMap escape ++ ['"']

/-- The written form of an integer. -/
def printInt : Int → Text
  | .ofNat n => Decimal.print n
  | .negSucc n => '-' :: Decimal.print (n + 1)

mutual

/-- The compact written form of a value. -/
def print : Json → Text
  | null => "null".toList
  | bool true => "true".toList
  | bool false => "false".toList
  | number value => printInt value
  | string value => quoted value
  | array items => '[' :: printItems items ++ [']']
  | object fields => '\x7b' :: printFields fields ++ ['\x7d']

/-- The items of an array, with commas between them. -/
def printItems : List Json → Text
  | [] => []
  | item :: rest => print item ++ printMoreItems rest

/-- The items of an array behind the first, each with a comma before it. -/
def printMoreItems : List Json → Text
  | [] => []
  | item :: rest => ',' :: print item ++ printMoreItems rest

/-- The fields of an object, with commas between them. -/
def printFields : List (Text × Json) → Text
  | [] => []
  | (key, value) :: rest => quoted key ++ ':' :: print value ++ printMoreFields rest

/-- The fields of an object behind the first, each with a comma before it. -/
def printMoreFields : List (Text × Json) → Text
  | [] => []
  | (key, value) :: rest => ',' :: quoted key ++ ':' :: print value ++ printMoreFields rest

end

end Json

end SyntaxWatch
