import SyntaxWatch.Json.Basic
import SyntaxWatch.Text.Visible
import SyntaxWatch.Uri.Basic

/-!
# Shapes of values

What an editor sends has to have a shape that the method asks for. A record comes as an object,
where fields that are not known are passed over, or as an array with its fields in order. The first
fault that is met decides: in an object the faults of fields that are there come in the order of
the object, and before those of fields that are missing.

Some records take the fields of others in among their own. They come as objects only, and the
other records are read after their own fields, out of what these left over. What is read out of
leftovers, or tried in several shapes, is held back first, which shows in the wording for arrays
that are too long.

## Main definitions

* `Shape`: the shapes.
* `ShapeFault`: why a value does not have a shape.
* `Shape.decode`: a value with all its records spelled as objects with all their fields.
-/

namespace SyntaxWatch

/-- A shape of values. -/
inductive Shape where
  /-- Any value. -/
  | any
  | string
  | bool
  /-- A number, whose kind has a name. -/
  | number (kind : String)
  /-- A whole number within bounds, whose kind has a name. -/
  | whole (kind : String) (low high : Int)
  | uri
  /-- A value that may be missing, or null. -/
  | optional (inner : Shape)
  /-- A value that may be missing, also in an array. -/
  | usual (inner : Shape)
  | list (item : Shape)
  /-- A list with a number of items. -/
  | row (size : Nat) (item : Shape)
  /-- An object with any fields, and what it is called. -/
  | map (expected : String) (key value : Shape)
  /-- One of some names. -/
  | choice (names : List String)
  /-- One name among some that tell records apart, or its place among them. -/
  | mark (names : List String) (name : String)
  /-- The first of several shapes that fits. -/
  | oneOf (name : String) (shapes : List Shape)
  /-- A Boolean, or a value. -/
  | switched (inner : Shape)
  | record (name : String) (fields : List (String × Shape))
  /-- A record that takes the fields of others in. -/
  | joined (name : String) (fields : List (String × Shape)) (others : List Shape)

/-- Why a value does not have a shape. -/
inductive ShapeFault where
  /-- The value is of another kind than expected. -/
  | kind (found : Json) (expected : Text)
  /-- The number is outside the bounds of its kind. -/
  | bounds (found : Int) (expected : Text)
  /-- The array has another number of items than expected. -/
  | length (found : Nat) (expected : Text)
  /-- The object does not have a single field, which it should have in place of a name. -/
  | notSingle
  /-- A field is missing. -/
  | missing (name : String)
  /-- The name is none of those that are known. -/
  | unknown (name : Text) (known : List String)
  /-- None of several shapes fits. -/
  | noneFits (name : String)
  /-- The text spells no URI. -/
  | uri (fault : Uri.Fault) (text : Text)

namespace ShapeFault

/-- What a value is, in a few words. -/
def describe : Json → Text
  | .null => "null".toList
  | .bool b => "boolean \x60".toList ++ (if b then "true".toList else "false".toList) ++ ['\x60']
  | .number n => "integer \x60".toList ++ Json.printInt n ++ ['\x60']
  | .string text => "string ".toList ++ text.visible
  | .array _ => "sequence".toList
  | .object _ => "map".toList

/-- A name in the quotes of messages. -/
def quoted (name : Text) : Text :=
  '\x60' :: name ++ ['\x60']

/-- Names from which to choose, in words. -/
def choices : List String → Text
  | [] => "there are no variants".toList
  | [one] => "expected ".toList ++ quoted one.toList
  | [one, other] => "expected ".toList ++ quoted one.toList ++ " or ".toList ++ quoted other.toList
  | names => "expected one of ".toList ++
      (", ".toList).intercalate (names.map fun name => quoted name.toList)

/-- The wording of a fault. -/
def message : ShapeFault → Text
  | kind found expected =>
    "invalid type: ".toList ++ describe found ++ ", expected ".toList ++ expected
  | bounds found expected =>
    "invalid value: ".toList ++ describe (.number found) ++ ", expected ".toList ++ expected
  | length found expected =>
    "invalid length ".toList ++ Decimal.print found ++ ", expected ".toList ++ expected
  | notSingle => "invalid value: map, expected map with a single key".toList
  | missing name => "missing field ".toList ++ quoted name.toList
  | unknown name known =>
    "unknown variant ".toList ++ quoted name ++ ", ".toList ++ choices known
  | noneFits name => "data did not match any variant of untagged enum ".toList ++ name.toList
  | uri fault text => fault.message ++ ": ".toList ++ text.visible

/-- The fault of a record whose array ends before a field, given the number of fields before it. -/
def short (name : String) (before fields : Nat) : ShapeFault :=
  length before ("struct ".toList ++ name.toList ++ " with ".toList ++ Decimal.print fields ++
    (if fields = 1 then " element".toList else " elements".toList))

/-- The fault of an array in which items are left over. -/
def long (held : Bool) (found taken : Nat) : ShapeFault :=
  length found (if held then
      Decimal.print taken ++ (if taken = 1 then " element" else " elements").toList ++
        " in sequence".toList
    else "fewer elements in array".toList)

end ShapeFault

namespace Shape

/-- The value of a field that is missing. -/
def absent (name : String) : Shape → Except ShapeFault Json
  | optional _ => .ok .null
  | usual _ => .ok .null
  | _ => .error (.missing name)

/-- Whether an item of an array may be missing at its end. -/
def isUsual : Shape → Bool
  | usual _ => true
  | _ => false

/-- A field that was read: its name, whether it is there, and its value. -/
abbrev Field := Text × Bool × Except ShapeFault Json

/-- The fields of a record that was read out of an object. Faults of fields that are there come
first, in the order of the object. -/
def gather (entries : List (Text × Json)) (fields : List Field) :
    Except ShapeFault (List (Text × Json)) := do
  let there := entries.filterMap fun (key, _) => fields.find? fun f => f.2.1 && f.1 == key
  let values ← (there ++ fields).mapM fun (name, _, value) => return (name, ← value)
  return values.drop there.length

/-- What a name that is chosen from others says, when it is told by an object. -/
def chosen (names : List String) (entries : List (Text × Json)) : Except ShapeFault Json :=
  match entries with
  | [(name, value)] =>
    if names.all (·.toList ≠ name) then .error (.unknown name names)
    else if value.isNull then .ok (.string name)
    else .error (.kind value "unit".toList)
  | _ => .error .notSingle

mutual

/-- A value of a shape, with all its records spelled as objects with all their fields. -/
def read (held : Bool) : Shape → Json → Except ShapeFault Json
  | any, j => .ok j
  | string, j => match j with
    | .string text => .ok (.string text)
    | _ => .error (.kind j "a string".toList)
  | bool, j => match j with
    | .bool b => .ok (.bool b)
    | _ => .error (.kind j "a boolean".toList)
  | number kind, j => match j with
    | .number n => .ok (.number n)
    | _ => .error (.kind j kind.toList)
  | whole kind low high, j => match j with
    | .number n =>
      if low ≤ n ∧ n ≤ high then .ok (.number n) else .error (.bounds n kind.toList)
    | _ => .error (.kind j kind.toList)
  | uri, j => match j with
    | .string text => match Uri.parse text with
      | .ok _ => .ok (.string text)
      | .error fault => .error (.uri fault text)
    | _ => .error (.kind j "a string representing an URL".toList)
  | optional inner, j => if j.isNull then .ok .null else read held inner j
  | usual inner, j => read held inner j
  | list item, j => match j with
    | .array items => return .array (← items.mapM (read held item))
    | _ => .error (.kind j "a sequence".toList)
  | row size item, j => match j with
    | .array items =>
      if items.length = size then return .array (← items.mapM (read held item))
      else .error (.length items.length ("an array of length ".toList ++ Decimal.print size))
    | _ => .error (.kind j ("an array of length ".toList ++ Decimal.print size))
  | map expected key value, j => match j with
    | .object entries => do
      let values ← entries.mapM fun (name, j) => do
        let _ ← read held key (.string name)
        return (name, ← read held value j)
      return .object values
    | _ => .error (.kind j expected.toList)
  | choice names, j => match j with
    | .string name =>
      if names.all (·.toList ≠ name) then .error (.unknown name names) else .ok (.string name)
    | .object entries => chosen names entries
    | _ => .error (.kind j "string or map".toList)
  | mark names name, j => match j with
    | .string text =>
      if text = name.toList then .ok j else .error (.unknown text names)
    | .number n =>
      if n = names.idxOf name then .ok j
      else .error (.bounds n ("variant index 0 <= i < ".toList ++ Decimal.print names.length))
    | _ => .error (.kind j "variant identifier".toList)
  | oneOf name shapes, j => match readFirst? shapes j with
    | some value => .ok value
    | none => .error (.noneFits name)
  | switched inner, j => match j with
    | .bool b => .ok (.bool b)
    | _ => read held inner j
  | record name fields, j => match j with
    | .object entries => return .object (← gather entries (readFields held fields entries))
    | .array items => do
      let (values, rest) ← readItems held name fields.length fields items
      if rest.isEmpty then return .object values
      else throw (.long held items.length fields.length)
    | _ => .error (.kind j ("struct ".toList ++ name.toList))
  | joined name fields others, j => match j with
    | .object entries => do
      let own ← gather entries (readFields held fields entries)
      let left := entries.filter fun (key, _) => fields.all fun (name, _) => name.toList ≠ key
      return .object (own ++ (← readOthers others left))
    | _ => .error (.kind j ("struct ".toList ++ name.toList))

/-- The fields of a record, out of an object. -/
def readFields (held : Bool) : List (String × Shape) → List (Text × Json) → List Field
  | [], _ => []
  | (name, shape) :: rest, entries =>
    (match entries.find? fun (key, _) => key == name.toList with
      | some (_, value) => (name.toList, true, read held shape value)
      | none => (name.toList, false, absent name shape)) :: readFields held rest entries

/-- The fields of a record, out of an array, and what is left over of the array. -/
def readItems (held : Bool) (record : String) (total : Nat) :
    List (String × Shape) → List Json → Except ShapeFault (List (Text × Json) × List Json)
  | [], items => .ok ([], items)
  | (name, shape) :: rest, [] => do
    if isUsual shape then
      let (values, left) ← readItems held record total rest []
      return ((name.toList, .null) :: values, left)
    else throw (.short record (total - (rest.length + 1)) total)
  | (name, shape) :: rest, item :: items => do
    let value ← read held shape item
    let (values, left) ← readItems held record total rest items
    return ((name.toList, value) :: values, left)

/-- The first of several shapes that a value has. -/
def readFirst? : List Shape → Json → Option Json
  | [], _ => none
  | shape :: rest, j => match read true shape j with
    | .ok value => some value
    | .error _ => readFirst? rest j

/-- The fields of the other records of a joined one. -/
def readOthers : List Shape → List (Text × Json) → Except ShapeFault (List (Text × Json))
  | [], _ => .ok []
  | shape :: rest, entries => do
    match ← read true shape (.object entries) with
    | .object values => return values ++ (← readOthers rest entries)
    | _ => readOthers rest entries

end

/-- A value of a shape, as it comes in a message. -/
def decode (s : Shape) (j : Json) : Except ShapeFault Json :=
  read false s j

end Shape

end SyntaxWatch
