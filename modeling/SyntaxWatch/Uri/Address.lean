import SyntaxWatch.Text.Decimal
import SyntaxWatch.Text.Radix
import SyntaxWatch.Text.Search
import SyntaxWatch.Uri.Fault

/-!
# Addresses as hosts

A host may be an address instead of a name. An address of four parts is written in numbers with
points between, to base ten, eight or sixteen; the last number fills all parts that are left over.
An address of eight parts is written to base sixteen with colons between; two colons stand for a
row of zeros, and the last two parts may be written as an address of four parts.

## Main definitions

* `Uri.endsInNumber`: whether a name is meant as an address of four parts.
* `Uri.address4?`, `Uri.printAddress4`: addresses of four parts, which are kept as one number.
* `Uri.address6?`, `Uri.printAddress6`: addresses of eight parts.
-/

namespace SyntaxWatch.Uri

/-! ### Four parts -/

/-- The number that a part of an address spells. -/
def part? : Text → Option Nat
  | [] => none
  | '0' :: 'x' :: digits => if digits.isEmpty then some 0 else Radix.number? 16 digits
  | '0' :: 'X' :: digits => if digits.isEmpty then some 0 else Radix.number? 16 digits
  | ['0'] => some 0
  | '0' :: digits => Radix.number? 8 digits
  | digits => Radix.number? 10 digits

/-- The parts of a name between its points. A point at the end does not count. -/
def partsOf (name : Text) : List Text :=
  let parts := name.splitOn '.'
  if parts.getLast? = some [] then parts.dropLast else parts

/-- Whether the last part of a name is a number, or would be one to base ten. -/
def endsInNumber (name : Text) : Bool :=
  (partsOf name).getLast?.any fun last =>
    (!last.isEmpty && last.all Char.isDigit) || (part? last).isSome

/-- The address of four parts that a name spells. -/
def address4? (name : Text) : Option Nat := do
  let parts ← (partsOf name).mapM part?
  let last ← parts.getLast?
  let front := parts.dropLast
  let room := Nat.pow 256 (4 - front.length)
  if front.length ≤ 3 ∧ front.all (· < 256) ∧ last < room then
    return front.foldl (fun n part => n * 256 + part) 0 * room + last
  else
    none

/-- The written form of an address of four parts. -/
def printAddress4 (address : Nat) : Text :=
  ['.'].intercalate ([16777216, 65536, 256, 1].map fun weight =>
    Decimal.print (address / weight % 256))

/-! ### Eight parts -/

/-- The value of a part of up to four digits. -/
def group? (text : Text) : Option Nat :=
  if text.length ≤ 4 then Radix.number? 16 text else none

/-- The value of a number below 256 to base ten, without needless zeros in front. -/
def octet? (text : Text) : Option Nat :=
  if text.length ≤ 1 ∨ text.head? ≠ some '0' then (Decimal.digits? text).filter (· < 256) else none

/-- The two parts that are written as an address of four parts. -/
def pair? (text : Text) : Option (List Nat) := do
  match ← (text.splitOn '.').mapM octet? with
  | [a, b, c, d] => return [a * 256 + b, c * 256 + d]
  | _ => none

/-- The parts that a text without two colons spells. Only at the end may there be an address of four
parts. -/
def groups? (atEnd : Bool) (text : Text) : Option (List Nat) :=
  if text.isEmpty then some []
  else do
    let words := text.splitOn ':'
    let last ← words.getLast?
    let front ← words.dropLast.mapM group?
    if atEnd && last.contains '.' then return front ++ (← pair? last)
    else return front ++ [← group? last]

/-- The address of eight parts that a text spells. Two colons stand for at least one zero. -/
def address6? (text : Text) : Option (List Nat) :=
  match Search.around? "::".toList text with
  | none => (groups? true text).filter (·.length = 8)
  | some (before, behind) => do
    let front ← groups? false before
    let back ← groups? true behind
    if front.length + back.length < 8 then
      return front ++ List.replicate (8 - front.length - back.length) 0 ++ back
    else
      none

/-- The longest row of zeros: where it begins and how long it is. Of several the first. -/
def longestZeros (parts : List Nat) : Nat × Nat :=
  (List.range parts.length).foldl (fun best start =>
    let length := ((parts.drop start).takeWhile (· = 0)).length
    if best.2 < length then (start, length) else best) (0, 0)

/-- Parts to base sixteen, with colons between. -/
def printGroups (parts : List Nat) : Text :=
  [':'].intercalate (parts.map (Nat.toDigits 16))

/-- The written form of an address of eight parts. The longest row of zeros is left out, unless it
is a single one. -/
def printAddress6 (parts : List Nat) : Text :=
  let (start, length) := longestZeros parts
  if length < 2 then printGroups parts
  else printGroups (parts.take start) ++ "::".toList ++ printGroups (parts.drop (start + length))

example : address4? "0x7f.1".toList = some 2130706433 := by decide

example : (address6? "1:0:0:2::".toList).map printAddress6 = some "1:0:0:2::".toList := by
  decide +kernel

end SyntaxWatch.Uri
