import SyntaxWatch.Text.Basic

/-!
# Labels in ASCII

A label with characters beyond ASCII is written in ASCII by an encoding made for the purpose. The
ASCII characters come first. Then the others are told in the order of their numbers: for each of
them, how many steps lie between the last one and it, where one step goes to the next place in
the label, and behind the last place to the first place for the next number. The counts of steps
are written in digits whose weights adapt to the counts before.

## Main definitions

* `Punycode.encode`: the ASCII form of a label.
* `Punycode.decode?`: the label that an ASCII form spells.
-/

namespace SyntaxWatch.Domain.Punycode

/-- The character of a digit in base 36: the letters, then the digits. -/
def digitChar (value : Nat) : Char :=
  if value < 26 then Char.ofNat ('a'.toNat + value) else Char.ofNat ('0'.toNat + (value - 26))

/-- The value of a digit in base 36. -/
def digit? (c : Char) : Option Nat :=
  if 'a' ≤ c ∧ c ≤ 'z' then some (c.toNat - 'a'.toNat)
  else if c.isDigit then some (c.toNat - '0'.toNat + 26)
  else none

/-- The smallest value that a digit must have for more digits to follow it. It depends on the place
of the digit, which counts from one, and on the bias. -/
def threshold (place bias : Nat) : Nat :=
  min 26 (max 1 (36 * place - bias))

/-- Every threshold is at least one, so that some digit ends a number. -/
theorem threshold_pos (place bias : Nat) : 1 ≤ threshold place bias := by
  unfold threshold
  omega

/-- No threshold passes 26, so that each place weighs at least ten times the one before it. -/
theorem threshold_le (place bias : Nat) : threshold place bias ≤ 26 := by
  unfold threshold
  omega

/-- The bias for a count that was divided down, given the weight of the divisions so far. -/
def biasFrom (weight count : Nat) : Nat :=
  if 455 < count then biasFrom (weight + 36) (count / 35) else weight + 36 * count / (count + 38)
termination_by count
decreasing_by exact Nat.div_lt_self (by omega) (by omega)

/-- The bias after a count. The first count is damped, because it tends to be large. -/
def adapt (first : Bool) (count places : Nat) : Nat :=
  let scaled := if first then count / 700 else count / 2
  biasFrom 0 (scaled + scaled / places)

/-! ### Encoding -/

/-- The digits of a count. -/
def digits (bias place count : Nat) : Text :=
  let t := threshold place bias
  if count < t then [digitChar count]
  else digitChar (t + (count - t) % (36 - t)) :: digits bias (place + 1) ((count - t) / (36 - t))
termination_by count
decreasing_by
  have low := threshold_pos place bias
  have high := threshold_le place bias
  have shrunk := Nat.div_le_self (count - threshold place bias) (36 - threshold place bias)
  omega

/-- How far a label has been written: the digits, the steps since the last character, the bias, and
how many characters have been told. -/
structure Writing where
  digits : Text := []
  steps : Nat := 0
  bias : Nat := 72
  told : Nat

/-- Passes one place of a label while characters with a number are told. -/
def Writing.pass (plain number : Nat) (w : Writing) (c : Char) : Writing :=
  if c.toNat < number then { w with steps := w.steps + 1 }
  else if c.toNat = number then {
    digits := w.digits ++ Punycode.digits w.bias 1 w.steps
    steps := 0
    bias := adapt (w.told = plain) w.steps (w.told + 1)
    told := w.told + 1 }
  else w

/-- Tells the characters with some numbers, in ascending order, from a number on. -/
def tell (label : Text) (plain : Nat) : Nat → List Nat → Writing → Writing
  | _, [], w => w
  | from_, number :: rest, w =>
    let reached := { w with steps := w.steps + (number - from_) * (w.told + 1) }
    let passed := label.foldl (Writing.pass plain number) reached
    tell label plain (number + 1) rest { passed with steps := passed.steps + 1 }

/-- The ASCII form of a label. -/
def encode (label : Text) : Text :=
  let plain := label.filter (·.toNat < 0x80)
  let numbers := ((label.map Char.toNat).filter (0x80 ≤ ·)).mergeSort.eraseDups
  let written := tell label plain.length 0x80 numbers { told := plain.length }
  (if plain.isEmpty then [] else plain ++ ['-']) ++ written.digits

/-! ### Decoding -/

/-- How far an ASCII form has been read: the label so far, the number and the place that were
reached, the bias, and the count whose digits are being read, with the place and the weight of the
next digit. -/
structure Reading where
  label : Text
  number : Nat := 0x80
  reached : Nat := 0
  bias : Nat := 72
  first : Bool := true
  count : Nat := 0
  place : Nat := 1
  weight : Nat := 1

/-- Puts the next character into the label, once its count is known. -/
def Reading.put? (r : Reading) (count : Nat) : Option Reading :=
  let places := r.label.length + 1
  let number := r.number + (r.reached + count) / places
  let place := (r.reached + count) % places
  if number.isValidChar then
    some {
      label := r.label.take place ++ Char.ofNat number :: r.label.drop place
      number
      reached := place + 1
      bias := adapt r.first count places
      first := false }
  else
    none

/-- Reads the digits of the counts. The last count has to be complete. -/
def readDigits? (r : Reading) : Text → Option Text
  | [] => if r.place = 1 then some r.label else none
  | c :: rest => do
    let value ← digit? c
    let count := r.count + value * r.weight
    let t := threshold r.place r.bias
    if value < t then
      readDigits? (← r.put? count) rest
    else
      readDigits? { r with count, place := r.place + 1, weight := r.weight * (36 - t) } rest

/-- The label that an ASCII form spells. The last hyphen ends the ASCII characters, unless it comes
first. -/
def decode? (form : Text) : Option Text :=
  let back := form.reverse
  let digits := (back.takeWhile (· ≠ '-')).reverse
  let plain := ((back.dropWhile (· ≠ '-')).drop 1).reverse
  if plain.isEmpty then readDigits? { label := [] } form
  else readDigits? { label := plain } digits

example : digit? (digitChar 35) = some 35 := by decide

end SyntaxWatch.Domain.Punycode
