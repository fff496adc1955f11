import SyntaxWatch.Text.Basic

/-!
# Digits in a base

The numbers that digits spell in a base of at most sixteen. Letters of either case are digits from
ten on.

## Main definitions

* `Radix.digit?`: the value of one digit.
* `Radix.number?`: the number that a sequence of digits spells.
-/

namespace SyntaxWatch.Radix

/-- The value of a digit in base sixteen. -/
def hexadecimal? (c : Char) : Option Nat :=
  if c.isDigit then some (c.toNat - '0'.toNat)
  else if 'a' ≤ c ∧ c ≤ 'f' then some (c.toNat - 'a'.toNat + 10)
  else if 'A' ≤ c ∧ c ≤ 'F' then some (c.toNat - 'A'.toNat + 10)
  else none

/-- The value of a digit in a base. -/
def digit? (base : Nat) (c : Char) : Option Nat :=
  (hexadecimal? c).filter (· < base)

/-- The number that a sequence of digits spells in a base. There is at least one digit. -/
def number? (base : Nat) (text : Text) : Option Nat := do
  let digits ← text.mapM (digit? base)
  if digits = [] then none else some (digits.foldl (fun n d => n * base + d) 0)

example : number? 16 ['1', 'F'] = some 31 := by decide

example : number? 2 ['1', '2'] = none := by decide

end SyntaxWatch.Radix
