import SyntaxWatch.Text.Basic

/-!
# Decimal numbers

The decimal form of a number, and the numbers of 64 bits that a text spells.
-/

namespace SyntaxWatch.Decimal

/-- The largest number of 64 bits. -/
def limit : Nat := 18446744073709551615

/-- The decimal form, without leading zeros. -/
def print (n : Nat) : Text :=
  Nat.toDigits 10 n

/-- The number that a sequence of digits spells. There is at least one digit, and the digits are
those of ASCII. -/
def digits? (text : Text) : Option Nat :=
  if text.isEmpty || text.any (fun c => !c.isDigit) then none else some (Nat.ofDigitChars 10 text 0)

/-- The number of 64 bits that a text spells: digits after at most one plus sign. Leading zeros
are allowed. -/
def read? (text : Text) : Option Nat :=
  let digits := match text with
    | '+' :: rest => rest
    | _ => text
  (digits? digits).filter (· ≤ limit)

/-- Every number reads back from its decimal form. -/
theorem digits?_print (n : Nat) : digits? (print n) = some n := by
  have digit : ∀ c ∈ print n, c.isDigit = true := fun c hc =>
    Nat.isDigit_of_mem_toDigits (by omega) (by omega) hc
  have some_digit : (print n).isEmpty = false := by
    simp [print]
  have all_digits : (print n).any (fun c => !c.isDigit) = false := by
    rw [List.any_eq_false]
    intro c hc
    simp [digit c hc]
  rw [digits?, some_digit, all_digits]
  simp [print]

end SyntaxWatch.Decimal
