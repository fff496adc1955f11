import SyntaxWatch.Text.Radix

/-!
# Sets of characters

Properties of characters are told by tables over all characters. A table is written as a text: the
numbers of characters to base sixteen, or ranges of them, with blanks between.

## Main definitions

* `Ranges`: a set of characters, as ranges of their numbers.
* `Ranges.ofTable`: the set that a text writes down.
* `Ranges.contains`: whether a character is in a set.
-/

namespace SyntaxWatch

/-- A set of characters: the first and the last number of each range. -/
abbrev Ranges := List (Nat × Nat)

namespace Ranges

/-- The words of a table. -/
def words (table : String) : List Text :=
  ((table.toList.map fun c => if c = '\n' then ' ' else c).splitOn ' ').filter (!·.isEmpty)

/-- The number that a word of a table writes down. -/
def number (word : Text) : Nat :=
  (Radix.number? 16 word).getD 0

/-- The range that a word writes down: one number, or two with a hyphen between. -/
def ofWord (word : Text) : Nat × Nat :=
  let (first, last) := word.span (· ≠ '-')
  (number first, if last.isEmpty then number first else number (last.drop 1))

/-- The set that a text writes down. -/
def ofTable (table : String) : Ranges :=
  (words table).map ofWord

/-- Whether a set holds a number. -/
def holds (ranges : Ranges) (n : Nat) : Bool :=
  ranges.any fun (first, last) => first ≤ n && n ≤ last

/-- Whether a character is in a set. -/
def contains (ranges : Ranges) (c : Char) : Bool :=
  ranges.holds c.toNat

end Ranges

end SyntaxWatch
