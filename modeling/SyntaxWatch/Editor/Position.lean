import SyntaxWatch.Text.Basic

/-!
# Positions in an editor

An editor names a place in a text by a line, counted from zero, and a column in UTF-16 code units.
Both are words of 32 bits.

## Main definitions

* `Position.advance`: the position after one more character.
* `Text.position?`: the position of a byte offset.
-/

namespace SyntaxWatch

/-- A place between two characters of a text, as an editor counts. -/
structure Position where
  line : Nat
  character : Nat
  deriving DecidableEq, Repr

namespace Position

/-- The place before the first character. -/
def origin : Position := ⟨0, 0⟩

/-- The largest number that an editor can be told. -/
def limit : Nat := 4294967295

/-- The place behind one more character: a newline starts a line, and every other character moves
the column by its code units. -/
def advance (p : Position) (c : Char) : Position :=
  if c = '\n' then ⟨p.line + 1, 0⟩ else ⟨p.line, p.character + Text.unitsOf c⟩

/-- Whether both numbers fit into words of 32 bits. -/
def fits (p : Position) : Bool :=
  p.line ≤ limit && p.character ≤ limit

end Position

/-- The place of a byte offset that falls between two characters. -/
def Text.position? (text : Text) (offset : Nat) : Option Position := do
  let (before, _) ← text.cut? offset
  let place := before.foldl Position.advance Position.origin
  if place.fits then some place else none

end SyntaxWatch
