/-!
# Text and its measures

A text is the list of its characters. Checkers count in bytes of UTF-8 and editors count in
UTF-16 code units, so a text has two lengths beside the number of its characters.

## Main definitions

* `Text.bytes`, `Text.units`: the lengths in bytes of UTF-8 and in UTF-16 code units.
* `Text.cut?`: the two halves of a text around a byte offset, when the offset falls between two
  characters.
* `Text.slice?`: the part of a text between two byte offsets.
-/

namespace SyntaxWatch

/-- A text is the list of its characters. -/
abbrev Text := List Char

namespace Text

/-- The number of UTF-16 code units of a character: two beyond the basic plane. -/
def unitsOf (c : Char) : Nat :=
  if c.toNat < 0x10000 then 1 else 2

/-- The length of a text in bytes of UTF-8. -/
def bytes : Text → Nat
  | [] => 0
  | c :: rest => c.utf8Size + bytes rest

/-- The length of a text in UTF-16 code units. -/
def units : Text → Nat
  | [] => 0
  | c :: rest => unitsOf c + units rest

/-- Cuts a text at a byte offset. There is no cut inside a character or past the end. -/
def cut? : Text → Nat → Option (Text × Text)
  | text, 0 => some ([], text)
  | [], _ + 1 => none
  | c :: rest, offset + 1 =>
    if c.utf8Size ≤ offset + 1 then
      (cut? rest (offset + 1 - c.utf8Size)).map fun (before, after) => (c :: before, after)
    else
      none

/-- The part of a text from one byte offset up to another, when both fall between characters
and stand in order. -/
def slice? (text : Text) (start stop : Nat) : Option Text :=
  if start ≤ stop then do
    let (_, after) ← cut? text start
    let (inside, _) ← cut? after (stop - start)
    return inside
  else
    none

/-- The lines of a text: what stands between its newlines. A text that ends in a newline ends in
an empty line. -/
def lines (text : Text) : List Text :=
  text.splitOn '\n'

/-! ### Measures and concatenation -/

@[simp] theorem bytes_nil : bytes [] = 0 := rfl

@[simp] theorem bytes_cons (c : Char) (rest : Text) :
    bytes (c :: rest) = c.utf8Size + bytes rest := rfl

@[simp] theorem bytes_append (first second : Text) :
    bytes (first ++ second) = bytes first + bytes second := by
  induction first with
  | nil => simp
  | cons c rest ih => simp [ih, Nat.add_assoc]

@[simp] theorem units_nil : units [] = 0 := rfl

@[simp] theorem units_cons (c : Char) (rest : Text) :
    units (c :: rest) = unitsOf c + units rest := rfl

@[simp] theorem units_append (first second : Text) :
    units (first ++ second) = units first + units second := by
  induction first with
  | nil => simp
  | cons c rest ih => simp [ih, Nat.add_assoc]

/-! ### Cuts -/

@[simp] theorem cut?_zero (text : Text) : cut? text 0 = some ([], text) := by
  cases text <;> rfl

/-- Cutting at the length of the first half gives back both halves. -/
theorem cut?_append (before after : Text) :
    cut? (before ++ after) (bytes before) = some (before, after) := by
  induction before with
  | nil => simp
  | cons c rest ih =>
    have pos : 0 < c.utf8Size := c.utf8Size_pos
    obtain ⟨n, hn⟩ : ∃ n, c.utf8Size + bytes rest = n + 1 := ⟨c.utf8Size + bytes rest - 1, by omega⟩
    have fits : c.utf8Size ≤ n + 1 := by omega
    have left : n + 1 - c.utf8Size = bytes rest := by omega
    simp only [List.cons_append, bytes_cons, hn, cut?, if_pos fits, left, ih, Option.map_some]

/-- A cut splits the text at the stated length. -/
theorem eq_append_of_cut? {text before after : Text} {offset : Nat}
    (h : cut? text offset = some (before, after)) :
    text = before ++ after ∧ bytes before = offset := by
  fun_induction cut? text offset generalizing before after with
  | case1 text =>
    cases h
    exact ⟨rfl, rfl⟩
  | case2 => cases h
  | case3 c rest offset fits ih =>
    obtain ⟨⟨b, a⟩, hcut, heq⟩ := Option.map_eq_some_iff.1 h
    cases heq
    obtain ⟨rfl, hb⟩ := ih hcut
    exact ⟨rfl, by rw [bytes_cons, hb]; omega⟩
  | case4 => cases h

end Text

end SyntaxWatch
