import Mathlib.Data.Prod.Lex
import SyntaxWatch.Editor.Position
import SyntaxWatch.Proofs.Text.Line

/-!
# Positions and byte offsets

A byte offset between two characters of a text has a position, which is the place behind the text in
front of it (`Position.behind`). That place is the number of lines that are finished there and the
code units of the one that is not (`Position.behind_eq`). Every character moves the place forward,
be it to the next line, so positions are ordered like the offsets (`Position.behind_lt_behind`). In
a text of no more bytes than the largest number that an editor can be told, every position fits
(`Position.fits_behind`).

## Main results

* `Text.position?_bytes`: the position of an offset between characters.
* `Text.position?_embeds`: there is one for no other offset, positions are ordered like the offsets,
  and a line starts at column zero of its number.
-/

namespace SyntaxWatch

namespace Text

/-- Every character takes up room on its line. -/
theorem unitsOf_pos (c : Char) : 0 < unitsOf c := by
  rw [unitsOf]
  split <;> omega

/-- A character beyond the basic plane takes more than one byte. -/
theorem unitsOf_le_utf8Size (c : Char) : unitsOf c ≤ c.utf8Size := by
  have pos : 0 < c.utf8Size := c.utf8Size_pos
  rw [unitsOf]
  split
  · exact pos
  · next beyond =>
      have wide : c.utf8Size ≠ 1 := by
        intro single
        have small : c.val.toNat ≤ 127 :=
          UInt32.le_iff_toNat_le.1 (Char.utf8Size_eq_one_iff.1 single)
        exact beyond (Nat.lt_of_le_of_lt small (by decide))
      omega

/-- A text has at most as many units as bytes, so that a bound on its bytes is one on all columns.
-/
theorem units_le_bytes (text : Text) : units text ≤ bytes text := by
  induction text with
  | nil => exact Nat.le_refl 0
  | cons c rest ih => exact Nat.add_le_add (unitsOf_le_utf8Size c) ih

/-- The units of a text are at least those of its front. -/
theorem units_le_units {front back : Text} (h : front <+: back) : units front ≤ units back := by
  obtain ⟨rest, rfl⟩ := h
  simp

/-- Each line above takes at least the byte of its newline. -/
theorem length_le_bytes_ended (above : List Text) : above.length ≤ bytes (ended above) := by
  induction above with
  | nil => exact Nat.le_refl 0
  | cons line above ih =>
      have newline : Char.utf8Size '\n' = 1 := rfl
      rw [ended_cons, bytes_append, bytes_cons, newline, List.length_cons]
      omega

end Text

namespace Position

open Text (ended units bytes)

variable {p q : Position} {front back : Text} {above : List Text}

/-- Positions are ordered by their lines, and on one line by their columns. -/
instance : PartialOrder Position :=
  PartialOrder.lift (fun p => toLex (p.line, p.character)) fun p q same => by
    cases p
    cases q
    simpa using same

/-- A position comes before another on an earlier line, or on the same line at an earlier column. -/
theorem lt_iff : p < q ↔ p.line < q.line ∨ p.line = q.line ∧ p.character < q.character :=
  Prod.Lex.toLex_lt_toLex

/-- A position is at or before another on an earlier line, or on the same line and not at a later
column. -/
theorem le_iff : p ≤ q ↔ p.line < q.line ∨ p.line = q.line ∧ p.character ≤ q.character :=
  Prod.Lex.toLex_le_toLex

/-! ### Places behind a text -/

/-- The place behind a text. -/
def behind (front : Text) : Position :=
  front.foldl advance origin

/-- A character moves the place forward. -/
theorem lt_advance (p : Position) (c : Char) : p < p.advance c := by
  have pos := Text.unitsOf_pos c
  rw [lt_iff, advance]
  split
  · exact .inl (Nat.lt_succ_self _)
  · exact .inr ⟨rfl, Nat.lt_add_of_pos_right pos⟩

/-- Advancing over a text never goes back. -/
theorem le_foldl (more : Text) (p : Position) : p ≤ more.foldl advance p := by
  induction more generalizing p with
  | nil => exact le_refl p
  | cons c more ih => exact (lt_advance p c).le.trans (ih _)

/-- A longer front is further on. -/
theorem behind_lt_behind (h : front <+: back) (longer : front ≠ back) :
    behind front < behind back := by
  obtain ⟨more, rfl⟩ := h
  cases more with
  | nil => simp at longer
  | cons c more =>
      rw [behind, behind, List.foldl_append, List.foldl_cons]
      exact (lt_advance _ c).trans_le (le_foldl more _)

/-- Inside a line, the code units move the column. -/
theorem foldl_of_notMem (whole : '\n' ∉ front) (p : Position) :
    front.foldl advance p = ⟨p.line, p.character + units front⟩ := by
  induction front generalizing p with
  | nil => rfl
  | cons c front ih =>
      obtain ⟨other, whole⟩ := not_or.1 (mt List.mem_cons.2 whole)
      rw [List.foldl_cons, ih whole, advance, if_neg (Ne.symm other)]
      simp only [Text.units_cons, Nat.add_assoc]

/-- Every line that ends moves the place to the start of the next one. -/
theorem foldl_ended (whole : ∀ line ∈ above, '\n' ∉ line) (n : Nat) :
    (ended above).foldl advance ⟨n, 0⟩ = ⟨n + above.length, 0⟩ := by
  induction above generalizing n with
  | nil => rfl
  | cons line above ih =>
      obtain ⟨first, others⟩ := List.forall_mem_cons.1 whole
      rw [Text.ended_cons, List.foldl_append, foldl_of_notMem first, List.foldl_cons, advance,
        if_pos rfl, ih others, List.length_cons, Nat.add_right_comm, Nat.add_assoc]

/-- Below some lines and inside another one, the place is in the line of their number. -/
theorem behind_ended_append (whole : ∀ line ∈ above, '\n' ∉ line) (inside : '\n' ∉ front) :
    behind (ended above ++ front) = ⟨above.length, units front⟩ := by
  rw [behind, List.foldl_append, origin, foldl_ended whole, foldl_of_notMem inside, Nat.zero_add,
    Nat.zero_add]

/-- The place behind a text is in its last line. -/
theorem behind_eq (front : Text) :
    ∃ above last, front.lines = above ++ [last] ∧ behind front = ⟨above.length, units last⟩ := by
  have some : front.lines ≠ [] := List.splitOn_ne_nil _ _
  have split : front.lines = front.lines.dropLast ++ [front.lines.getLast some] :=
    (List.dropLast_append_getLast some).symm
  have whole := Text.eq_of_lines split
  refine ⟨_, _, split, ?_⟩
  conv_lhs => rw [whole, Text.begun_nil, List.append_nil]
  refine behind_ended_append (fun line mem => ?_) ?_
  · exact Text.newline_notMem_of_mem_lines (List.dropLast_subset _ mem)
  · exact Text.newline_notMem_of_mem_lines (List.getLast_mem some)

/-- Neither number of a place is larger than the bytes in front of it. -/
theorem fits_behind (small : bytes front ≤ limit) : (behind front).fits = true := by
  obtain ⟨above, last, split, place⟩ := behind_eq front
  have length := congrArg bytes (Text.eq_of_lines split)
  have low := Text.length_le_bytes_ended above
  have narrow := Text.units_le_bytes last
  simp only [Text.bytes_append, Text.begun_nil, Text.bytes_nil] at length
  have line : above.length ≤ limit := by omega
  have column : units last ≤ limit := by omega
  rw [place]
  exact Bool.and_eq_true_iff.2 ⟨decide_eq_true line, decide_eq_true column⟩

end Position

namespace Text

variable {text front : Text} {offset : Nat}

/-- The position of an offset is the place behind the text in front of it. -/
theorem position?_bytes (small : bytes text ≤ Position.limit) (h : front <+: text) :
    text.position? (bytes front) = some (Position.behind front) := by
  have le := bytes_le_bytes h
  obtain ⟨rest, rfl⟩ := h
  have fits : (front.foldl Position.advance Position.origin).fits = true :=
    Position.fits_behind (by omega)
  rw [position?, cut?_append]
  exact if_pos fits

/-- An offset inside a character or past the end has no position. -/
theorem position?_eq_none (h : ¬ text.IsBoundary offset) : text.position? offset = none := by
  rw [← isSome_cut?_iff, Option.not_isSome_iff_eq_none] at h
  rw [position?, h]
  rfl

/-- What has a position falls between characters. -/
theorem exists_of_position? (small : bytes text ≤ Position.limit) {p : Position}
    (h : text.position? offset = some p) :
    ∃ front, front <+: text ∧ bytes front = offset ∧ p = Position.behind front := by
  by_cases boundary : text.IsBoundary offset
  · obtain ⟨front, leads, rfl⟩ := boundary
    rw [position?_bytes small leads] at h
    exact ⟨front, leads, rfl, (Option.some.inj h).symm⟩
  · rw [position?_eq_none boundary] at h
    cases h

/-- The position of an offset inside a line: the number of lines above and the code units from the
start of the line. -/
theorem position?_inside (small : bytes text ≤ Position.limit) {above below : List Text}
    {content : Text} (h : text.lines = above ++ content :: below)
    (boundary : text.IsBoundary offset) (ge : bytes (ended above) ≤ offset)
    (le : offset ≤ bytes (ended above) + bytes content) :
    ∃ inside, inside <+: content ∧ bytes (ended above) + bytes inside = offset ∧
      text.slice? (bytes (ended above)) offset = some inside ∧
      text.position? offset = some ⟨above.length, units inside⟩ := by
  obtain ⟨front, leads, rfl⟩ := boundary
  have whole := eq_of_lines h
  have line : ended above ++ content <+: text := ⟨begun below, whole.symm⟩
  -- The front of the text reaches into the line, so it has the lines above and a front of the line.
  obtain ⟨inside, rfl⟩ : ended above <+: front :=
    prefix_of_bytes_le ((List.prefix_append _ content).trans line) leads ge
  have part : inside <+: content := by
    rw [← List.prefix_append_right_inj (ended above)]
    exact prefix_of_bytes_le leads line (by rwa [bytes_append _ content])
  have unbroken : '\n' ∉ inside := fun mem =>
    newline_notMem_of_mem_lines (h ▸ List.mem_append_right _ List.mem_cons_self) (part.subset mem)
  obtain ⟨rest, split⟩ := leads
  refine ⟨inside, part, (bytes_append _ _).symm, ?_, ?_⟩
  · exact slice?_eq_some_iff.2 ⟨ended above, rest, split.symm, rfl, rfl⟩
  · rw [position?_bytes small ⟨rest, split⟩,
      Position.behind_ended_append (newline_notMem_above h) unbroken]

/-- Positions are ordered like the offsets. -/
theorem behind_lt_behind_iff {back : Text} (h : front <+: text) (h' : back <+: text) :
    bytes front < bytes back ↔ Position.behind front < Position.behind back := by
  constructor
  · intro lt
    refine Position.behind_lt_behind (prefix_of_bytes_le h h' lt.le) ?_
    rintro rfl
    exact lt.false
  · intro lt
    by_contra ge
    have leads := prefix_of_bytes_le h' h (Nat.le_of_not_lt ge)
    by_cases same : back = front
    · exact (same ▸ lt).false
    · exact lt.asymm (Position.behind_lt_behind leads same)

/-- **Positions embed the byte offsets of a text.** An offset has a position exactly when it falls
between two characters, namely the number of lines that end before it and the code units since the
last of them. Positions are ordered like the offsets, so no two offsets share one, and a line starts
at column zero of its number. -/
theorem position?_embeds (text : Text) (small : bytes text ≤ Position.limit) :
    (∀ offset, (text.position? offset).isSome = true ↔
        offset ≤ bytes text ∧ text.IsBoundary offset) ∧
      (∀ front : Text, front <+: text → ∃ above last, front.lines = above ++ [last] ∧
        text.position? (bytes front) = some ⟨above.length, units last⟩) ∧
      (∀ offset offset' p p', text.position? offset = some p → text.position? offset' = some p' →
        (offset < offset' ↔ p < p')) ∧
      ∀ line, 1 ≤ line → line ≤ text.lineCount →
        ∃ start, text.lineStart line = .ok start ∧ text.position? start = some ⟨line - 1, 0⟩ := by
  refine ⟨fun offset => ⟨fun defined => ?_, fun ⟨_, boundary⟩ => ?_⟩, ?_, ?_, ?_⟩
  · obtain ⟨p, found⟩ := Option.isSome_iff_exists.1 defined
    obtain ⟨front, leads, rfl, -⟩ := exists_of_position? small found
    have boundary : text.IsBoundary (bytes front) := ⟨front, leads, rfl⟩
    exact ⟨boundary.le_bytes, boundary⟩
  · obtain ⟨front, leads, rfl⟩ := boundary
    rw [position?_bytes small leads]
    rfl
  · intro front leads
    obtain ⟨above, last, split, place⟩ := Position.behind_eq front
    exact ⟨above, last, split, by rw [position?_bytes small leads, place]⟩
  · intro offset offset' p p' found found'
    obtain ⟨front, leads, rfl, rfl⟩ := exists_of_position? small found
    obtain ⟨back, leads', rfl, rfl⟩ := exists_of_position? small found'
    exact behind_lt_behind_iff leads leads'
  · intro line first last
    obtain ⟨above, content, below, split, rfl⟩ := exists_lines_iff.2 ⟨first, last⟩
    have leads : ended above <+: text := ⟨content ++ begun below, by
      rw [← List.append_assoc, ← eq_of_lines split]⟩
    have place := Position.behind_ended_append (newline_notMem_above split) List.not_mem_nil
    refine ⟨_, lineStart_of_lines split, ?_⟩
    rw [position?_bytes small leads]
    simpa using place

/-- Characters of two and four bytes, of one and two code units. -/
theorem position?_embeds_wide :
    let text : Text := "é😀\nx".toList
    bytes text ≤ Position.limit ∧ ¬ text.IsBoundary 3 ∧ text.position? 2 = some ⟨0, 1⟩ ∧
      text.position? 6 = some ⟨0, 3⟩ ∧ (⟨0, 1⟩ : Position) < ⟨0, 3⟩ ∧
      ∃ start, text.lineStart 2 = .ok start ∧ text.position? start = some ⟨1, 0⟩ := by
  intro text
  have small : bytes text ≤ Position.limit := by decide
  obtain ⟨defined, -, ordered, starts⟩ := position?_embeds text small
  have inside : ¬ text.IsBoundary 3 := fun boundary =>
    absurd ((defined 3).2 ⟨by decide, boundary⟩) (by decide)
  have first : text.position? 2 = some ⟨0, 1⟩ := by decide
  have second : text.position? 6 = some ⟨0, 3⟩ := by decide
  exact ⟨small, inside, first, second, (ordered 2 6 _ _ first second).1 (by decide),
    starts 2 (by decide) (by decide)⟩

end Text

end SyntaxWatch
