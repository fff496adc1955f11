import SyntaxWatch.Proofs.Finding.Grammar

/-!
# Templates of outputs

The checker names its input in what it writes, and each run has an input of its own. A template is
an output with the names left open: a list of characters and of places for the name, each with the
space behind it. Filled with a name it is an output (`Template.fill`); with the places left out it
is what remains when the name is taken out of the messages (`Template.bare`).

A name that occurs in the filled output at other places too could not be told from the rest.
`Template.Apart` excludes this, and it holds of every part of a template of which it holds.

## Main results

* `Template.replace_fill`: taking out the name leaves the bare template.
* `Template.ofLine?_fill`: a filled line is a complaint when it has a place for the name and its
  bare template is a complaint, and then that is the complaint, whatever the name.
-/

namespace SyntaxWatch

/-- A piece of an output for any input: a character, or the name of the input with the space behind
it. -/
inductive Piece where
  | char (c : Char)
  | name
  deriving DecidableEq

/-- An output for any input. -/
abbrev Template := List Piece

namespace Template

/-- The text of a piece. -/
def written (input : Text) : Piece → Text
  | .char c => [c]
  | .name => input ++ [' ']

/-- The output for an input. -/
def fill (input : Text) (t : Template) : Text :=
  t.flatMap (written input)

/-- The character of a piece, if it is one. -/
def char? : Piece → Option Char
  | .char c => some c
  | .name => none

/-- The output without the names, and without the spaces behind them. -/
def bare (t : Template) : Text :=
  t.filterMap char?

/-- A text as a template without names. -/
def ofText (text : Text) : Template :=
  text.map .char

/-- A name occurs in the filled output at its places only. -/
def Apart (input : Text) (t : Template) : Prop :=
  ∀ front back, t.fill input = front ++ input ++ back →
    ∃ before after, t = before ++ .name :: after ∧ front = fill input before

variable {input : Text} {t : Template}

/-! ### Filling -/

@[simp] theorem fill_nil (input : Text) : fill input [] = [] := rfl

@[simp] theorem fill_char (input : Text) (c : Char) (t : Template) :
    fill input (.char c :: t) = c :: fill input t := rfl

/-- A place of the name is filled with the name and the space after it. -/
theorem fill_name (input : Text) (t : Template) :
    fill input (.name :: t) = input ++ [' '] ++ fill input t := rfl

@[simp] theorem fill_append (input : Text) (t t' : Template) :
    fill input (t ++ t') = fill input t ++ fill input t' :=
  List.flatMap_append

@[simp] theorem fill_ofText (input text : Text) : fill input (ofText text) = text := by
  induction text with
  | nil => rfl
  | cons c rest ih => exact congrArg (c :: ·) ih

@[simp] theorem bare_char (c : Char) (t : Template) : bare (.char c :: t) = c :: bare t := rfl

@[simp] theorem bare_name (t : Template) : bare (.name :: t) = bare t := rfl

@[simp] theorem bare_ofText (text : Text) : bare (ofText text) = text := by
  induction text with
  | nil => rfl
  | cons c rest ih => exact congrArg (c :: ·) ih

/-- Taking the name out of two templates in a row takes it out of each. -/
theorem bare_append (t t' : Template) : bare (t ++ t') = bare t ++ bare t' :=
  List.filterMap_append

/-- A text as a template has no place for a name. -/
theorem name_notMem_ofText (text : Text) : Piece.name ∉ ofText text := by
  simp [ofText]

/-- No piece is empty. -/
theorem length_le_length_fill (input : Text) (t : Template) :
    t.length ≤ (fill input t).length := by
  induction t with
  | nil => exact Nat.le_refl _
  | cons piece t ih =>
      cases piece with
      | char c => simpa using ih
      | name =>
          rw [fill_name, List.length_append, List.length_append, List.length_cons]
          simp only [List.length_cons, List.length_nil]
          omega

/-- Only the empty template makes an empty text. -/
theorem fill_eq_nil_iff : fill input t = [] ↔ t = [] := by
  refine ⟨fun none => ?_, fun none => by rw [none]; rfl⟩
  have short := length_le_length_fill input t
  rw [none] at short
  exact List.length_eq_zero_iff.1 (Nat.le_zero.1 short)

/-- Of two fronts of a template, the one with the shorter text is a front of the other. -/
theorem prefix_of_length_fill_le {a b : Template} (ha : a <+: t) (hb : b <+: t)
    (shorter : (fill input a).length ≤ (fill input b).length) : a <+: b := by
  rcases List.prefix_or_prefix_of_prefix ha hb with within | ⟨more, rfl⟩
  · exact within
  · rw [fill_append, List.length_append] at shorter
    have none : fill input more = [] := List.length_eq_zero_iff.1 (by omega)
    rw [fill_eq_nil_iff.1 none, List.append_nil]

/-! ### Names that stand apart -/

/-- A name that stands apart in a template stands apart in each part of it. -/
theorem Apart.part (named : input ≠ []) (apart : Apart input t) {part : Template}
    (h : part <:+: t) : Apart input part := by
  obtain ⟨front, back, rfl⟩ := h
  intro left right found
  have whole : fill input (front ++ part ++ back) =
      (fill input front ++ left) ++ input ++ (right ++ fill input back) := by
    rw [fill_append, fill_append, found]
    simp only [List.append_assoc]
  obtain ⟨before, after, split, filled⟩ := apart _ _ whole
  rw [List.append_assoc] at split
  -- The place lies behind the front, because its text does.
  obtain ⟨inner, rfl⟩ : front <+: before :=
    prefix_of_length_fill_le ⟨_, rfl⟩ ⟨_, split.symm⟩ (by rw [← filled]; simp)
  rw [fill_append, List.append_cancel_left_eq] at filled
  rw [List.append_assoc, List.append_cancel_left_eq] at split
  -- The place lies inside the part, because the name has a length.
  have shorter : (fill input inner).length < (fill input part).length := by
    have := List.length_pos_iff.2 named
    rw [← filled, found, List.length_append, List.length_append]
    omega
  obtain ⟨rest, rfl⟩ : inner <+: part :=
    prefix_of_length_fill_le ⟨_, split.symm⟩ ⟨_, rfl⟩ (Nat.le_of_lt shorter)
  rw [List.append_assoc, List.append_cancel_left_eq] at split
  cases rest with
  | nil =>
      rw [List.append_nil] at shorter
      exact absurd shorter (Nat.lt_irrefl _)
  | cons piece rest =>
      rw [List.cons_append, List.cons_eq_cons] at split
      exact ⟨inner, rest, by rw [split.1], filled⟩

/-- A name that stands apart in a template does so in what follows its first piece. -/
theorem Apart.tail (named : input ≠ []) {piece : Piece} (apart : Apart input (piece :: t)) :
    Apart input t :=
  apart.part named (List.suffix_cons piece t).isInfix

/-- Where no name is to stand, none begins. -/
theorem Apart.not_prefix_cons {c : Char} (apart : Apart input (.char c :: t)) :
    ¬ input <+: c :: fill input t := by
  rintro ⟨back, found⟩
  obtain ⟨before, after, split, filled⟩ := apart [] back found.symm
  rw [fill_eq_nil_iff.1 filled.symm] at split
  cases split

/-- A name occurs in the output exactly when it has a place there. -/
theorem infix_fill_iff (apart : Apart input t) : input <:+: fill input t ↔ .name ∈ t := by
  constructor
  · rintro ⟨front, back, found⟩
    obtain ⟨before, after, rfl, -⟩ := apart front back found.symm
    simp
  · intro place
    obtain ⟨before, after, rfl⟩ := List.append_of_mem place
    exact ⟨fill input before, ' ' :: fill input after, by simp [fill_name]⟩

/-- Taking a name out of the output wherever a space follows it leaves the bare template. -/
theorem replace_fill (named : input ≠ []) (apart : Apart input t) :
    Search.replace (input ++ [' ']) [] (fill input t) = bare t := by
  induction t with
  | nil => exact Search.replace_nil _ _
  | cons piece t ih =>
      have later := ih (apart.tail named)
      cases piece with
      | char c =>
          have stays : ¬ input ++ [' '] <+: c :: fill input t := fun front =>
            apart.not_prefix_cons ((List.prefix_append _ _).trans front)
          rw [fill_char, Search.replace_cons_of_absent stays, later]
          rfl
      | name =>
          rw [fill_name, Search.replace_append_found (by simp), later]
          rfl

/-- A filled line is read from its bare template, whatever the name is. -/
theorem ofLine?_fill (named : input ≠ []) (apart : Apart input t) (continuation : Option Text) :
    Finding.ofLine? input (fill input t) continuation =
      if .name ∈ t then Finding.ofStripped? (bare t) continuation else none := by
  split
  · next place =>
      rw [Finding.ofLine?_of_named named ((infix_fill_iff apart).2 place), replace_fill named apart]
  · next place =>
      exact Finding.ofLine?_of_unnamed (fun h => place ((infix_fill_iff apart).1 h)) continuation

/-! ### Standing apart can be decided -/

/-- The offsets, in characters, at which a template has places for a name. -/
def places (input : Text) (t : Template) : List Nat :=
  (List.range t.length).filterMap fun k =>
    if t[k]? = some .name then some (fill input (t.take k)).length else none

/-- A place of the name is the length of what is filled in before it. -/
theorem mem_places_iff {i : Nat} :
    i ∈ places input t ↔
      ∃ before after, t = before ++ .name :: after ∧ (fill input before).length = i := by
  simp only [places, List.mem_filterMap, List.mem_range, Option.ite_none_right_eq_some,
    Option.some.injEq]
  constructor
  · rintro ⟨k, inside, place, rfl⟩
    obtain ⟨_, at_⟩ := List.getElem?_eq_some_iff.1 place
    refine ⟨t.take k, t.drop (k + 1), ?_, rfl⟩
    rw [← at_, ← List.drop_eq_getElem_cons, List.take_append_drop]
  · rintro ⟨before, after, rfl, rfl⟩
    exact ⟨before.length, by simp, by simp, by rw [List.take_left]⟩

/-- A name stands apart when it occurs at its places only, which can be checked offset by offset. -/
theorem apart_iff :
    Apart input t ↔ ∀ i < (fill input t).length + 1, input <+: (fill input t).drop i →
      i ∈ places input t := by
  constructor
  · rintro apart i inside ⟨back, found⟩
    have short : ((fill input t).take i).length = i := by
      rw [List.length_take]
      omega
    obtain ⟨before, after, split, filled⟩ := apart ((fill input t).take i) back (by
      rw [List.append_assoc, found, List.take_append_drop])
    exact mem_places_iff.2 ⟨before, after, split, by rw [← filled, short]⟩
  · intro found front back split
    have at_ := found front.length (by rw [split]; simp only [List.length_append]; omega) (by
      rw [split, List.append_assoc, List.drop_left]
      exact List.prefix_append _ _)
    obtain ⟨before, after, parts, length⟩ := mem_places_iff.1 at_
    refine ⟨before, after, parts, ?_⟩
    rw [parts, fill_append, List.append_assoc] at split
    exact (List.append_inj split length).1.symm

instance (input : Text) (t : Template) : Decidable (Apart input t) :=
  decidable_of_iff _ apart_iff.symm

end Template

end SyntaxWatch
