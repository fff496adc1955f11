import SyntaxWatch.Proofs.Text.Replacement

/-!
# First occurrences and whole passes

A search and a pass of replacement are said here without the functions that run them: where a
pattern occurs first (`First`), and what a pass from the left makes of a text (`Replaced`). The
functions compute exactly these (`around?_eq_some_iff`, `replaced_iff`). An element that is no part
of a pattern separates a search into one on each side of it (`around?_append_cons`).
-/

namespace SyntaxWatch.Search

variable {α : Type} {pat new text before rest : List α}

/-- A pattern occurs between `before` and `rest`, and nowhere further to the left. -/
structure First (pat text before rest : List α) : Prop where
  split : text = before ++ pat ++ rest
  least : ∀ front back, text = front ++ pat ++ back → before.length ≤ front.length

/-- What one pass from the left makes of a text when it replaces `pat` by `new`. -/
inductive Replaced (pat new : List α) : List α → List α → Prop
  /-- At the end nothing is left to do. -/
  | nil : Replaced pat new [] []
  /-- An occurrence is replaced, and the pass goes on behind it. -/
  | found {rest result : List α} :
      Replaced pat new rest result → Replaced pat new (pat ++ rest) (new ++ result)
  /-- An element at which no occurrence begins is kept. -/
  | kept {x : α} {rest result : List α} :
      ¬ pat <+: x :: rest → Replaced pat new rest result →
        Replaced pat new (x :: rest) (x :: result)

/-- There is one first occurrence. -/
theorem First.unique {before' rest' : List α} (h : First pat text before rest)
    (h' : First pat text before' rest') : before = before' ∧ rest = rest' := by
  have same : before.length = before'.length :=
    Nat.le_antisymm (h.least _ _ h'.split) (h'.least _ _ h.split)
  have parts := h.split.symm.trans h'.split
  rw [List.append_assoc, List.append_assoc] at parts
  obtain ⟨front, back⟩ := List.append_inj parts same
  exact ⟨front, List.append_cancel_left back⟩

/-- A first occurrence stays the first one when the text goes on. -/
theorem First.append (h : First pat text before rest) (more : List α) :
    First pat (text ++ more) before (rest ++ more) := by
  refine ⟨by rw [h.split, List.append_assoc], fun front back parts => ?_⟩
  by_contra shorter
  -- An occurrence further to the left ends before the text goes on.
  have whole := congrArg List.length h.split
  have inside : front ++ pat <+: text :=
    List.prefix_of_prefix_length_le ⟨back, parts.symm⟩ (List.prefix_append text more) (by
      simp only [List.length_append] at whole ⊢
      omega)
  obtain ⟨back', parts'⟩ := inside
  exact shorter (h.least front back' parts'.symm)

variable [DecidableEq α]

/-! ### Searches find first occurrences -/

/-- What is found is an occurrence, and none begins further to the left. -/
theorem first_of_around? (h : around? pat text = some (before, rest)) :
    First pat text before rest := by
  induction text generalizing before with
  | nil =>
      obtain ⟨r, hr, heq⟩ := Option.map_eq_some_iff.1 h
      cases heq
      exact ⟨eq_append_of_after? hr, fun _ _ _ => Nat.zero_le _⟩
  | cons x tail ih =>
      unfold around? at h
      split at h
      · next r hr =>
          cases h
          exact ⟨eq_append_of_after? hr, fun _ _ _ => Nat.zero_le _⟩
      · next none =>
          obtain ⟨⟨b, r⟩, hr, heq⟩ := Option.map_eq_some_iff.1 h
          cases heq
          have later := ih hr
          refine ⟨by rw [later.split]; rfl, fun front back parts => ?_⟩
          cases front with
          | nil => exact absurd ⟨back, parts.symm⟩ (after?_eq_none_iff.1 none)
          | cons y front =>
              rw [List.cons_append, List.cons_append, List.cons_eq_cons] at parts
              exact Nat.succ_le_succ (later.least front back parts.2)

/-- A search finds the first occurrence. -/
theorem around?_eq_some_iff :
    around? pat text = some (before, rest) ↔ First pat text before rest := by
  refine ⟨first_of_around?, fun h => ?_⟩
  have present : occurs pat text = true := occurs_iff.2 ⟨before, rest, h.split.symm⟩
  obtain ⟨⟨before', rest'⟩, found⟩ := Option.isSome_iff_exists.1 present
  obtain ⟨rfl, rfl⟩ := h.unique (first_of_around? found)
  exact found

/-- Nothing is found exactly when the pattern does not occur. -/
theorem around?_eq_none_iff : around? pat text = none ↔ ¬ pat <:+: text := by
  rw [← occurs_eq_false_iff, occurs, Option.isSome_eq_false_iff, Option.isNone_iff_eq_none]

/-! ### Separators -/

/-- A pattern at the front of a text ends before the first element that it does not have. -/
theorem after?_append_cons {c : α} (hc : c ∉ pat) (front back : List α) :
    after? pat (front ++ c :: back) = (after? pat front).map (· ++ c :: back) := by
  induction pat generalizing front with
  | nil => rfl
  | cons p pat ih =>
      rw [List.mem_cons, not_or] at hc
      obtain ⟨hp, hpat⟩ := hc
      cases front with
      | nil => simp [after?, Ne.symm hp]
      | cons y front =>
          rw [List.cons_append, after?, after?]
          split
          · exact ih hpat front
          · rfl

/-- An element that is no part of the pattern separates a search: what is on its left is searched
first, and then what is on its right. -/
theorem around?_append_cons {c : α} (hc : c ∉ pat) (hpat : pat ≠ []) (front back : List α) :
    around? pat (front ++ c :: back) =
      ((around? pat front).map fun (before, rest) => (before, rest ++ c :: back)).or
        ((around? pat back).map fun (before, rest) => (front ++ c :: before, rest)) := by
  induction front with
  | nil =>
      have none : after? pat (c :: back) = none := by
        simpa [after?_eq_none_iff.2 fun h => hpat (List.prefix_nil.1 h)]
          using after?_append_cons hc [] back
      have nothing : around? pat [] = Option.none :=
        around?_eq_none_iff.2 fun h => hpat (List.infix_nil.1 h)
      rw [nothing, List.nil_append, around?, none]
      rfl
  | cons x front ih =>
      have first := after?_append_cons hc (x :: front) back
      rw [List.cons_append] at first
      rw [List.cons_append, around?, around?, first]
      cases after? pat (x :: front) with
      | some rest => rfl
      | none =>
          rw [Option.map_none, ih]
          cases around? pat front with
          | some found => rfl
          | none => cases around? pat back <;> rfl

/-! ### Passes -/

/-- The pass that replaces is one in the sense of `Replaced`, when the pattern is not empty. -/
theorem replaced_replace (hpat : pat ≠ []) (text : List α) :
    Replaced pat new text (replace pat new text) := by
  induction text using scan hpat with
  | nil => rw [replace_nil]; exact .nil
  | found rest ih => rw [replace_append_found hpat]; exact .found ih
  | other x rest front ih => rw [replace_cons_of_absent front]; exact .kept front ih

/-- A pass is what `replace` does. -/
theorem replaced_iff (hpat : pat ≠ []) {result : List α} :
    Replaced pat new text result ↔ replace pat new text = result := by
  refine ⟨fun h => ?_, fun h => h ▸ replaced_replace hpat text⟩
  induction h with
  | nil => exact replace_nil pat new
  | found _ ih => rw [replace_append_found hpat, ih]
  | kept front _ ih => rw [replace_cons_of_absent front, ih]

end SyntaxWatch.Search
