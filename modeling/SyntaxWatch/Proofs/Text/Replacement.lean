import Mathlib.Data.List.Infix
import SyntaxWatch.Text.Basic
import SyntaxWatch.Text.Search

/-!
# Replacement from left to right

A pass of replacement meets either an occurrence or an element at which none begins, and all that
is said here goes by induction along that pass (`scan`). Three facts about passes are needed where
the name of a file is taken out of a text:

* `replace_append_cons`: a pass works on each side of a separator that is no part of the pattern
  on its own, and so on each line (`lines_replace`);
* `occurs_replace`: what is put in occurs afterwards exactly when the pattern occurred before;
* `replace_replace`: taking out what was put in, with a separator behind it, is taking out the
  pattern with that separator.

The last two speak of new texts that do not occur already and whose first element does not recur
in them. Two occurrences of such a text cannot overlap, so none can arise across the border of
what was put in.
-/

namespace SyntaxWatch.Search

variable {α : Type} [DecidableEq α] {pat new text : List α}

/-! ### Searches -/

/-- Nothing is left behind a pattern exactly when the text does not start with it. -/
theorem after?_eq_none_iff : after? pat text = none ↔ ¬ pat <+: text := by
  rw [Option.eq_none_iff_forall_ne_some]
  constructor
  · rintro none ⟨rest, rfl⟩
    exact none rest (after?_append pat rest)
  · intro none rest found
    exact none ⟨rest, (eq_append_of_after? found).symm⟩

/-- A pattern occurs in a text when the text has it as a part. -/
theorem occurs_iff : occurs pat text = true ↔ pat <:+: text := by
  induction text with
  | nil =>
      rw [occurs, around?, Option.isSome_map, List.infix_nil]
      cases pat <;> simp [after?]
  | cons x tail ih =>
      rw [List.infix_cons_iff, ← ih, occurs, around?]
      cases found : after? pat (x :: tail) with
      | none => simp [occurs, after?_eq_none_iff.1 found]
      | some rest =>
          have front : pat <+: x :: tail := ⟨rest, (eq_append_of_after? found).symm⟩
          simp [front]

/-- A pattern does not occur in a text when the text does not have it as a part. -/
theorem occurs_eq_false_iff : occurs pat text = false ↔ ¬ pat <:+: text := by
  rw [← occurs_iff, Bool.not_eq_true]

/-! ### Along the pass -/

/-- A pass meets an occurrence, or an element at which none begins. -/
@[elab_as_elim]
theorem scan (hpat : pat ≠ []) {motive : List α → Prop} (nil : motive [])
    (found : ∀ rest, motive rest → motive (pat ++ rest))
    (other : ∀ x rest, ¬ pat <+: x :: rest → motive rest → motive (x :: rest))
    (text : List α) : motive text := by
  match text with
  | [] => exact nil
  | x :: tail =>
      by_cases front : pat <+: x :: tail
      · obtain ⟨rest, hrest⟩ := front
        have shorter : rest.length < (x :: tail).length := by
          have := List.length_pos_iff.2 hpat
          rw [← hrest, List.length_append]
          omega
        rw [← hrest]
        exact found rest (scan hpat nil found other rest)
      · exact other x tail front (scan hpat nil found other tail)
  termination_by text.length
  decreasing_by
    · exact shorter
    · exact Nat.lt_succ_self _

/-- An element at which no occurrence begins is kept. -/
theorem replace_cons_of_absent {x : α} {rest : List α} (h : ¬ pat <+: x :: rest) :
    replace pat new (x :: rest) = x :: replace pat new rest :=
  replace_cons_of_none new (after?_eq_none_iff.2 h)

/-- A text without the pattern stays as it is. -/
theorem replace_of_absent (h : ¬ pat <:+: text) : replace pat new text = text := by
  induction text with
  | nil => exact replace_nil pat new
  | cons x rest ih =>
      rw [List.infix_cons_iff, not_or] at h
      rw [replace_cons_of_absent h.1, ih h.2]

/-- A pass leaves a front of the text as it is when no occurrence begins there. -/
theorem replace_append_of_passed {front : List α}
    (passed : ∀ i < front.length, ¬ pat <+: (front ++ text).drop i) :
    replace pat new (front ++ text) = front ++ replace pat new text := by
  induction front with
  | nil => rfl
  | cons x front ih =>
      have here : ¬ pat <+: x :: (front ++ text) := passed 0 (Nat.succ_pos _)
      rw [List.cons_append, replace_cons_of_absent here,
        ih fun i inside => passed (i + 1) (Nat.succ_lt_succ inside), List.cons_append]

/-- After a pass there are elements of the new text and of the old one, and no others. -/
theorem mem_replace {x : α} (h : x ∈ replace pat new text) : x ∈ new ∨ x ∈ text := by
  by_cases hpat : pat = []
  · exact .inr (by simpa only [replace, if_pos hpat] using h)
  · induction text using scan hpat with
    | nil => simp at h
    | found rest ih =>
        rw [replace_append_found hpat, List.mem_append] at h
        rw [List.mem_append]
        rcases h with h | h
        · exact .inl h
        · exact (ih h).imp_right .inr
    | other y rest front ih =>
        rw [replace_cons_of_absent front, List.mem_cons] at h
        rw [List.mem_cons]
        rcases h with h | h
        · exact .inr (.inl h)
        · exact (ih h).imp_right .inr

/-! ### Separators -/

omit [DecidableEq α] in
/-- An occurrence of a pattern that begins before a separator also ends before it. -/
theorem prefix_append_cons_iff {c : α} (hc : c ∉ pat) (front back : List α) :
    pat <+: front ++ c :: back ↔ pat <+: front := by
  refine ⟨fun h => ?_, fun h => h.trans (List.prefix_append _ _)⟩
  rcases List.prefix_or_prefix_of_prefix h (List.prefix_append front (c :: back)) with h' | h'
  · exact h'
  · obtain ⟨more, rfl⟩ := h'
    rw [List.prefix_append_right_inj] at h
    cases more with
    | nil => rw [List.append_nil]
    | cons x more =>
        obtain ⟨rfl, -⟩ := List.cons_prefix_cons.1 h
        exact absurd (by simp) hc

/-- A pass works on both sides of a separator on its own. -/
theorem replace_append_cons {c : α} (hpat : pat ≠ []) (hc : c ∉ pat) (front back : List α) :
    replace pat new (front ++ c :: back) = replace pat new front ++ c :: replace pat new back := by
  induction front using scan hpat with
  | nil =>
      have none : ¬ pat <+: c :: back := fun h =>
        hpat (List.prefix_nil.1 ((prefix_append_cons_iff hc [] back).1 h))
      rw [List.nil_append, replace_cons_of_absent none, replace_nil, List.nil_append]
  | found rest ih =>
      rw [List.append_assoc, replace_append_found hpat, ih, replace_append_found hpat,
        List.append_assoc]
  | other x rest front ih =>
      have none : ¬ pat <+: x :: (rest ++ c :: back) := fun h =>
        front ((prefix_append_cons_iff hc (x :: rest) _).1 h)
      rw [List.cons_append, replace_cons_of_absent none, ih, replace_cons_of_absent front,
        List.cons_append]

/-- A sequence has no separator, or it goes on behind its first one. -/
@[elab_as_elim]
theorem separated (c : α) {motive : List α → Prop} (last : ∀ front, c ∉ front → motive front)
    (broken : ∀ front back, c ∉ front → motive back → motive (front ++ c :: back))
    (text : List α) : motive text := by
  by_cases h : c ∈ text
  · obtain ⟨front, back, split, passed⟩ := List.eq_append_cons_of_mem h
    have shorter : back.length < text.length := by
      rw [split, List.length_append, List.length_cons]
      omega
    rw [split]
    exact broken front back passed (separated c last broken back)
  · exact last text h
  termination_by text.length

/-- Without a separator everything comes before it. -/
theorem takeWhile_of_notMem {c : α} (h : c ∉ text) : text.takeWhile (· ≠ c) = text := by
  have passed : ∀ x ∈ text, decide (x ≠ c) = true := fun x hx =>
    decide_eq_true (ne_of_mem_of_not_mem hx h)
  have whole : (text ++ []).takeWhile (· ≠ c) = text ++ [].takeWhile (· ≠ c) :=
    List.takeWhile_append_of_pos passed
  simpa using whole

/-- What comes behind a separator does not come before the first one. -/
theorem takeWhile_append_cons_self (c : α) (front back : List α) :
    (front ++ c :: back).takeWhile (· ≠ c) = front.takeWhile (· ≠ c) := by
  induction front with
  | nil => simp
  | cons x front ih => simp only [List.cons_append, List.takeWhile_cons, ih]

/-- The part before the first separator is that of the replaced text, replaced. -/
theorem takeWhile_replace {c : α} (hpat : pat ≠ []) (hc : c ∉ pat) (hnew : c ∉ new)
    (text : List α) :
    (replace pat new text).takeWhile (· ≠ c) = replace pat new (text.takeWhile (· ≠ c)) := by
  have replaced : ∀ {front : List α}, c ∉ front → c ∉ replace pat new front := fun h hx =>
    (mem_replace hx).elim hnew h
  induction text using separated c with
  | last front h => rw [takeWhile_of_notMem h, takeWhile_of_notMem (replaced h)]
  | broken front back h _ =>
      rw [replace_append_cons hpat hc, takeWhile_append_cons_self, takeWhile_append_cons_self,
        takeWhile_of_notMem h, takeWhile_of_notMem (replaced h)]

/-! ### What was put in, taken out again -/

section Mark

variable {mark : α} {rest : List α}

/-- What remains of a new text when a part of it is already there cannot begin inside another
occurrence of it, so it was there before the pass. -/
theorem prefix_of_prefix_replace (hpat : pat ≠ []) (hmark : mark ∉ rest) {seen left : List α}
    (hsplit : mark :: rest = seen ++ left) (hseen : seen ≠ [])
    (h : left <+: replace pat (mark :: rest) text) : left <+: text := by
  induction text using scan hpat generalizing seen left with
  | nil => rwa [replace_nil] at h
  | found back ih =>
      rw [replace_append_found hpat] at h
      obtain ⟨x, seen, rfl⟩ := List.exists_cons_of_ne_nil hseen
      obtain ⟨rfl, hrest⟩ := List.cons_eq_cons.1 hsplit
      cases left with
      | nil => exact List.nil_prefix
      | cons y left =>
          obtain ⟨rfl, -⟩ := List.cons_prefix_cons.1 h
          exact absurd (by simp [hrest]) hmark
  | other x back front ih =>
      rw [replace_cons_of_absent front] at h
      cases left with
      | nil => exact List.nil_prefix
      | cons y left =>
          obtain ⟨rfl, later⟩ := List.cons_prefix_cons.1 h
          have split : mark :: rest = (seen ++ [y]) ++ left := by
            rw [hsplit, List.append_assoc, List.singleton_append]
          exact List.cons_prefix_cons.2 ⟨rfl, ih split (by simp) later⟩

/-- What is put in does not arise at an element that stays. -/
theorem not_prefix_cons_replace (hpat : pat ≠ []) (hmark : mark ∉ rest) {x : α}
    (h : ¬ mark :: rest <+: x :: text) :
    ¬ mark :: rest <+: x :: replace pat (mark :: rest) text := by
  intro front
  obtain ⟨rfl, later⟩ := List.cons_prefix_cons.1 front
  have split : mark :: rest = [mark] ++ rest := rfl
  exact h (List.cons_prefix_cons.2
    ⟨rfl, prefix_of_prefix_replace hpat hmark split (List.cons_ne_nil _ _) later⟩)

/-- What is put in occurs after a pass exactly when the pattern occurred before it. -/
theorem occurs_replace (hpat : pat ≠ []) (h : ¬ new <:+: text) :
    occurs new (replace pat new text) = occurs pat text := by
  cases found : occurs pat text with
  | false => rw [replace_of_absent (occurs_eq_false_iff.1 found), occurs_eq_false_iff.2 h]
  | true =>
      obtain ⟨before, after, rfl⟩ := occurs_iff.1 found
      clear found
      rw [occurs_iff]
      generalize whole : before ++ pat ++ after = text at h
      have present : pat <:+: text := ⟨before, after, whole⟩
      clear whole h
      induction text using scan hpat with
      | nil => exact absurd (List.infix_nil.1 present) hpat
      | found back ih =>
          rw [replace_append_found hpat]
          exact (List.prefix_append _ _).isInfix
      | other x back front ih =>
          rw [replace_cons_of_absent front]
          have later := (List.infix_cons_iff.1 present).resolve_left front
          exact List.infix_cons_iff.2 (.inr (ih later))

/-- Taking out what was put in, with a separator behind it, is taking out the pattern with that
separator, if every occurrence of the pattern has the separator behind it. -/
theorem replace_replace {c : α} (hpat : pat ≠ []) (hfront : pat.head? ≠ some c)
    (hmark : mark ∉ rest) (hc : mark ≠ c) (hnone : ¬ mark :: rest <:+: text)
    (hsep : ∀ before after, text = before ++ pat ++ after → after.head? = some c) :
    replace (mark :: rest ++ [c]) [] (replace pat (mark :: rest) text) =
      replace (pat ++ [c]) [] text := by
  -- The pass for `pat` and the one for `pat ++ [c]` stop at the same places, but the second one
  -- goes on one element further to the right, so the claim has to be carried over that element.
  have stop : ∀ {back : List α}, ¬ pat <+: c :: back := fun ⟨_, h⟩ => by
    obtain ⟨x, more, rfl⟩ := List.exists_cons_of_ne_nil hpat
    rw [List.cons_append, List.cons_eq_cons] at h
    exact hfront (by rw [List.head?_cons, h.1])
  have split : ∀ p back : List α, p ++ c :: back = p ++ [c] ++ back := fun _ _ => by simp
  induction text using scan hpat with
  | nil => simp
  | found back ih =>
      have hback := hsep [] back rfl
      obtain ⟨tail, rfl⟩ : ∃ tail, back = c :: tail := by
        cases back with
        | nil => simp at hback
        | cons x tail => exact ⟨tail, by rw [List.head?_cons] at hback; cases hback; rfl⟩
      have later := ih (fun h => hnone (h.trans (List.suffix_append _ _).isInfix))
        fun before after h => hsep (pat ++ before) after (by rw [h]; simp)
      have stay : ¬ mark :: rest ++ [c] <+: c :: replace pat (mark :: rest) tail := fun h =>
        hc (List.cons_prefix_cons.1 h).1
      have stay' : ¬ pat ++ [c] <+: c :: tail := fun h =>
        stop ((List.prefix_append _ _).trans h)
      rw [replace_cons_of_absent stop, replace_cons_of_absent stay,
        replace_cons_of_absent stay', List.cons.injEq] at later
      rw [replace_append_found hpat, replace_cons_of_absent stop,
        split (mark :: rest) (replace pat _ tail), split pat tail,
        replace_append_found (by simp), replace_append_found (by simp), later.2]
  | other x back front ih =>
      have later := ih (fun h => hnone (List.infix_cons_iff.2 (.inr h)))
        fun before after h => hsep (x :: before) after (by rw [h]; simp)
      have stay : ¬ mark :: rest <+: x :: replace pat (mark :: rest) back :=
        not_prefix_cons_replace hpat hmark fun h => hnone h.isInfix
      rw [replace_cons_of_absent front,
        replace_cons_of_absent fun h => stay ((List.prefix_append _ _).trans h), later,
        replace_cons_of_absent fun h => front ((List.prefix_append _ _).trans h)]

end Mark

end SyntaxWatch.Search

namespace SyntaxWatch.Text

/-- A pass works on each line on its own when the pattern has no newline. -/
theorem lines_replace {pat new : Text} (hpat : pat ≠ []) (hbreak : '\n' ∉ pat)
    (hnew : '\n' ∉ new) (text : Text) :
    lines (Search.replace pat new text) = (lines text).map (Search.replace pat new) := by
  have replaced : ∀ {front : Text}, '\n' ∉ front → '\n' ∉ Search.replace pat new front :=
    fun h hx => (Search.mem_replace hx).elim hnew h
  induction text using Search.separated '\n' with
  | last front h =>
      rw [lines, lines, List.splitOn_eq_singleton h, List.splitOn_eq_singleton (replaced h),
        List.map_singleton]
  | broken front back h ih =>
      rw [lines, lines] at ih ⊢
      rw [Search.replace_append_cons hpat hbreak, List.splitOn_append_cons_self,
        List.splitOn_append_cons_self, List.map_append, ih, List.splitOn_eq_singleton h,
        List.splitOn_eq_singleton (replaced h), List.map_singleton]

end SyntaxWatch.Text
