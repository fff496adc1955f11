/-!
# Searching and replacing

Searches for the first occurrence of a sequence in another, and replaces every occurrence in one
pass from the left. Both work on sequences of anything that can be compared, because the same
rule is needed on characters and on raw bytes.

## Main results

* `Search.eq_of_around?`: a search that succeeds takes the sequence apart.
* `Search.replace_append_found`: an occurrence at the front is replaced and the pass goes on
  behind it.
-/

namespace SyntaxWatch.Search

variable {α : Type} [DecidableEq α]

/-- What follows `pat` when a sequence begins with it. -/
def after? : List α → List α → Option (List α)
  | [], rest => some rest
  | _ :: _, [] => none
  | p :: pat, x :: rest => if p = x then after? pat rest else none

/-- The parts of a sequence before and after the first occurrence of `pat`. -/
def around? (pat : List α) : List α → Option (List α × List α)
  | [] => (after? pat []).map fun rest => ([], rest)
  | x :: tail =>
    match after? pat (x :: tail) with
    | some rest => some ([], rest)
    | none => (around? pat tail).map fun (before, rest) => (x :: before, rest)

/-- Whether `pat` occurs in a sequence. -/
def occurs (pat : List α) (text : List α) : Bool :=
  (around? pat text).isSome

/-- The pass behind `replace`: `skip` elements still belong to the occurrence replaced last. -/
def replaceFrom (pat new : List α) : Nat → List α → List α
  | _, [] => []
  | skip + 1, _ :: tail => replaceFrom pat new skip tail
  | 0, x :: tail =>
    if (after? pat (x :: tail)).isSome then
      new ++ replaceFrom pat new (pat.length - 1) tail
    else
      x :: replaceFrom pat new 0 tail

/-- Replaces every occurrence of `pat` by `new` in one pass from the left. Occurrences do not
overlap, and what is put in is not searched again. An empty `pat` occurs nowhere. -/
def replace (pat new text : List α) : List α :=
  if pat = [] then text else replaceFrom pat new 0 text

/-! ### Searches take the sequence apart -/

/-- What is left after a pattern is the text without the pattern at its front. -/
theorem eq_append_of_after? {pat text rest : List α} (h : after? pat text = some rest) :
    text = pat ++ rest := by
  induction pat generalizing text with
  | nil => simpa [after?] using h
  | cons p pat ih =>
    cases text with
    | nil => simp [after?] at h
    | cons x tail =>
      by_cases hpx : p = x
      · rw [after?, if_pos hpx] at h
        rw [hpx, ih h, List.cons_append]
      · simp [after?, hpx] at h

@[simp] theorem after?_append (pat rest : List α) : after? pat (pat ++ rest) = some rest := by
  induction pat with
  | nil => rfl
  | cons p pat ih => simp [after?, ih]

/-- A search that succeeds takes the sequence apart around `pat`. -/
theorem eq_of_around? {pat text before rest : List α}
    (h : around? pat text = some (before, rest)) : text = before ++ pat ++ rest := by
  induction text generalizing before with
  | nil =>
    obtain ⟨r, hr, heq⟩ := Option.map_eq_some_iff.1 h
    cases heq
    exact eq_append_of_after? hr
  | cons x tail ih =>
    unfold around? at h
    split at h
    · next r hr =>
      cases h
      exact eq_append_of_after? hr
    · next =>
      obtain ⟨⟨b, r⟩, hr, heq⟩ := Option.map_eq_some_iff.1 h
      cases heq
      rw [ih hr, List.cons_append, List.cons_append]

/-! ### One pass of replacement -/

/-- The characters that are still to be skipped belong to an occurrence that has been replaced, and
are dropped. -/
theorem replaceFrom_skip (pat new front text : List α) :
    replaceFrom pat new front.length (front ++ text) = replaceFrom pat new 0 text := by
  induction front with
  | nil => rfl
  | cons x front ih => simpa [replaceFrom] using ih

/-- An occurrence at the front is replaced, and the pass goes on behind it. -/
theorem replace_append_found {pat : List α} (h : pat ≠ []) (new text : List α) :
    replace pat new (pat ++ text) = new ++ replace pat new text := by
  obtain ⟨p, rest, rfl⟩ := List.exists_cons_of_ne_nil h
  have found : (after? (p :: rest) (p :: (rest ++ text))).isSome := by
    rw [← List.cons_append, after?_append]
    rfl
  simp only [replace, if_neg h, List.cons_append, replaceFrom, if_pos found, List.length_cons,
    Nat.add_sub_cancel, replaceFrom_skip]

/-- An element at which no occurrence begins stays. -/
theorem replace_cons_of_none {pat : List α} (new : List α) {x : α} {text : List α}
    (h : after? pat (x :: text) = none) :
    replace pat new (x :: text) = x :: replace pat new text := by
  by_cases hp : pat = []
  · simp [hp, after?] at h
  · simp [replace, hp, replaceFrom, h]

@[simp] theorem replace_nil (pat new : List α) : replace pat new [] = [] := by
  simp [replace, replaceFrom]

end SyntaxWatch.Search
