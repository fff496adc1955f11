import Mathlib.Data.List.Infix
import Mathlib.Data.List.TakeWhile
import SyntaxWatch.Files.Path

/-!
# The names on a path and on its ancestors

The ancestors of a path are cut out of its text. What they stand for is said by names: a path is a
sequence of names (`Path.names`), and its ancestors have all the fronts of this sequence for names,
the longest first (`Path.map_names_ancestors`). They are fronts of the text too, and they start at
the root when the path does (`Path.prefix_of_mem_ancestors`, `Path.isAbsolute_of_mem_ancestors`).

Both `..` and a dot at the front of a relative path are names here, because nothing is known about
the files.
-/

namespace SyntaxWatch.Path

variable {path parent front name : Text}

/-- Whether a part of a path between slashes names nothing. -/
def isIdle (part : Text) : Bool :=
  part = [] || part = ['.']

/-- The names among the parts of a path between its slashes. Nothing is named by an empty part, and
by a single dot only at the front of the path. -/
def named : List Text → List Text
  | [] => []
  | first :: rest => [first].filter (· ≠ []) ++ rest.filter (! isIdle ·)

/-- The names on a path. -/
def names (path : Text) : List Text :=
  named (path.splitOn '/')

/-! ### Names one by one -/

/-- A part at the end of a path that has others in front of it is a name unless it is idle. -/
theorem named_concat {parts : List Text} (some : parts ≠ []) (part : Text) :
    named (parts ++ [part]) = named parts ++ [part].filter (! isIdle ·) := by
  obtain ⟨first, rest, rfl⟩ := List.exists_cons_of_ne_nil some
  rw [List.cons_append, named, named, List.filter_append, List.append_assoc]

/-- A text without a slash is one name, or none when it is empty. -/
theorem names_of_notMem (whole : '/' ∉ name) : names name = [name].filter (· ≠ []) := by
  rw [names, List.splitOn_eq_singleton whole, named, List.filter_nil, List.append_nil]

/-- What follows a slash at the end of a path is a name unless it is idle. -/
theorem names_append_slash (front : Text) (whole : '/' ∉ name) :
    names (front ++ '/' :: name) = names front ++ [name].filter (! isIdle ·) := by
  rw [names, names, List.splitOn_append_cons_self, List.splitOn_eq_singleton whole,
    named_concat (List.splitOn_ne_nil '/' front)]

/-- An idle part at the end of a path adds no name. -/
theorem names_append_idle (front : Text) (whole : '/' ∉ name) (idle : isIdle name = true) :
    names (front ++ '/' :: name) = names front := by
  rw [names_append_slash front whole, List.filter_cons_of_neg (by simp [idle]), List.filter_nil,
    List.append_nil]

/-! ### Idle ends -/

/-- The idle end of a path names nothing. -/
theorem names_dropIdle (path : Text) : names (dropIdle path).reverse = names path.reverse := by
  fun_induction dropIdle path with
  | case1 => rfl
  | case2 rest _ ih =>
      rw [ih, List.reverse_cons]
      exact (names_append_idle rest.reverse (by decide) (by decide)).symm
  | case3 rest ih =>
      have slash : names ('/' :: rest).reverse = names rest.reverse := by
        rw [List.reverse_cons]
        exact names_append_idle rest.reverse (by decide) (by decide)
      rw [ih, slash, List.reverse_cons, List.reverse_cons, List.append_assoc]
      exact (names_append_idle rest.reverse (by decide) (by decide)).symm
  | case4 => rfl

/-- Dropping the idle parts leaves the rest of a path as it stands. -/
theorem dropIdle_suffix (path : Text) : dropIdle path <:+ path := by
  fun_induction dropIdle path with
  | case1 => exact List.suffix_rfl
  | case2 rest _ ih => exact ih.trans (List.suffix_cons '/' rest)
  | case3 rest ih => exact ih.trans (List.suffix_cons '.' _)
  | case4 => exact List.suffix_rfl

/-- What is left of a path does not end in an idle dot. -/
theorem dropIdle_ne (path rest : Text) : dropIdle path ≠ '.' :: '/' :: rest := by
  fun_induction dropIdle path with
  | case1 => simp
  | case2 _ _ ih => exact ih
  | case3 _ ih => exact ih
  | case4 path _ _ dot => exact dot rest

/-- Only the empty path is left empty: an idle part is dropped with the slash that parts it from
others. -/
theorem dropIdle_eq_nil_iff : dropIdle path = [] ↔ path = [] := by
  fun_induction dropIdle path with
  | case1 => simp
  | case2 rest root ih =>
      have named : rest ≠ [] := by
        rintro rfl
        exact root rfl
      simp [ih, named]
  | case3 rest ih => simp [ih]
  | case4 => rfl

/-! ### Parents -/

/-- A path without a parent names nothing. -/
theorem names_of_parent?_eq_none (h : parent? path = none) : names path = [] := by
  have same := names_dropIdle path.reverse
  rw [List.reverse_reverse] at same
  unfold parent? at h
  split at h
  · next left => rw [← same, left]; rfl
  · next left => rw [← same, left]; rfl
  · cases h

/-- A path with a parent is, read from its end and but for its idle end, a name and what is in front
of it. -/
theorem exists_of_parent? (h : parent? path = some parent) :
    ∃ word stem, dropIdle path.reverse = word ++ stem ∧ word ≠ [] ∧ '/' ∉ word ∧
      (stem = [] ∨ word ≠ ['.'] ∧ ∃ more, stem = '/' :: more) ∧
      parent = (dropIdle stem).reverse := by
  have trimmed := dropIdle_ne path.reverse
  have rooted {rest : Text} : dropIdle path.reverse = '/' :: rest → rest = [] :=
    eq_root_of_dropIdle
  unfold parent? at h
  generalize dropIdle path.reverse = left at h trimmed rooted ⊢
  split at h
  · cases h
  · cases h
  · next some root =>
      cases h
      have parts : left.takeWhile (· ≠ '/') ++ left.dropWhile (· ≠ '/') = left :=
        List.takeWhile_append_dropWhile
      refine ⟨left.takeWhile (· ≠ '/'), left.dropWhile (· ≠ '/'), parts.symm, fun none => ?_,
        fun slash => ?_, ?_, rfl⟩
      · obtain ⟨c, rest, rfl⟩ := List.exists_cons_of_ne_nil some
        by_cases first : c = '/'
        · subst first
          exact root (by rw [rooted rfl])
        · rw [List.takeWhile_cons_of_pos (by simpa using first)] at none
          cases none
      · simpa using List.mem_takeWhile_imp slash
      · cases back : left.dropWhile (· ≠ '/') with
        | nil => exact .inl rfl
        | cons c more =>
            have slash : c = '/' := by
              have stops := List.head_dropWhile_not (· ≠ '/') (back ▸ List.cons_ne_nil c more)
              simpa only [back, List.head_cons, decide_eq_false_iff_not, not_not] using stops
            subst slash
            refine .inr ⟨fun dot => trimmed more ?_, more, rfl⟩
            rw [← parts, dot, back]
            rfl

/-- A path with a parent has one name more than its parent. -/
theorem names_of_parent? (h : parent? path = some parent) :
    ∃ name, names path = names parent ++ [name] := by
  obtain ⟨word, stem, left, some, whole, front, rfl⟩ := exists_of_parent? h
  have turned : '/' ∉ word.reverse := by rwa [List.mem_reverse]
  refine ⟨word.reverse, ?_⟩
  have same := names_dropIdle path.reverse
  rw [List.reverse_reverse] at same
  rw [← same, left, names_dropIdle, List.reverse_append]
  rcases front with rfl | ⟨dotless, more, rfl⟩
  · rw [List.reverse_nil, List.nil_append, names_of_notMem turned,
      List.filter_cons_of_pos (by simpa using some)]
    rfl
  · have named : isIdle word.reverse = false := by
      simp [isIdle, some, dotless]
    rw [List.reverse_cons, List.append_assoc, List.singleton_append,
      names_append_slash more.reverse turned, List.filter_cons_of_pos (by simp [named])]
    congr 1
    exact (names_append_idle more.reverse (by decide) (by decide)).symm

/-- A parent is a front of its path. -/
theorem prefix_of_parent? (h : parent? path = some parent) : parent <+: path := by
  obtain ⟨word, stem, left, -, -, -, rfl⟩ := exists_of_parent? h
  have back : dropIdle stem <:+ path.reverse :=
    ((dropIdle_suffix stem).trans (List.suffix_append word stem)).trans
      (left ▸ dropIdle_suffix path.reverse)
  rwa [← List.reverse_prefix, List.reverse_reverse] at back

/-- A parent starts at the root exactly when its path does. -/
theorem isAbsolute_of_parent? (h : parent? path = some parent) :
    isAbsolute parent = isAbsolute path := by
  cases parent with
  | cons c parent =>
      obtain ⟨rest, rfl⟩ := prefix_of_parent? h
      rfl
  | nil =>
      obtain ⟨word, stem, left, some, whole, -, none⟩ := exists_of_parent? h
      rw [dropIdle_eq_nil_iff.1 (List.reverse_eq_nil_iff.1 none.symm), List.append_nil] at left
      -- The whole path is a name and an idle end, so no slash is at its front.
      obtain ⟨idle, turned⟩ := left ▸ dropIdle_suffix path.reverse
      obtain ⟨c, rest, hword⟩ := List.exists_cons_of_ne_nil (mt List.reverse_eq_nil_iff.1 some)
      have other : c ≠ '/' := by
        rintro rfl
        exact whole (List.mem_reverse.1 (hword ▸ List.mem_cons_self))
      have start : path = c :: (rest ++ idle.reverse) := by
        rw [← List.cons_append, ← hword, ← List.reverse_append, turned, List.reverse_reverse]
      rw [start]
      simpa [isAbsolute] using other

/-! ### Ancestors -/

/-- A path without a parent is its only ancestor. -/
theorem ancestors_of_parent?_eq_none (h : parent? path = none) : ancestors path = [path] := by
  rw [ancestors]
  split
  · rfl
  · next found => rw [h] at found; cases found

/-- The ancestors of a path are the path itself and those of its parent. -/
theorem ancestors_of_parent? (h : parent? path = some parent) :
    ancestors path = path :: ancestors parent := by
  rw [ancestors]
  split
  · next none => rw [h] at none; cases none
  · next found => rw [h] at found; cases found; rfl

/-- What holds of a path that has no parent, and of a path when it holds of its parent, holds of all
paths. -/
@[elab_as_elim]
theorem upward {motive : Text → Prop} (top : ∀ path, parent? path = none → motive path)
    (step : ∀ path parent, parent? path = some parent → motive parent → motive path)
    (path : Text) : motive path :=
  match h : parent? path with
  | none => top path h
  | some parent => step path parent h (upward top step parent)
termination_by path.length
decreasing_by exact length_lt_of_parent? h

/-- The ancestors of a path have all fronts of its names for names, from the longest one on. -/
theorem map_names_ancestors (path : Text) :
    (ancestors path).map names = (names path).inits.reverse := by
  induction path using upward with
  | top path h =>
      rw [ancestors_of_parent?_eq_none h, List.map_singleton, names_of_parent?_eq_none h]
      rfl
  | step path parent h ih =>
      obtain ⟨name, more⟩ := names_of_parent? h
      rw [ancestors_of_parent? h, List.map_cons, ih, more, List.inits_append]
      simp

/-- The ancestors of a path are fronts of it. -/
theorem prefix_of_mem_ancestors {d : Text} (h : d ∈ ancestors path) : d <+: path := by
  induction path using upward with
  | top path none =>
      rw [ancestors_of_parent?_eq_none none, List.mem_singleton] at h
      exact h ▸ List.prefix_rfl
  | step path parent found ih =>
      rw [ancestors_of_parent? found, List.mem_cons] at h
      rcases h with rfl | h
      · exact List.prefix_rfl
      · exact (ih h).trans (prefix_of_parent? found)

/-- The ancestors of a path start at the root exactly when it does. -/
theorem isAbsolute_of_mem_ancestors {d : Text} (h : d ∈ ancestors path) :
    isAbsolute d = isAbsolute path := by
  induction path using upward with
  | top path none =>
      rw [ancestors_of_parent?_eq_none none, List.mem_singleton] at h
      rw [h]
  | step path parent found ih =>
      rw [ancestors_of_parent? found, List.mem_cons] at h
      rcases h with rfl | h
      · rfl
      · exact (ih h).trans (isAbsolute_of_parent? found)

end SyntaxWatch.Path
