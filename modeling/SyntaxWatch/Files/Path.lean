import SyntaxWatch.Text.Basic

/-!
# Paths

Operations on the text of a path that do not look at the files: what is joined is kept as it is
written, and the ancestors of a path are cut out of its text. Slashes and single dots at the end of
an ancestor name nothing, so they are left out; `..` is a name like any other.

## Main definitions

* `Path.join`: a path read from a directory.
* `Path.parent?`: the path without its last name.
* `Path.ancestors`: the path and all that is left of it when names are taken away.

## Main results

* `Path.length_lt_of_parent?`: a parent is shorter, so there is an end to the ancestors.
-/

namespace SyntaxWatch.Path

/-- Whether a path starts at the root. -/
def isAbsolute (path : Text) : Bool :=
  path.head? == some '/'

/-- A path read from a directory. An absolute path stays what it is. -/
def join (directory path : Text) : Text :=
  if isAbsolute path then path
  else if directory = [] ∨ directory.getLast? = some '/' then directory ++ path
  else directory ++ '/' :: path

/-- A path without the slashes and the single dots at its end. The path is read from its end, and
the slash of the root stays. -/
def dropIdle : Text → Text
  | ['/'] => ['/']
  | '/' :: rest => dropIdle rest
  | '.' :: '/' :: rest => dropIdle ('/' :: rest)
  | path => path

/-- The path without its last name. The root has no parent, and neither has the empty path. -/
def parent? (path : Text) : Option Text :=
  match dropIdle path.reverse with
  | [] => none
  | ['/'] => none
  | named => some (dropIdle (named.dropWhile (· ≠ '/'))).reverse

/-! ### Parents are shorter -/

/-- Dropping the idle parts at the end of a path does not make it longer, so that the walk to the
root comes to an end. -/
theorem length_dropIdle_le (path : Text) : (dropIdle path).length ≤ path.length := by
  fun_induction dropIdle path with
  | case1 => exact Nat.le_refl _
  | case2 rest _ ih => exact Nat.le_succ_of_le ih
  | case3 rest ih => exact Nat.le_succ_of_le ih
  | case4 => exact Nat.le_refl _

/-- What is left of a path read from its end begins with no idle slash, unless it is the root. -/
theorem eq_root_of_dropIdle {path rest : Text} (h : dropIdle path = '/' :: rest) : rest = [] := by
  fun_induction dropIdle path with
  | case1 => cases h; rfl
  | case2 rest' _ ih => exact ih h
  | case3 rest' ih => exact ih h
  | case4 path hroot hslash _ => exact absurd h (hslash rest)

/-- A parent is shorter than its path. -/
theorem length_lt_of_parent? {path parent : Text} (h : parent? path = some parent) :
    parent.length < path.length := by
  unfold parent? at h
  split at h
  · cases h
  · cases h
  · next named hne hroot =>
    cases h
    obtain ⟨c, tail, hnamed⟩ : ∃ c tail, dropIdle path.reverse = c :: tail :=
      List.exists_cons_of_ne_nil hne
    have noSlash : c ≠ '/' := by
      intro hc
      subst hc
      exact hroot (by rw [hnamed, eq_root_of_dropIdle hnamed])
    have first : (c :: tail).dropWhile (· ≠ '/') = tail.dropWhile (· ≠ '/') := by
      rw [List.dropWhile_cons, if_pos (by simpa using noSlash)]
    have whole := length_dropIdle_le path.reverse
    have left := length_dropIdle_le (tail.dropWhile (· ≠ '/'))
    have dropped : (tail.dropWhile (· ≠ '/')).length ≤ tail.length :=
      (List.dropWhile_sublist _).length_le
    rw [hnamed, first, List.length_reverse]
    rw [hnamed, List.length_cons, List.length_reverse] at whole
    omega

/-- The path, and then its parent, the parent of that, and so on. -/
def ancestors (path : Text) : List Text :=
  match _h : parent? path with
  | none => [path]
  | some parent => path :: ancestors parent
termination_by path.length
decreasing_by exact length_lt_of_parent? _h

example : parent? "/a/./b//".toList = some "/a".toList := by decide

example : parent? "./a".toList = some ".".toList := by decide

example : parent? "a/..".toList = some "a".toList := by decide

end SyntaxWatch.Path
