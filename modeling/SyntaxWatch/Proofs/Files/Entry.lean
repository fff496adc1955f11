import Mathlib.Data.List.Infix
import SyntaxWatch.Files.Tree

/-!
# Entries of directories

A path that is joined with a name leads to the entry of that name in the directory to which the path
leads (`Tree.place_join`). The empty path stands for the working directory there, and the joined
path must not be too long.

Two trees that differ in one entry only, which is a directory in neither of them, are walked alike:
no path leads through this entry, so every path leads to the same place in both
(`Tree.AgreesBut.toOption_place`), and what it leads to is the same unless it leads to this very
entry.

## Main definitions

* `Tree.directory`: the directory in which the entries of a path are.
* `Tree.Holds`: a directory with a plain file of a name.
* `Tree.AgreesBut`: two trees that differ in one entry.

## Main results

* `Tree.isFile_join_iff`: when a joined path leads to a plain file.
* `Tree.AgreesBut.isFile_join`: which joined paths lead to the same in trees that differ in one
  entry.
* `Tree.agreesBut_insert`: a file that is put into a directory makes such a difference.
-/

namespace SyntaxWatch.Tree

variable {t t' : Tree} {working place : Place} {d name path : Text}

/-- A name of an entry: one part of a path that leads neither nowhere nor up. -/
structure Proper (name : Text) : Prop where
  some : name ≠ []
  whole : '/' ∉ name
  dotless : name ≠ ['.']
  down : name ≠ ['.', '.']
  short : Text.bytes name ≤ longestName

instance (name : Text) : Decidable (Proper name) :=
  decidable_of_iff (name ≠ [] ∧ '/' ∉ name ∧ name ≠ ['.'] ∧ name ≠ ['.', '.'] ∧
    Text.bytes name ≤ longestName)
    ⟨fun ⟨a, b, c, d, e⟩ => ⟨a, b, c, d, e⟩, fun ⟨a, b, c, d, e⟩ => ⟨a, b, c, d, e⟩⟩

/-- The place of the directory in which the entries of a path are. The empty path stands for the
working directory. -/
def directory (t : Tree) (working : Place) (path : Text) : Except SystemFault Place :=
  if path = [] then .ok working else t.place working path

/-- There is a directory at a place, with a plain file of that name in it. -/
def Holds (t : Tree) (place : Place) (name : Text) : Prop :=
  t.find? place = some .directory ∧ ∃ content, t.find? (place ++ [name]) = some (.file content)

/-! ### Joined paths -/

/-- A name leads to the entry of that name, in a directory. -/
theorem walk_of_proper (proper : Proper name) :
    t.walk place name = match t.find? place with
      | none => .error .notFound
      | some .directory => .ok (place ++ [name])
      | some _ => .error .notDirectory := by
  have stays : ¬(name = [] ∨ name = ['.']) := not_or.2 ⟨proper.some, proper.dotless⟩
  have entered : enter place name = place ++ [name] := by
    rw [enter, if_neg stays, if_neg proper.down]
  cases found : t.find? place with
  | none => simp [walk, found]
  | some node => cases node <;> simp [walk, found, entered, Nat.not_lt.2 proper.short]

/-- A slash at the end of a path asks for the directory in which a name is sought anyway. -/
theorem walk_nil_bind (t : Tree) (place : Place) (name : Text) :
    (t.walk place [] >>= fun inner => t.walk inner name) = t.walk place name := by
  have stays : enter place [] = place := if_pos (.inl rfl)
  cases found : t.find? place with
  | none => simp [walk, found, bind, Except.bind]
  | some node => cases node <;> simp [walk, found, stays, longestName, bind, Except.bind]

/-- A path is walked name by name, from the root or from the working directory. -/
theorem place_of_short (some : path ≠ []) (short : Text.bytes path ≤ longestPath) :
    t.place working path =
      (path.splitOn '/').foldlM t.walk (if Path.isAbsolute path then [] else working) := by
  rw [Tree.place, if_neg some, if_neg (Nat.not_lt.2 short)]

/-- A name behind a slash leads on from the place of what is in front. -/
theorem place_append_slash (front : Text) (whole : '/' ∉ name)
    (short : Text.bytes (front ++ '/' :: name) ≤ longestPath) :
    t.place working (front ++ '/' :: name) =
      (front.splitOn '/').foldlM t.walk (if front = [] ∨ Path.isAbsolute front then [] else working)
        >>= fun place => t.walk place name := by
  have start : (Path.isAbsolute (front ++ '/' :: name) = true) ↔
      front = [] ∨ Path.isAbsolute front = true := by
    cases front <;> simp [Path.isAbsolute]
  rw [place_of_short (by simp) short, List.splitOn_append_cons_self,
    List.splitOn_eq_singleton whole, List.foldlM_append, if_congr start rfl rfl]
  simp

/-- A path that is joined with a name leads to the entry of that name in its directory. -/
theorem place_join (proper : Proper name) (short : Text.bytes (Path.join d name) ≤ longestPath) :
    t.place working (Path.join d name) =
      t.directory working d >>= fun place => t.walk place name := by
  have relative : Path.isAbsolute name = false := by
    obtain ⟨c, rest, rfl⟩ := List.exists_cons_of_ne_nil proper.some
    have first : c ≠ '/' := fun slash => proper.whole (slash ▸ List.mem_cons_self)
    simpa [Path.isAbsolute] using first
  rw [Path.join, relative, if_neg Bool.false_ne_true] at short ⊢
  rcases List.eq_nil_or_concat d with rfl | ⟨front, c, rfl⟩
  · rw [if_pos (.inl rfl), List.nil_append] at short ⊢
    rw [directory, if_pos rfl, place_of_short proper.some short,
      List.splitOn_eq_singleton proper.whole, relative, List.foldlM_cons]
    exact bind_pure (t.walk working name)
  · have some : front.concat c ≠ [] := by simp
    rw [directory, if_neg some]
    rw [List.concat_eq_append, List.getLast?_concat] at short ⊢
    by_cases slash : c = '/'
    · -- The slash of the directory is the one in front of the name.
      subst slash
      rw [if_pos (.inr rfl), List.append_assoc, List.singleton_append] at short ⊢
      have fits : Text.bytes (front ++ ['/']) ≤ longestPath := by
        refine Nat.le_trans ?_ short
        simp only [Text.bytes_append, Text.bytes_cons, Text.bytes_nil]
        omega
      rw [place_append_slash front proper.whole short,
        place_append_slash front List.not_mem_nil fits, bind_assoc]
      simp only [walk_nil_bind]
    · rw [if_neg (by simpa using slash)] at short ⊢
      have fits : Text.bytes (front ++ [c]) ≤ longestPath := by
        refine Nat.le_trans ?_ short
        rw [Text.bytes_append _ ('/' :: name)]
        exact Nat.le_add_right _ _
      rw [place_append_slash _ proper.whole short, place_of_short (by simp) fits]
      simp

/-- A path leads to a plain file when there is one at its place. -/
theorem isFile_iff :
    t.isFile working path = true ↔
      ∃ place content, t.place working path = .ok place ∧
        t.find? place = some (.file content) := by
  rw [isFile, resolve?]
  cases t.place working path with
  | error fault => simp [Except.toOption]
  | ok place =>
      cases found : t.find? place with
      | none => simp [Except.toOption, found]
      | some node => cases node <;> simp [Except.toOption, found]

/-- A joined path that is not too long leads to a plain file when the directory holds one. -/
theorem isFile_join_iff (proper : Proper name) :
    t.isFile working (Path.join d name) = true ↔
      Text.bytes (Path.join d name) ≤ longestPath ∧
        ∃ place, t.directory working d = .ok place ∧ t.Holds place name := by
  rw [isFile_iff]
  by_cases short : Text.bytes (Path.join d name) ≤ longestPath
  · rw [place_join proper short]
    cases t.directory working d with
    | error fault => simp [bind, Except.bind]
    | ok place =>
        cases found : t.find? place with
        | none => simp [bind, Except.bind, walk_of_proper proper, Holds, found]
        | some node =>
            cases node <;> simp [bind, Except.bind, walk_of_proper proper, Holds, found, short]
  · refine iff_of_false ?_ fun fits => short fits.1
    rintro ⟨place, content, led, -⟩
    rw [Tree.place, if_pos (Nat.lt_of_not_le short)] at led
    split at led <;> cases led

/-! ### Trees that differ in one entry -/

/-- Two trees that differ in one entry at most, which is a directory in neither of them. -/
structure AgreesBut (t t' : Tree) (entry : Place) : Prop where
  others : ∀ place ≠ entry, t.find? place = t'.find? place
  here : t.find? entry ≠ some .directory
  there : t'.find? entry ≠ some .directory

namespace AgreesBut

variable {entry : Place}

/-- No walk goes on from the entry, so all walks go the same way. -/
theorem toOption_walk (agrees : AgreesBut t t' entry) (place : Place) (name : Text) :
    (t.walk place name).toOption = (t'.walk place name).toOption := by
  by_cases here : place = entry
  · subst here
    have stops {t : Tree} (closed : t.find? place ≠ some .directory) :
        (t.walk place name).toOption = none := by
      unfold walk
      split
      · rfl
      · next found => exact absurd found closed
      · rfl
    rw [stops agrees.here, stops agrees.there]
  · rw [walk, walk, agrees.others place here]

/-- A walk over several names is a walk that forgets why it fails. -/
theorem toOption_walks (t : Tree) (start : Place) (names : List Text) :
    (names.foldlM t.walk start).toOption =
      names.foldlM (fun place name => (t.walk place name).toOption) start := by
  induction names generalizing start with
  | nil => rfl
  | cons name names ih =>
      rw [List.foldlM_cons, List.foldlM_cons]
      cases t.walk start name with
      | error fault => rfl
      | ok next => exact ih next

/-- Every path leads to the same place in both trees, or nowhere in both. -/
theorem toOption_place (agrees : AgreesBut t t' entry) (working : Place) (path : Text) :
    (t.place working path).toOption = (t'.place working path).toOption := by
  have walks (start : Place) (names : List Text) :
      (names.foldlM t.walk start).toOption = (names.foldlM t'.walk start).toOption := by
    simp only [toOption_walks, agrees.toOption_walk]
  rw [Tree.place, Tree.place]
  split
  · rfl
  · split
    · rfl
    · exact walks _ _

/-- Every path leads to the same in both trees, unless it leads to the entry. -/
theorem resolve?_eq (agrees : AgreesBut t t' entry)
    (elsewhere : t.place working path ≠ .ok entry) :
    t'.resolve? working path = t.resolve? working path := by
  rw [resolve?, resolve?, ← agrees.toOption_place working path]
  cases led : t.place working path with
  | error fault => rfl
  | ok place =>
      have other : place ≠ entry := fun same => elsewhere (by rw [led, same])
      exact (agrees.others place other).symm

/-- A path that is joined with a name leads to the same in both trees, unless it leads to the
directory of an entry of this name. -/
theorem isFile_join (agrees : AgreesBut t t' (place ++ [name])) (proper : Proper name)
    (elsewhere : t.directory working d ≠ .ok place) :
    t'.isFile working (Path.join d name) = t.isFile working (Path.join d name) := by
  by_cases short : Text.bytes (Path.join d name) ≤ longestPath
  · have other : t.place working (Path.join d name) ≠ .ok (place ++ [name]) := by
      rw [place_join proper short]
      cases led : t.directory working d with
      | error fault => simp [bind, Except.bind]
      | ok inner =>
          have apart : inner ≠ place := fun same => elsewhere (by rw [led, same])
          intro same
          change t.walk inner name = _ at same
          rw [walk_of_proper proper] at same
          split at same
          · cases same
          · simp [apart] at same
          · cases same
    rw [isFile, isFile, agrees.resolve?_eq other]
  · have long (t : Tree) : t.isFile working (Path.join d name) = false :=
      Bool.eq_false_iff.2 fun file => short ((isFile_join_iff proper).1 file).1
    rw [long, long]

end AgreesBut

/-- There is a directory where none is listed when something is listed below it. -/
theorem find?_of_unlisted (unlisted : t.nodes.find? (·.1 == place) = none) :
    t.find? place =
      if place = [] ∨ ∃ listed ∈ t.nodes, place <+: listed.1 then some .directory else none := by
  rw [find?, unlisted]
  refine if_congr (or_congr Iff.rfl ?_) rfl rfl
  simp only [List.any_eq_true, List.isPrefixOf_iff_prefix]

/-- A directory is the root, or it is listed or has something below it that is listed. -/
theorem listed_of_directory (h : t.find? place = some .directory) :
    place = [] ∨ ∃ listed ∈ t.nodes, place <+: listed.1 := by
  cases listed : t.nodes.find? (·.1 == place) with
  | none =>
      rw [find?_of_unlisted listed] at h
      split at h
      · assumption
      · cases h
  | some node =>
      have same : node.1 = place := by simpa using List.find?_some listed
      exact .inr ⟨node, List.mem_of_find?_eq_some listed, same ▸ List.prefix_rfl⟩

/-- A file that is put into a directory, where there was no directory of its name, changes the tree
in this entry only. -/
theorem agreesBut_insert {content : List UInt8} (inside : t.find? place = some .directory)
    (free : t.find? (place ++ [name]) ≠ some .directory) :
    AgreesBut t (t.insert (place ++ [name]) (.file content)) (place ++ [name]) where
  here := free
  there := by simp
  others other apart := by
    have listing : (t.insert (place ++ [name]) (.file content)).nodes.find? (·.1 == other) =
        t.nodes.find? (·.1 == other) := by
      rw [insert, List.find?_cons_of_neg (by simpa using apart.symm), List.find?_filter]
      refine congrArg (List.find? · t.nodes) (funext fun listed => ?_)
      by_cases same : listed.1 = other <;> simp [same, apart]
    cases listed : t.nodes.find? (·.1 == other) with
    | some node => rw [find?, find?, listing, listed]
    | none =>
        rw [find?_of_unlisted listed, find?_of_unlisted (listing.trans listed)]
        refine if_congr ⟨?_, ?_⟩ rfl rfl
        · rintro (root | ⟨node, mem, below⟩)
          · exact .inl root
          · by_cases same : node.1 = place ++ [name]
            · exact .inr ⟨_, List.mem_cons_self, same ▸ below⟩
            · refine .inr ⟨node, List.mem_cons_of_mem _ ?_, below⟩
              exact List.mem_filter.2 ⟨mem, by simpa using same⟩
        · rintro (root | ⟨node, mem, below⟩)
          · exact .inl root
          · rcases List.mem_cons.1 mem with rfl | mem
            · -- The directories on the way to the file are those on the way to its directory.
              have above : other <+: place :=
                (List.prefix_concat_iff.1 below).resolve_left apart
              rcases listed_of_directory inside with rfl | ⟨node, mem, way⟩
              · exact .inl (List.prefix_nil.1 above)
              · exact .inr ⟨node, mem, above.trans way⟩
            · exact .inr ⟨node, (List.mem_filter.1 mem).1, below⟩

end SyntaxWatch.Tree
