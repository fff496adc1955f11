import SyntaxWatch.Proofs.Files.Ancestors
import SyntaxWatch.Proofs.Files.Entry
import SyntaxWatch.Proofs.Settings.Precedence
import SyntaxWatch.Settings.Discovery

/-!
# Which settings files are consulted

A directory offers a settings file when a plain file of the right name is in it
(`Surroundings.Offers`). The search goes up from a path and stops at the first of its ancestors that
offers one, so what it finds is settled by that ancestor and by the nearer ones: a settings file
that appears or disappears where none of these leads changes nothing (`Surroundings.Nearest`).

Two ancestors can lead to one directory, since `..` is a name like any other for the search and not
for the files. A directory farther up can therefore be met earlier on the way, and a settings file
that is put there is found.

The search is made for the working directory when the command line names no file, and not otherwise.
A file that is named has to be there; the user's file need not be (`Surroundings.Consults`).

## Main definitions

* `Surroundings.Offers`: there is a settings file in the directory of a path.
* `Surroundings.Nearest`: the law of the search from a path.
* `Surroundings.Consults`: the law of the files that a command line calls for.

## Main results

* `Surroundings.nearest_and_consults`: both laws hold everywhere.
* `Surroundings.projectFile?_insert`: a settings file may be put where the search does not look.
-/

namespace SyntaxWatch.Surroundings

variable {s : Surroundings} {start d path : Text} {o : Options} {fault : SettingsFault}

/-! ### The nearest file -/

/-- The directory of a path has a settings file in it. The path has to leave room for the name, as
otherwise the system does not look at the joined path. -/
def Offers (s : Surroundings) (d : Text) : Prop :=
  Text.bytes (Path.join d projectName) ≤ Tree.longestPath ∧
    ∃ place, s.tree.directory s.working d = .ok place ∧ s.tree.Holds place projectName

/-- The name of a settings file is one that a file can have in a directory. -/
theorem proper_projectName : Tree.Proper projectName := by decide

/-- A settings file is seen from a path exactly when its directory offers one. -/
theorem isFile_join_iff_offers : s.isFile (Path.join d projectName) = true ↔ s.Offers d :=
  Tree.isFile_join_iff proper_projectName

/-- The law of the search for a settings file from a path. -/
structure Nearest (s : Surroundings) (start : Text) : Prop where
  /-- The path itself comes first. -/
  itself : (Path.ancestors start).head? = some start
  /-- Its ancestors are taken from its text: their names are the fronts of its names. -/
  names : (Path.ancestors start).map Path.names = (Path.names start).inits.reverse
  fronts : ∀ d ∈ Path.ancestors start, d <+: start ∧ Path.isAbsolute d = Path.isAbsolute start
  /-- A file is found in the first ancestor that offers one. -/
  found : ∀ path, s.projectFile? start = some path ↔
    ∃ nearer d farther, Path.ancestors start = nearer ++ d :: farther ∧
      path = Path.join d projectName ∧ s.Offers d ∧ ∀ e ∈ nearer, ¬s.Offers e
  /-- None is found when no ancestor offers one. -/
  missing : s.projectFile? start = none ↔ ∀ d ∈ Path.ancestors start, ¬s.Offers d
  /-- The settings file of one directory may come or go when every ancestor that leads to this
  directory has a nearer one that offers a file. -/
  steady : ∀ t' place, s.tree.AgreesBut t' (place ++ [projectName]) →
    (∀ nearer d farther, Path.ancestors start = nearer ++ d :: farther →
      s.tree.directory s.working d = .ok place → ∃ e ∈ nearer, s.Offers e) →
    { s with tree := t' }.projectFile? start = s.projectFile? start

/-- What is found first in a list does not change when the test changes for those only that have
others in front that pass. -/
theorem find?_congr_of_covered {α : Type} {p q : α → Bool} {xs : List α}
    (covered : ∀ nearer x farther, xs = nearer ++ x :: farther →
      q x = p x ∨ ∃ y ∈ nearer, p y = true) :
    xs.find? q = xs.find? p := by
  induction xs with
  | nil => rfl
  | cons x xs ih =>
      have first : q x = p x := (covered [] x xs rfl).resolve_right (by simp)
      rw [List.find?_cons, List.find?_cons, first]
      cases passes : p x with
      | true => rfl
      | false =>
          refine ih fun nearer y farther split => ?_
          rcases covered (x :: nearer) y farther (by rw [split]; rfl) with same | ⟨z, mem, hz⟩
          · exact .inl same
          · rcases List.mem_cons.1 mem with rfl | mem
            · rw [passes] at hz
              cases hz
            · exact .inr ⟨z, mem, hz⟩

/-- The search tries the path and its ancestors, one after the other. -/
theorem projectFile?_eq (s : Surroundings) (start : Text) :
    s.projectFile? start = ((Path.ancestors start).find? fun d =>
      s.isFile (Path.join d projectName)).map (Path.join · projectName) := by
  rw [projectFile?, List.find?_map]
  rfl

/-- The search follows its law from every path. It stays the same under changes that it does not
look at, since what it finds first covers what comes later. -/
theorem nearest (s : Surroundings) (start : Text) : s.Nearest start where
  itself := by
    cases h : Path.parent? start with
    | none => rw [Path.ancestors_of_parent?_eq_none h]; rfl
    | some parent => rw [Path.ancestors_of_parent? h]; rfl
  names := Path.map_names_ancestors start
  fronts d mem := ⟨Path.prefix_of_mem_ancestors mem, Path.isAbsolute_of_mem_ancestors mem⟩
  found path := by
    simp only [projectFile?_eq, Option.map_eq_some_iff, List.find?_eq_some_iff_append,
      isFile_join_iff_offers, Bool.not_eq_true', ← Bool.not_eq_true]
    constructor
    · rintro ⟨d, ⟨offers, nearer, farther, split, none⟩, rfl⟩
      exact ⟨nearer, d, farther, split, rfl, offers, none⟩
    · rintro ⟨nearer, d, farther, split, rfl, offers, none⟩
      exact ⟨d, ⟨offers, nearer, farther, split, none⟩, rfl⟩
  missing := by
    simp only [projectFile?_eq, Option.map_eq_none_iff, List.find?_eq_none, isFile_join_iff_offers]
  steady t' place agrees covered := by
    rw [projectFile?_eq, projectFile?_eq]
    congr 1
    refine find?_congr_of_covered fun nearer d farther split => ?_
    by_cases leads : s.tree.directory s.working d = .ok place
    · obtain ⟨e, mem, offers⟩ := covered nearer d farther split leads
      exact .inr ⟨e, mem, isFile_join_iff_offers.2 offers⟩
    · exact .inl (agrees.isFile_join proper_projectName leads)

/-- A settings file may be put into any directory that the search does not look at before it has
found one. -/
theorem projectFile?_insert {place : Place} {content : List UInt8}
    (inside : s.tree.find? place = some .directory)
    (free : s.tree.find? (place ++ [projectName]) ≠ some .directory)
    (covered : ∀ nearer d farther, Path.ancestors start = nearer ++ d :: farther →
      s.tree.directory s.working d = .ok place → ∃ e ∈ nearer, s.Offers e) :
    { s with tree := s.tree.insert (place ++ [projectName]) (.file content) }.projectFile? start =
      s.projectFile? start :=
  (s.nearest start).steady _ place (Tree.agreesBut_insert inside free) covered

/-! ### The files of a command line -/

/-- What the user's settings file says. When there is none, it says nothing. -/
inductive UserSays (s : Surroundings) : Layer → Prop
  | absent (missing : s.isFile s.userPath = false) : UserSays s {}
  | present {layer : Layer} (there : s.isFile s.userPath = true)
      (loaded : Layer.load s.read? s.userPath = .ok layer) : UserSays s layer

/-- The user's settings file is there and cannot be loaded. -/
def UserFails (s : Surroundings) (fault : SettingsFault) : Prop :=
  s.isFile s.userPath = true ∧ Layer.load s.read? s.userPath = .error fault

/-- The settings file of the project that is used with a command line: the one that it names, or
else the nearest one, seen from the working directory. -/
inductive Uses (s : Surroundings) (o : Options) : Option Text → Prop
  | named {path : Text} (said : o.config = some path) : Uses s o (some path)
  | nearest (silent : o.config = none) : Uses s o (s.projectFile? s.working.path)

/-- The law of the settings files that a command line calls for. -/
structure Consults (s : Surroundings) (o : Options) : Prop where
  /-- The settings are those of the file that is used and of the user's. -/
  settled : ∀ result, s.settings o = .ok result ↔
    ∃ project, s.Uses o project ∧ ∃ higher lower, Layer.Says s.read? project higher ∧
      s.UserSays lower ∧ result = Settings.resolve o (higher.above lower) project
  /-- There are none when one of the two cannot be loaded. The user's is loaded first. -/
  fails : ∀ fault, s.settings o = .error fault ↔
    s.UserFails fault ∨
      (∃ lower, s.UserSays lower) ∧ ∃ project, s.Uses o project ∧ Layer.Fails s.read? project fault
  /-- A file that is named and not there is a fault, whatever the search would find. -/
  absent : ∀ path, o.config = some path → s.tree.resolve? s.working path = none →
    s.settings o = .error (.unreadable path) ∨ ∃ fault, s.UserFails fault ∧
      s.settings o = .error fault
  /-- Where a file is named, no file counts but this one and the user's. -/
  alone : ∀ path (s' : Surroundings), o.config = some path → s'.read? path = s.read? path →
    (∀ lower, s'.UserSays lower ↔ s.UserSays lower) →
    (∀ fault, s'.UserFails fault ↔ s.UserFails fault) → s'.settings o = s.settings o

/-- A command line uses one settings file of the project at most, and this is the one that is looked
up. -/
theorem uses_iff {project : Option Text} : s.Uses o project ↔ project = s.projectPath? o := by
  rw [projectPath?]
  constructor
  · rintro (said | silent)
    · rw [said]
    · rw [silent]
  · rintro rfl
    cases h : o.config with
    | none => exact .nearest h
    | some path => exact .named h

/-- The user's settings file is loaded when it is there, and only then. -/
theorem userSays_iff {layer : Layer} :
    s.UserSays layer ↔
      Layer.loadNamed s.read? (if s.isFile s.userPath then some s.userPath else none) =
        .ok layer := by
  constructor
  · rintro (missing | ⟨there, loaded⟩)
    · rw [missing]; rfl
    · rw [there]; exact loaded
  · intro loaded
    cases there : s.isFile s.userPath with
    | false => rw [there] at loaded; cases loaded; exact .absent there
    | true => rw [there] at loaded; exact .present there loaded

/-- The user's settings file fails when it is there and cannot be loaded. -/
theorem userFails_iff :
    s.UserFails fault ↔
      Layer.loadNamed s.read? (if s.isFile s.userPath then some s.userPath else none) =
        .error fault := by
  rw [UserFails]
  cases s.isFile s.userPath <;> simp [Layer.loadNamed]

/-- The user's settings file says something, be it nothing, or fails. -/
theorem says_or_fails (s : Surroundings) :
    (∃ lower, s.UserSays lower) ∨ ∃ fault, s.UserFails fault := by
  simp only [userSays_iff, userFails_iff]
  cases Layer.loadNamed s.read? (if s.isFile s.userPath then some s.userPath else none) with
  | error fault => exact .inr ⟨fault, rfl⟩
  | ok lower => exact .inl ⟨lower, rfl⟩

/-- There are settings exactly when both files say something, and they are put together from what
these say. -/
theorem settings_eq_ok_iff {result : Settings} :
    s.settings o = .ok result ↔
      ∃ project, s.Uses o project ∧ ∃ higher lower, Layer.Says s.read? project higher ∧
        s.UserSays lower ∧ result = Settings.resolve o (higher.above lower) project := by
  simp only [uses_iff, exists_eq_left, userSays_iff, ← Layer.loadNamed_eq_ok_iff]
  rw [settings, Settings.ofSources]
  cases Layer.loadNamed s.read? (if s.isFile s.userPath then some s.userPath else none) with
  | error first => simp [bind, Except.bind]
  | ok lower =>
      cases Layer.loadNamed s.read? (s.projectPath? o) with
      | error second => simp [bind, Except.bind]
      | ok higher => simp [bind, Except.bind, pure, Except.pure, eq_comm]

/-- There are no settings exactly when a file fails, the user's first. -/
theorem settings_eq_error_iff :
    s.settings o = .error fault ↔
      s.UserFails fault ∨ (∃ lower, s.UserSays lower) ∧
        ∃ project, s.Uses o project ∧ Layer.Fails s.read? project fault := by
  simp only [uses_iff, exists_eq_left, userSays_iff, userFails_iff, ← Layer.loadNamed_eq_error_iff]
  rw [settings, Settings.ofSources]
  cases Layer.loadNamed s.read? (if s.isFile s.userPath then some s.userPath else none) with
  | error first => simp [bind, Except.bind]
  | ok lower =>
      cases Layer.loadNamed s.read? (s.projectPath? o) with
      | error second => simp [bind, Except.bind]
      | ok higher => simp [bind, Except.bind, pure, Except.pure]

/-- A file that is not there has no text. -/
theorem read?_of_absent (absent : s.tree.resolve? s.working path = none) : s.read? path = none := by
  rw [read?, Tree.text?, Tree.bytes?, absent]
  rfl

/-- Every command line calls for its files as the law says. -/
theorem consults (s : Surroundings) (o : Options) : s.Consults o where
  settled _ := settings_eq_ok_iff
  fails _ := settings_eq_error_iff
  absent path said absent := by
    rcases says_or_fails s with fine | ⟨fault, fails⟩
    · refine .inl (settings_eq_error_iff.2 (.inr ⟨fine, _, .named said, path, rfl, ?_⟩))
      rw [Layer.load, read?_of_absent absent]
    · exact .inr ⟨fault, fails, settings_eq_error_iff.2 (.inl fails)⟩
  alone path s' said same told fails := by
    have loads : Layer.load s'.read? path = Layer.load s.read? path := by
      rw [Layer.load, Layer.load, same]
    have uses {s : Surroundings} {project : Option Text} :
        s.Uses o project ↔ project = some path := by
      rw [uses_iff, projectPath?, said]
    cases h : s.settings o with
    | ok result =>
        rw [settings_eq_ok_iff] at h ⊢
        simpa only [uses, exists_eq_left, told, ← Layer.loadNamed_eq_ok_iff,
          Layer.loadNamed, loads] using h
    | error fault =>
        rw [settings_eq_error_iff] at h ⊢
        simpa only [uses, exists_eq_left, told, fails, ← Layer.loadNamed_eq_error_iff,
          Layer.loadNamed, loads] using h

/-- The search finds the nearest settings file, and it is made when no file is named. -/
theorem nearest_and_consults (s : Surroundings) :
    (∀ start, s.Nearest start) ∧ ∀ o, s.Consults o :=
  ⟨s.nearest, s.consults⟩

/-! ### One directory met twice, and a path without room -/

/-- A file in a directory, seen from a directory beside it. -/
def beside : Surroundings where
  tree := { nodes := [(["a".toList, "b".toList, projectName], .file []),
    (["a".toList, "c".toList], .directory)] }

/-- The way from one directory to the one beside it. -/
def sideways : Text := "/a/b/../c".toList

/-- On the way to the directory beside it, one directory is met twice. -/
theorem ancestors_sideways :
    Path.ancestors sideways =
      ["/a/b/../c".toList, "/a/b/..".toList, "/a/b".toList, "/a".toList, "/".toList] := by
  have first : Path.parent? sideways = some "/a/b/..".toList := by decide
  have second : Path.parent? "/a/b/..".toList = some "/a/b".toList := by decide
  have third : Path.parent? "/a/b".toList = some "/a".toList := by decide
  have fourth : Path.parent? "/a".toList = some "/".toList := by decide
  have top : Path.parent? "/".toList = none := by decide
  rw [Path.ancestors_of_parent? first, Path.ancestors_of_parent? second,
    Path.ancestors_of_parent? third, Path.ancestors_of_parent? fourth,
    Path.ancestors_of_parent?_eq_none top]
  rfl

/-- A settings file at the root. -/
def atRoot : Surroundings where
  tree := { nodes := [([projectName], .file [])] }

/-- Slashes alone are the root, which has no parent. -/
theorem parent?_slashes (n : Nat) : Path.parent? (List.replicate (n + 1) '/') = none := by
  have left : Path.dropIdle (List.replicate (n + 1) '/') = ['/'] := by
    induction n with
    | zero => rfl
    | succ n ih =>
        rw [List.replicate_succ, Path.dropIdle]
        · exact ih
        · simp [List.replicate_succ]
  rw [Path.parent?, List.reverse_replicate, left]
  rfl

/-- Slashes take one byte each. -/
theorem bytes_slashes (n : Nat) : Text.bytes (List.replicate n '/') = n := by
  induction n with
  | zero => rfl
  | succ n ih => rw [List.replicate_succ, Text.bytes_cons, ih]; exact Nat.add_comm 1 n

/-- Slashes alone lead to the root. -/
theorem directory_slashes {t : Tree} (root : t.find? [] = some .directory) {n : Nat}
    (short : n + 1 ≤ Tree.longestPath) :
    t.directory [] (List.replicate (n + 1) '/') = .ok [] := by
  have stays : t.walk [] [] = .ok [] := by
    rw [Tree.walk, root]
    rfl
  have walks (m : Nat) : ((List.replicate m '/').splitOn '/').foldlM t.walk [] = .ok [] := by
    induction m with
    | zero => simpa using stays
    | succ m ih =>
        rw [List.replicate_succ, ← List.nil_append (_ :: _), List.splitOn_append_cons_self,
          List.splitOn_nil, List.foldlM_append, List.foldlM_cons, stays]
        exact ih
  rw [Tree.directory, if_neg (by simp), Tree.place_of_short (by simp)
    ((bytes_slashes (n + 1)).symm ▸ short)]
  exact walks (n + 1)

/-- Nothing is found from slashes alone that leave no room for a name. -/
theorem projectFile?_slashes {n : Nat} (full : Tree.longestPath < n + 1 + projectName.length) :
    s.projectFile? (List.replicate (n + 1) '/') = none := by
  refine (s.nearest _).missing.2 fun d mem offers => ?_
  rw [Path.ancestors_of_parent?_eq_none (parent?_slashes n), List.mem_singleton] at mem
  subst mem
  have relative : ¬Path.isAbsolute projectName = true := by decide
  have last : (List.replicate (n + 1) '/').getLast? = some '/' := by
    simp [List.getLast?_replicate]
  have joined : Path.join (List.replicate (n + 1) '/') projectName =
      List.replicate (n + 1) '/' ++ projectName := by
    rw [Path.join, if_neg relative, if_pos (.inr last)]
  have room := offers.1
  rw [joined, Text.bytes_append, bytes_slashes] at room
  have name : Text.bytes projectName = projectName.length := by decide
  omega

/-- A settings file that is put farther up is found when a nearer ancestor leads there too. And a
path that leaves no room for a name has no settings file, whatever its directory holds. -/
theorem nearest_met_twice_and_without_room :
    (beside.projectFile? sideways = some "/a/b/.perl-syntax.toml".toList ∧
      { beside with tree := beside.tree.insert ["a".toList, projectName] (.file []) }.projectFile?
        sideways = some "/a/b/../.perl-syntax.toml".toList) ∧
    atRoot.tree.directory atRoot.working (List.replicate 4090 '/') = .ok [] ∧
      atRoot.tree.Holds [] projectName ∧
      atRoot.projectFile? (List.replicate 4090 '/') = none := by
  refine ⟨⟨?_, ?_⟩, ?_, ?_, ?_⟩
  · rw [projectFile?, ancestors_sideways]
    decide
  · rw [projectFile?, ancestors_sideways]
    decide
  · have short : 4089 + 1 ≤ Tree.longestPath := by simp [Tree.longestPath]
    exact directory_slashes (t := atRoot.tree) (by decide) short
  · exact ⟨by decide, [], by decide⟩
  · exact projectFile?_slashes (n := 4089) (by decide)

end SyntaxWatch.Surroundings
