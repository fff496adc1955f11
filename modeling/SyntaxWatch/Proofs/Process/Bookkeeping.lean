import SyntaxWatch.Proofs.Process.Books

/-!
# Files with their paths

The system calls its files by paths, and what is in a directory is told by paths and contents. Which
path stands for which number is a parameter here, and all that is asked of it is that no path is
given out twice, neither to a file that exists nor to one that is gone. The paths of a `Scratch` are
of this kind (`Scratch.path_injective`).

Then all that the books of a directory say can be said of its paths: which files there are after a
run, what the next act does to them, and that nothing is left of them in the end.

## Main definitions

* `Scratch.listing`: the files of a directory with their paths.
* `ScratchUser.Bookkeeping`: what a history says about the directory and about the next act.

## Main results

* `ScratchUser.bookkeeping`: every history says this.
-/

namespace SyntaxWatch

open Function

/-! ### Files and their paths -/

namespace Scratch

variable {name : Nat → Text}

/-- A file with its path in place of its number. -/
def named (name : Nat → Text) (file : Nat × Text) : Text × Text := (name file.1, file.2)

/-- The paths and the contents of the files in a directory. -/
def listing (d : Scratch) (name : Nat → Text) : List (Text × Text) :=
  d.files.map (named name)

/-- A directory is as another one. The number of its next file may be another. -/
structure Resembles (d base : Scratch) : Prop where
  location : d.location = base.location
  present : d.present = base.present
  refuses : d.refuses = base.refuses
  files : d.files = base.files

/-- The paths in one directory are different for different numbers. -/
theorem path_injective (d : Scratch) : Injective d.path := by
  intro number number' same
  have digits : Decimal.print number = Decimal.print number' :=
    List.append_cancel_left (List.append_cancel_right same)
  have read := congrArg Decimal.digits? digits
  rw [Decimal.digits?_print, Decimal.digits?_print] at read
  exact Option.some.inj read

end Scratch

namespace ScratchUser

open Scratch (named)

variable {u : ScratchUser} {index : Nat}

/-! ### What the books say -/

/-- The files that were created, with their paths. -/
def inputs (name : Nat → Text) (history : List (Act × Answer)) : List (Text × Text) :=
  (issued history).map (named name)

/-- What a history says about a directory, and about the next act. -/
structure Bookkeeping (name : Nat → Text) (base : Scratch) (u : ScratchUser)
    (history : List (Act × Answer)) : Prop where
  /-- A new file has a path that no other file in the directory has, and its content is the text. -/
  created : ∀ text astray number, (u.step (.create text astray)).2 = .created number →
    (∀ file ∈ u.directory.listing name, file.1 ≠ name number) ∧
      (u.step (.create text astray)).1.directory.listing name =
        u.directory.listing name ++ [(name number, text)]
  /-- A file is created in a directory that exists exactly when the text goes into it. -/
  accepted : base.present = true → ∀ text,
    (∃ number, (u.step (.create text false)).2 = .created number) ↔
      base.refuses u.directory.next text = none
  /-- When it does not, the cause is answered, and there is no new handle, file or warning. -/
  failed : base.present = true → ∀ text cause, base.refuses u.directory.next text = some cause →
    ∃ directory : Scratch, u.step (.create text false) = ({ u with directory }, .refused cause) ∧
      directory.Resembles u.directory
  /-- Nothing changes when there is no directory. -/
  refused : ∀ text astray, astray = true ∨ base.present = false →
    u.step (.create text astray) = (u, .refused .notFound)
  /-- The files are those of the start and, next to them, those that were created and that nothing
  has ended since. -/
  standing : ∃ rest, u.directory.listing name = base.listing name ++ rest ∧
    rest.Sublist (inputs name history) ∧
    ∀ file, file ∈ rest ↔ ∃ index, (inputs name history)[index]? = some file ∧ ¬Ended history index
  /-- No two of the files that were ever there have one path. -/
  distinct : ((inputs name history).map Prod.fst).Nodup ∧
    ∀ file ∈ base.listing name, ∀ file' ∈ inputs name history, file.1 ≠ file'.1
  /-- Whatever ends a file changes no other file, and no fault is answered. -/
  ended : ∀ act index, act.Ends index → (u.step act).2 = .done ∧
    (u.step act).1.directory.listing name = (u.directory.listing name).filter fun file =>
      (inputs name history)[index]?.map Prod.fst ≠ some file.1
  /-- It changes no file at all when the file was ended before. -/
  late : ∀ act index, act.Ends index → Ended history index →
    (u.step act).1.directory = u.directory
  /-- A handle that finds its file gone notes this. -/
  noted : ∀ act index, act.GivesUp index → Ended history index → ¬GivenUp history index →
    ∃ file, (issued history)[index]? = some file ∧
      (u.step act).1.warnings = u.warnings ++ [u.directory.warning file.1 .notFound]
  /-- Nothing else is noted. -/
  quiet : ∀ act, (∀ index, act.GivesUp index → ¬Ended history index) →
    (u.step act).1.warnings = u.warnings
  /-- A handle that was given up before does nothing. -/
  again : ∀ act index, act.GivesUp index → GivenUp history index → u.step act = (u, .done)
  /-- The directory is as it was at the start when every file that was created was ended. -/
  restored : (∀ index < (issued history).length, Ended history index) →
    u.directory.Resembles base
  /-- And so it is when all handles are dropped. -/
  dropped : u.releaseAll.directory.Resembles base

variable {base : Scratch} {history : List (Act × Answer)} {name : Nat → Text} {act : Act}

/-- A file that is created gets a path of its own, and comes last in the listing. -/
theorem listing_create (unique : Injective name) {text : Text} {astray : Bool} {number : Nat}
    (created : (u.create text astray).2 = .created number) :
    (∀ file ∈ u.directory.listing name, file.1 ≠ name number) ∧
      (u.create text astray).1.directory.listing name =
        u.directory.listing name ++ [(name number, text)] := by
  obtain ⟨-, absent⟩ | ⟨-, directory, -, -, -, -, ⟨cause, -, failed, -⟩ | ⟨-, made, files⟩⟩ :=
    u.create_cases text astray
  · rw [absent] at created
    cases created
  · rw [failed] at created
    cases created
  · rw [made] at created ⊢
    cases created
    constructor
    · rw [Scratch.listing, List.forall_mem_map]
      exact fun file mem => unique.ne (Nat.ne_of_lt (u.directory.lt_next file mem))
    · rw [Scratch.listing, files, List.map_append]
      rfl

namespace Books

/-- For every file that was created there is a handle. -/
theorem exists_handle (books : Books base u history) (bound : index < (issued history).length) :
    ∃ handle, u.handles[index]? = some handle := by
  rw [← books.length_handles] at bound
  exact ⟨_, List.getElem?_eq_getElem bound⟩

/-- A file is created in a directory that exists exactly when the text goes into it. -/
theorem accepted (books : Books base u history) (there : base.present = true) (text : Text) :
    (∃ number, (u.step (.create text false)).2 = .created number) ↔
      base.refuses u.directory.next text = none := by
  rw [← books.present] at there
  rw [← books.refuses, ScratchUser.step]
  obtain ⟨absent, -⟩ | ⟨-, directory, -, -, -, -, ⟨cause, full, failed, -⟩ | ⟨goes, made, -⟩⟩ :=
    u.create_cases text false
  · simp [there] at absent
  · simp [failed, full]
  · simp [made, goes]

/-- A text that does not go in leaves nothing behind. -/
theorem failed (books : Books base u history) (there : base.present = true) {text : Text}
    {cause : SystemFault} (full : base.refuses u.directory.next text = some cause) :
    ∃ directory : Scratch, u.step (.create text false) = ({ u with directory }, .refused cause) ∧
      directory.Resembles u.directory := by
  rw [← books.present] at there
  rw [← books.refuses] at full
  obtain ⟨absent, -⟩ |
      ⟨-, directory, location, present, refuses, -, ⟨cause', full', failed, files⟩ | ⟨goes, -⟩⟩ :=
    u.create_cases text false
  · simp [there] at absent
  · obtain rfl := Option.some.inj (full'.symm.trans full)
    exact ⟨directory, failed, location, present.trans there.symm, refuses, files⟩
  · cases full.symm.trans goes

/-- Whatever ends a file leaves the files that a deletion from outside leaves. -/
theorem step_of_ends (books : Books base u history) (ends : act.Ends index) :
    (u.step act).2 = .done ∧ (u.step act).1.directory = (u.unlink index).directory := by
  rcases ends with givesUp | rfl
  · rw [step_of_givesUp givesUp]
    exact ⟨rfl, books.directory_release index⟩
  · exact ⟨rfl, rfl⟩

/-- A deletion from outside takes the path of the one file from the listing. -/
theorem listing_unlink (books : Books base u history) (unique : Injective name) (index : Nat) :
    (u.unlink index).directory.listing name = (u.directory.listing name).filter fun file =>
      (inputs name history)[index]?.map Prod.fst ≠ some file.1 := by
  cases at_ : u.handles[index]? with
  | none =>
      have past := List.getElem?_eq_none_iff.mp at_
      rw [books.length_handles] at past
      simp [unlink_of_none at_, inputs, List.getElem?_eq_none past]
  | some handle =>
      obtain ⟨text, found⟩ := books.exists_issued at_
      rw [directory_unlink at_, Scratch.listing, Scratch.listing, Scratch.files_delete,
        List.filter_map]
      refine congrArg (List.map (named name)) (List.filter_congr fun file _ => ?_)
      simp [inputs, found, named, unique.eq_iff, bne, Bool.beq_eq_decide_eq, eq_comm]

/-- A handle deletes nothing when its file was ended before. -/
theorem directory_unlink_of_ended (books : Books base u history) (ended : Ended history index) :
    (u.unlink index).directory = u.directory := by
  obtain ⟨handle, at_⟩ := books.exists_handle ended.lt
  obtain ⟨text, found⟩ := books.exists_issued at_
  rw [directory_unlink at_]
  exact Scratch.delete_eq_self ((books.gone_iff found).mpr ended)

/-- A handle that was given up changes nothing. -/
theorem release_of_givenUp (books : Books base u history) (givenUp : GivenUp history index) :
    u.release index = u := by
  obtain ⟨handle, at_⟩ := books.exists_handle givenUp.lt
  exact release_of_not_held at_ ((books.held index handle at_).mpr givenUp)

/-- A handle that finds its file gone notes this. -/
theorem warnings_release_of_ended (books : Books base u history) (ended : Ended history index)
    (held : ¬GivenUp history index) : ∃ file, (issued history)[index]? = some file ∧
      (u.release index).warnings = u.warnings ++ [u.directory.warning file.1 .notFound] := by
  obtain ⟨handle, at_⟩ := books.exists_handle ended.lt
  obtain ⟨text, found⟩ := books.exists_issued at_
  rw [← books.held index handle at_, Bool.not_eq_false] at held
  refine ⟨_, found, ?_⟩
  rw [release_of_held at_ held, (books.gone_iff found).mpr ended]
  rfl

/-- A handle notes nothing when its file is there. -/
theorem warnings_release_of_standing (books : Books base u history)
    (stands : ¬Ended history index) : (u.release index).warnings = u.warnings := by
  cases at_ : u.handles[index]? with
  | none => rw [release_of_none at_]
  | some handle =>
      cases held : handle.held with
      | false => rw [release_of_not_held at_ held]
      | true =>
          obtain ⟨text, found⟩ := books.exists_issued at_
          rw [← books.gone_iff found, Bool.not_eq_false] at stands
          rw [release_of_held at_ held]
          exact if_pos stands

/-- An act that gives up no handle whose file is gone notes nothing. -/
theorem warnings_step (books : Books base u history)
    (standing : ∀ index, act.GivesUp index → ¬Ended history index) :
    (u.step act).1.warnings = u.warnings := by
  cases act with
  | create text astray =>
      obtain ⟨-, absent⟩ | ⟨-, directory, -, -, -, -, ⟨cause, -, failed, -⟩ | ⟨-, made, -⟩⟩ :=
        u.create_cases text astray
      · rw [ScratchUser.step, absent]
      · rw [ScratchUser.step, failed]
      · rw [ScratchUser.step, made]
  | remove index =>
      rw [step_of_givesUp (.inl rfl)]
      exact books.warnings_release_of_standing (standing index (.inl rfl))
  | drop index => exact books.warnings_release_of_standing (standing index (.inr rfl))
  | unlink index =>
      rw [ScratchUser.step, ScratchUser.unlink]
      split <;> rfl

/-- A directory in which every new file was ended is as it was at the start. -/
theorem resembles (books : Books base u history)
    (ended : ∀ index < (issued history).length, Ended history index) :
    u.directory.Resembles base := by
  obtain ⟨rest, files, -, standing⟩ := books.files
  have none_left : rest = [] := List.eq_nil_iff_forall_not_mem.mpr fun file mem => by
    obtain ⟨index, found, stands⟩ := (standing file).mp mem
    exact stands (ended index (List.getElem?_eq_some_iff.mp found).1)
  rw [none_left, List.append_nil] at files
  exact ⟨books.location, books.present, books.refuses, files⟩

/-- To drop handles one after the other is a run. -/
theorem run_drops (u : ScratchUser) (indices : List Nat) :
    u.run (indices.map .drop) = (indices.foldl ScratchUser.release u,
      indices.map fun index => (.drop index, .done)) := by
  induction indices generalizing u with
  | nil => rfl
  | cons index indices ih =>
      rw [List.map_cons, ScratchUser.run, ScratchUser.step]
      dsimp only
      rw [ih]
      rfl

/-- When all handles are dropped, the directory is as it was at the start. -/
theorem resembles_releaseAll (books : Books base u history) :
    u.releaseAll.directory.Resembles base := by
  have kept := books.run ((List.range u.handles.length).map .drop)
  rw [run_drops] at kept
  refine kept.resembles fun index bound => ?_
  have none_new : issued ((List.range u.handles.length).map fun i => (Act.drop i, .done)) = [] := by
    rw [issued, List.filterMap_map, List.filterMap_eq_nil_iff]
    exact fun i _ => rfl
  rw [issued_append, none_new, List.append_nil] at bound
  have mem := List.mem_range.mpr (books.length_handles ▸ bound)
  exact since_append_of_mem (List.mem_map_of_mem mem) (.inl (.inr rfl)) bound

/-- The listing holds the files of the start, and the new ones that nothing has ended. -/
theorem standing (books : Books base u history) (name : Nat → Text) :
    ∃ rest, u.directory.listing name = base.listing name ++ rest ∧
      rest.Sublist (inputs name history) ∧ ∀ file, file ∈ rest ↔
        ∃ index, (inputs name history)[index]? = some file ∧ ¬Ended history index := by
  obtain ⟨rest, files, order, standing⟩ := books.files
  refine ⟨rest.map (named name), ?_, order.map _, fun file => ?_⟩
  · rw [Scratch.listing, files, List.map_append]
    rfl
  · simp only [List.mem_map, standing, inputs, List.getElem?_map, Option.map_eq_some_iff]
    constructor
    · rintro ⟨file, ⟨index, found, stands⟩, rfl⟩
      exact ⟨index, ⟨file, found, rfl⟩, stands⟩
    · rintro ⟨index, ⟨file, found, rfl⟩, stands⟩
      exact ⟨file, ⟨index, found, stands⟩, rfl⟩

/-- When no path is given out twice, no new file has the path of another or of one that was there
before. -/
theorem distinct (books : Books base u history) (unique : Injective name) :
    ((inputs name history).map Prod.fst).Nodup ∧
      ∀ file ∈ base.listing name, ∀ file' ∈ inputs name history, file.1 ≠ file'.1 := by
  constructor
  · have paths : (inputs name history).map Prod.fst = ((issued history).map Prod.fst).map name := by
      rw [inputs, List.map_map, List.map_map]
      rfl
    rw [paths]
    exact books.nodup.map unique
  · simp only [Scratch.listing, inputs, List.forall_mem_map]
    intro file mem file' mem'
    obtain ⟨index, found⟩ := List.mem_iff_getElem?.mp mem'
    exact unique.ne (books.ne_of_mem found mem)

end Books

/-- **The books are right after every run.** Whatever was done to the files of a directory, in any
order and with repetitions, and whatever their paths, none of which is given out twice: the files in
the directory are those of the start and those that were created and not ended, a new file meets no
other one, the end of a file changes no other file, and without handles nothing is left. -/
theorem bookkeeping (name : Nat → Text) (unique : Injective name) (base : Scratch)
    (acts : List Act) :
    Bookkeeping name base ((fresh base).run acts).1 ((fresh base).run acts).2 := by
  have books := (Books.fresh base).run acts
  rw [List.nil_append] at books
  generalize (fresh base).run acts = result at books
  obtain ⟨u, history⟩ := result
  dsimp only at books ⊢
  exact {
    created := fun text astray number created => listing_create unique created
    accepted := fun there text => books.accepted there text
    failed := fun there text cause full => books.failed there full
    refused := fun text astray absent => by
      rw [← books.present] at absent
      obtain ⟨-, refused⟩ | ⟨⟨here, there⟩, -⟩ := u.create_cases text astray
      · exact refused
      · simp [here, there] at absent
    standing := books.standing name
    distinct := books.distinct unique
    ended := fun act index ends => by
      obtain ⟨done, directory⟩ := books.step_of_ends ends
      exact ⟨done, directory ▸ books.listing_unlink unique index⟩
    late := fun act index ends ended =>
      (books.step_of_ends ends).2.trans (books.directory_unlink_of_ended ended)
    noted := fun act index givesUp ended held => by
      rw [step_of_givesUp givesUp]
      exact books.warnings_release_of_ended ended held
    quiet := fun act standing => books.warnings_step standing
    again := fun act index givesUp givenUp => by
      rw [step_of_givesUp givesUp, books.release_of_givenUp givenUp]
    restored := books.resembles
    dropped := books.resembles_releaseAll }

/-- A directory with one file in it. -/
def workshop : Scratch where
  location := "/tmp".toList
  files := [(3, "old".toList)]
  next := 4
  lt_next := by simp

/-- Of two files the first is deleted from outside before its handle removes it and is dropped. The
second one stays, and so does the file of the start. -/
theorem bookkeeping_of_late_removal :
    Injective workshop.path ∧
      let after := (fresh workshop).run [.create "a".toList false, .create "b".toList false,
        .unlink 0, .create "c".toList true, .remove 0, .drop 0]
      Bookkeeping workshop.path workshop after.1 after.2 ∧
        after.1.directory.listing workshop.path =
          [("/tmp/perl-syntax-3.pl".toList, "old".toList),
            ("/tmp/perl-syntax-5.pl".toList, "b".toList)] ∧
        after.1.warnings.length = 1 :=
  ⟨workshop.path_injective, bookkeeping _ workshop.path_injective _ _, by decide +kernel,
    by decide +kernel⟩

end ScratchUser

end SyntaxWatch
