import Mathlib.Data.List.Nodup
import SyntaxWatch.Proofs.Process.Acts

/-!
# The books of a scratch directory

A handle that is given up may find its file gone, and a file whose handle is not given up stays. So
what there is in a directory is said by the history of what was done, and not by the handles: a file
is there as long as nothing has ended it since it was created.

The books tie the handles to the history. Handles are on the files that were created, in the same
order and each under a number of its own. So what a handle deletes is its own file or, when this was
ended before, nothing: it never is a file that was there at the start or one that was created later.

## Main definitions

* `ScratchUser.Books`: a history accounts for the handles and for the files.

## Main results

* `ScratchUser.Books.gone_iff`: a file is gone exactly when it was ended.
* `ScratchUser.Books.step`, `ScratchUser.Books.run`: every act keeps the books, and so does every
  run.
-/

namespace SyntaxWatch

namespace ScratchUser

variable {u : ScratchUser} {index : Nat} {handle : ScratchHandle}

/-- The user of a directory, as long as it has no handles. -/
def fresh (base : Scratch) : ScratchUser := { directory := base }

/-- A history accounts for the handles that were given out and for the files in the directory. -/
structure Books (base : Scratch) (u : ScratchUser) (history : List (Act × Answer)) : Prop where
  location : u.directory.location = base.location
  present : u.directory.present = base.present
  refuses : u.directory.refuses = base.refuses
  later : base.next ≤ u.directory.next
  /-- The handles are on the files that were created, in their order. -/
  numbers : u.handles.map (·.number) = (issued history).map Prod.fst
  nodup : ((issued history).map Prod.fst).Nodup
  /-- No file that was created has the number of one that was there before, or of one to come. -/
  bounds : ∀ file ∈ issued history, base.next ≤ file.1 ∧ file.1 < u.directory.next
  held : ∀ index handle, u.handles[index]? = some handle →
    (handle.held = false ↔ GivenUp history index)
  files : ∃ rest, u.directory.files = base.files ++ rest ∧ rest.Sublist (issued history) ∧
    ∀ file, file ∈ rest ↔ ∃ index, (issued history)[index]? = some file ∧ ¬Ended history index

namespace Books

variable {base : Scratch} {history : List (Act × Answer)} {file file' : Nat × Text} {i : Nat}

/-- Before the first act there is nothing to account for. -/
theorem fresh (base : Scratch) : Books base (fresh base) [] where
  location := rfl
  present := rfl
  refuses := rfl
  later := Nat.le_refl _
  numbers := rfl
  nodup := List.nodup_nil
  bounds := List.forall_mem_nil _
  held index handle none := by simp [ScratchUser.fresh] at none
  files := ⟨[], (List.append_nil _).symm, List.Sublist.refl _, by simp [issued]⟩

/-- There is one handle for each file that was created. -/
theorem length_handles (books : Books base u history) :
    u.handles.length = (issued history).length := by
  simpa using congrArg List.length books.numbers

/-- Every handle is on a file that was created. -/
theorem exists_issued (books : Books base u history) (at_ : u.handles[index]? = some handle) :
    ∃ text, (issued history)[index]? = some (handle.number, text) := by
  have same := congrArg (·[index]?) books.numbers
  simp only [List.getElem?_map, at_, Option.map_some] at same
  obtain ⟨⟨number, text⟩, found, rfl⟩ := Option.map_eq_some_iff.mp same.symm
  exact ⟨text, found⟩

/-- No two of the files that were created have one number. -/
theorem index_eq (books : Books base u history) (found : (issued history)[index]? = some file)
    (found' : (issued history)[i]? = some file') (same : file.1 = file'.1) : index = i := by
  refine (List.getElem?_inj ?_ books.nodup).mp ?_
  · rw [List.length_map]
    exact (List.getElem?_eq_some_iff.mp found).1
  · rw [List.getElem?_map, List.getElem?_map, found, found', Option.map_some, Option.map_some, same]

/-- A number that was given out was given to no file that was there before. -/
theorem ne_of_mem (books : Books base u history) (found : (issued history)[index]? = some file)
    (mem : file' ∈ base.files) : file'.1 ≠ file.1 := by
  have bound := (books.bounds file (List.mem_of_getElem? found)).1
  have old := base.lt_next file' mem
  omega

/-- A file that was created is gone exactly when it was ended. -/
theorem gone_iff (books : Books base u history) (found : (issued history)[index]? = some file) :
    u.directory.holds file.1 = false ↔ Ended history index := by
  obtain ⟨rest, files, -, standing⟩ := books.files
  rw [Scratch.holds_eq_false_iff, files, List.forall_mem_append]
  constructor
  · rintro ⟨-, absent⟩
    by_contra stands
    exact absent file ((standing file).mpr ⟨index, found, stands⟩) rfl
  · intro ended
    refine ⟨fun file' mem => books.ne_of_mem found mem, fun file' mem same => ?_⟩
    obtain ⟨i, found', stands⟩ := (standing file').mp mem
    obtain rfl := books.index_eq found found' same.symm
    exact stands ended

/-- Giving up a handle leaves the files that a deletion from outside leaves. For a handle that was
given up before this is because its file is gone. -/
theorem directory_release (books : Books base u history) (index : Nat) :
    (u.release index).directory = (u.unlink index).directory := by
  cases at_ : u.handles[index]? with
  | none => rw [release_of_none at_, unlink_of_none at_]
  | some handle =>
      rw [directory_unlink at_]
      cases held : handle.held with
      | true => rw [release_of_held at_ held]
      | false =>
          obtain ⟨text, found⟩ := books.exists_issued at_
          have ended := ((books.held index handle at_).mp held).ended
          rw [release_of_not_held at_ held,
            Scratch.delete_eq_self ((books.gone_iff found).mpr ended)]

/-- When the file of a handle is ended, the others stay. -/
theorem files_unlink (books : Books base u history) {act : Act} (ends : act.Ends index) :
    ∃ rest, (u.unlink index).directory.files = base.files ++ rest ∧ rest.Sublist (issued history) ∧
      ∀ file, file ∈ rest ↔
        ∃ i, (issued history)[i]? = some file ∧ ¬Ended (history ++ [(act, .done)]) i := by
  obtain ⟨rest, files, order, standing⟩ := books.files
  simp only [ended_concat_iff ends]
  cases at_ : u.handles[index]? with
  | none =>
      have past := List.getElem?_eq_none_iff.mp at_
      rw [books.length_handles, ← Nat.not_lt] at past
      simp only [unlink_of_none at_, past, and_false, or_false]
      exact books.files
  | some handle =>
      obtain ⟨text, found⟩ := books.exists_issued at_
      refine ⟨rest.filter (·.1 != handle.number), ?_, List.filter_sublist.trans order,
        fun file => ?_⟩
      · rw [directory_unlink at_, Scratch.files_delete, files, List.filter_append,
          List.filter_eq_self.mpr]
        simpa using fun number text mem => books.ne_of_mem found mem
      · -- The number tells this file from all others, since no number was given out twice.
        rw [List.mem_filter, standing]
        constructor
        · rintro ⟨⟨i, found', stands⟩, other⟩
          refine ⟨i, found', not_or.mpr ⟨stands, ?_⟩⟩
          rintro ⟨rfl, -⟩
          rw [found, Option.some.injEq] at found'
          simp [← found'] at other
        · rintro ⟨i, found', stands⟩
          obtain ⟨stands, other⟩ := not_or.mp stands
          refine ⟨⟨i, found', stands⟩, bne_iff_ne.mpr fun same => ?_⟩
          exact other ⟨books.index_eq found' found same, (List.getElem?_eq_some_iff.mp found).1⟩

/-- The books after the file of a handle was ended, in whatever way. -/
theorem ended (books : Books base u history) {act : Act} (ends : act.Ends index)
    {after : ScratchUser} (directory : after.directory = (u.unlink index).directory)
    (numbers : after.handles.map (·.number) = u.handles.map (·.number))
    (held : ∀ i handle, after.handles[i]? = some handle →
      (handle.held = false ↔ GivenUp (history ++ [(act, .done)]) i)) :
    Books base after (history ++ [(act, .done)]) := by
  obtain ⟨location, present, refuses, next⟩ := u.unlink_frame index
  rw [← directory] at location present refuses next
  exact {
    location := location.trans books.location
    present := present.trans books.present
    refuses := refuses.trans books.refuses
    later := next ▸ books.later
    numbers := by rw [issued_concat_done, numbers, books.numbers]
    nodup := by rw [issued_concat_done]; exact books.nodup
    bounds := by rw [issued_concat_done, next]; exact books.bounds
    held
    files := by rw [issued_concat_done, directory]; exact books.files_unlink ends }

/-- The books after a deletion from outside: a file is ended and its handle still held. -/
theorem unlink (books : Books base u history) (index : Nat) :
    Books base (u.unlink index) (history ++ [(.unlink index, .done)]) := by
  have handles := u.handles_unlink index
  refine books.ended (.inr rfl) rfl (by rw [handles]) fun i handle at_ => ?_
  rw [handles] at at_
  rw [books.held i handle at_, GivenUp, GivenUp, since_concat_of_not]
  simp [Act.GivesUp]

/-- The books after a handle was given up, whether its file was still there or not. -/
theorem release (books : Books base u history) {act : Act} (givesUp : act.GivesUp index) :
    Books base (u.release index) (history ++ [(act, .done)]) := by
  refine books.ended (.inl givesUp) (books.directory_release index) (u.numbers_release index) ?_
  intro i handle at_
  rw [getElem?_release] at at_
  obtain ⟨old, found, rfl⟩ := Option.map_eq_some_iff.mp at_
  have bound := (List.getElem?_eq_some_iff.mp found).1
  rw [books.length_handles] at bound
  rw [givenUp_concat_iff givesUp]
  split
  · next same =>
      subst same
      exact iff_of_true rfl (.inr ⟨rfl, bound⟩)
  · next other =>
      rw [books.held i old found]
      exact (or_iff_left fun both => other both.1).symm

/-- The books after a creation that failed: there is no handle more, and no file. A number may have
been used up. -/
theorem refused (books : Books base u history) {directory : Scratch}
    (location : directory.location = u.directory.location)
    (present : directory.present = u.directory.present)
    (refuses : directory.refuses = u.directory.refuses)
    (later : u.directory.next ≤ directory.next) (files : directory.files = u.directory.files)
    (text : Text) (astray : Bool) (cause : SystemFault) :
    Books base { u with directory } (history ++ [(.create text astray, .refused cause)]) where
  location := location.trans books.location
  present := present.trans books.present
  refuses := refuses.trans books.refuses
  later := Nat.le_trans books.later later
  numbers := by rw [issued_concat_refused, books.numbers]
  nodup := by rw [issued_concat_refused]; exact books.nodup
  bounds := by
    rw [issued_concat_refused]
    intro file mem
    obtain ⟨low, high⟩ := books.bounds file mem
    exact ⟨low, Nat.lt_of_lt_of_le high later⟩
  held := by simpa only [givenUp_concat_create] using books.held
  files := by simpa only [files, issued_concat_refused, ended_concat_create] using books.files

/-- The books after a creation that succeeded: the new handle is on the new file, to which nothing
was done yet. -/
theorem created (books : Books base u history) {directory : Scratch}
    (location : directory.location = u.directory.location)
    (present : directory.present = u.directory.present)
    (refuses : directory.refuses = u.directory.refuses)
    (next : directory.next = u.directory.next + 1) {text : Text}
    (files : directory.files = u.directory.files ++ [(u.directory.next, text)]) (astray : Bool) :
    Books base { u with directory, handles := u.handles ++ [{ number := u.directory.next }] }
      (history ++ [(.create text astray, .created u.directory.next)]) where
  location := location.trans books.location
  present := present.trans books.present
  refuses := refuses.trans books.refuses
  later := Nat.le_trans books.later (next ▸ Nat.le_succ _)
  numbers := by simp [issued_concat_created, books.numbers]
  nodup := by
    rw [issued_concat_created, List.map_append]
    refine List.nodup_append.mpr ⟨books.nodup, List.nodup_singleton _, ?_⟩
    simpa using fun number text mem => Nat.ne_of_lt (books.bounds (number, text) mem).2
  bounds := by
    rw [issued_concat_created, List.forall_mem_append, List.forall_mem_singleton, next]
    refine ⟨fun file mem => ?_, books.later, Nat.lt_succ_self _⟩
    obtain ⟨low, high⟩ := books.bounds file mem
    exact ⟨low, Nat.lt_succ_of_lt high⟩
  held := by
    intro index handle at_
    rw [givenUp_concat_create]
    rcases getElem?_concat_iff.mp at_ with at_ | ⟨rfl, rfl⟩
    · exact books.held index handle at_
    · rw [books.length_handles]
      exact iff_of_false (by simp) fun givenUp => Nat.lt_irrefl _ givenUp.lt
  files := by
    obtain ⟨rest, before, order, standing⟩ := books.files
    simp only [issued_concat_created, ended_concat_create]
    refine ⟨rest ++ [(u.directory.next, text)], by rw [files, before, List.append_assoc],
      order.append_right _, fun file => ?_⟩
    rw [List.mem_append, standing, List.mem_singleton]
    simp only [getElem?_concat_iff, or_and_right, exists_or]
    -- Nothing was done yet to the file that is created last.
    refine or_congr_right ⟨fun same => ?_, fun ⟨_, ⟨_, same⟩, _⟩ => same⟩
    exact ⟨_, ⟨rfl, same⟩, fun ended => Nat.lt_irrefl _ ended.lt⟩

/-- A creation keeps the books, whether it succeeds or not. -/
theorem create (books : Books base u history) (text : Text) (astray : Bool) :
    Books base (u.create text astray).1
      (history ++ [(.create text astray, (u.create text astray).2)]) := by
  obtain ⟨-, absent⟩ |
      ⟨⟨-, there⟩, directory, location, present, refuses, next, ⟨cause, -, failed, files⟩ |
        ⟨-, made, files⟩⟩ := u.create_cases text astray
  · rw [absent]
    exact books.refused rfl rfl rfl (Nat.le_refl _) rfl text astray .notFound
  · rw [failed]
    exact books.refused location (present.trans there.symm) refuses (next ▸ Nat.le_succ _) files
      text astray cause
  · rw [made]
    exact books.created location (present.trans there.symm) refuses next files astray

/-- Every act keeps the books. -/
theorem step (books : Books base u history) (act : Act) :
    Books base (u.step act).1 (history ++ [(act, (u.step act).2)]) := by
  cases act with
  | create text astray => exact books.create text astray
  | remove index =>
      rw [step_of_givesUp (.inl rfl)]
      exact books.release (.inl rfl)
  | drop index => exact books.release (.inr rfl)
  | unlink index => exact books.unlink index

/-- Every run keeps the books. -/
theorem run (books : Books base u history) (acts : List Act) :
    Books base (u.run acts).1 (history ++ (u.run acts).2) := by
  induction acts generalizing u history with
  | nil =>
      rw [ScratchUser.run, List.append_nil]
      exact books
  | cons act acts ih =>
      have kept := ih (books.step act)
      rwa [List.append_assoc] at kept

end Books

end ScratchUser

end SyntaxWatch
