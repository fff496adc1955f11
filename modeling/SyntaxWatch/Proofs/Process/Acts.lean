import Mathlib.Data.List.Basic
import SyntaxWatch.Process.Scratch

/-!
# What is done with scratch files

Scratch files are created and deleted through handles, and they may be deleted from outside, without
their handles knowing. This module says what one act can do with a handle and its file, and what a
history of acts says about a file without mentioning the handles: a file was created, and something
was done to it since (`Since`). Both are read from the end of the history, one act at a time.

## Main definitions

* `ScratchUser.issued`: the files that were created in a history.
* `ScratchUser.GivenUp`, `ScratchUser.Ended`: what was done to a file since it was created.

## Main results

* `ScratchUser.create_cases`: what a creation can do.
* `ScratchUser.release_of_held`, `ScratchUser.release_release`: what giving up a handle does, which
  happens once.
-/

namespace SyntaxWatch

namespace ScratchUser

/-! ### What a history says -/

/-- An act gives up a handle. -/
def Act.GivesUp (act : Act) (index : Nat) : Prop :=
  act = .remove index ∨ act = .drop index

/-- An act ends the file of a handle, if it is still there. -/
def Act.Ends (act : Act) (index : Nat) : Prop :=
  act.GivesUp index ∨ act = .unlink index

/-- The files that were created, in order. -/
def issued (history : List (Act × Answer)) : List (Nat × Text) :=
  history.filterMap fun
    | (.create text _, .created number) => some (number, text)
    | _ => none

/-- Something was done to a file since it was created. -/
def Since (does : Act → Nat → Prop) (history : List (Act × Answer)) (index : Nat) : Prop :=
  ∃ before done later, history = before ++ done :: later ∧ does done.1 index ∧
    index < (issued before).length

/-- A handle was given up. -/
def GivenUp (history : List (Act × Answer)) (index : Nat) : Prop :=
  Since Act.GivesUp history index

/-- The file of a handle was removed by its handle, dropped with it, or deleted from outside. -/
def Ended (history : List (Act × Answer)) (index : Nat) : Prop :=
  Since Act.Ends history index

section History

/-- A list with one more element has the elements it had, and the last one at its end. -/
theorem getElem?_concat_iff {α : Type} {l : List α} {last a : α} {i : Nat} :
    (l ++ [last])[i]? = some a ↔ l[i]? = some a ∨ i = l.length ∧ a = last := by
  grind

variable {does : Act → Nat → Prop} {history later : List (Act × Answer)} {done : Act × Answer}
  {act : Act} {index i : Nat}

/-- The files of two histories in a row are those of the first and those of the second. -/
theorem issued_append (history later : List (Act × Answer)) :
    issued (history ++ later) = issued history ++ issued later :=
  List.filterMap_append

/-- An act that is only done creates no file. -/
theorem issued_concat_done (history : List (Act × Answer)) (act : Act) :
    issued (history ++ [(act, .done)]) = issued history := by
  rw [issued_append]
  cases act <;> exact List.append_nil _

/-- One more act adds what it does to a file that was created before it. -/
theorem since_concat_iff :
    Since does (history ++ [done]) index ↔
      Since does history index ∨ does done.1 index ∧ index < (issued history).length := by
  constructor
  · rintro ⟨before, first, rest, split, act, bound⟩
    obtain rfl | ⟨rest, last, rfl⟩ := List.eq_nil_or_concat' rest
    · obtain ⟨rfl, same⟩ := List.append_inj' split rfl
      rw [List.singleton_inj.mp same]
      exact .inr ⟨act, bound⟩
    · rw [← List.cons_append, ← List.append_assoc] at split
      obtain ⟨rfl, -⟩ := List.append_inj' split rfl
      exact .inl ⟨before, first, rest, rfl, act, bound⟩
  · rintro (⟨before, first, rest, rfl, act, bound⟩ | ⟨act, bound⟩)
    · exact ⟨before, first, rest ++ [done], by simp, act, bound⟩
    · exact ⟨history, done, [], rfl, act, bound⟩

/-- An act of another kind adds nothing. -/
theorem since_concat_of_not (other : ¬does done.1 index) :
    Since does (history ++ [done]) index ↔ Since does history index := by
  simp [since_concat_iff, other]

/-- What an act about one handle only adds to a history. -/
theorem since_concat_of_only (act : does done.1 index) (only : ∀ i, does done.1 i → i = index) :
    Since does (history ++ [done]) i ↔
      Since does history i ∨ i = index ∧ index < (issued history).length := by
  rw [since_concat_iff]
  refine or_congr_right ⟨fun ⟨act', bound⟩ => ?_, ?_⟩
  · obtain rfl := only i act'
    exact ⟨rfl, bound⟩
  · rintro ⟨rfl, bound⟩
    exact ⟨act, bound⟩

/-- What any of the later acts does to a file, is done to it in the whole history. -/
theorem since_append_of_mem (mem : done ∈ later) (act : does done.1 index)
    (bound : index < (issued history).length) : Since does (history ++ later) index := by
  obtain ⟨front, rest, rfl⟩ := List.append_of_mem mem
  refine ⟨history ++ front, done, rest, by simp, act, ?_⟩
  rw [issued_append, List.length_append]
  exact Nat.lt_add_right _ bound

/-- Something was done only to a handle that was given out. -/
theorem Since.lt (since : Since does history index) : index < (issued history).length := by
  obtain ⟨before, done, later, rfl, -, bound⟩ := since
  rw [issued_append, List.length_append]
  exact Nat.lt_add_right _ bound

/-- To give up a handle is to end its file. -/
theorem GivenUp.ended (givenUp : GivenUp history index) : Ended history index := by
  obtain ⟨before, done, later, split, act, bound⟩ := givenUp
  exact ⟨before, done, later, split, .inl act, bound⟩

/-- An act is about one handle at most. -/
theorem Act.Ends.eq (ends : act.Ends index) (ends' : act.Ends i) : i = index := by
  rcases ends with (rfl | rfl) | rfl <;> simpa [Act.Ends, Act.GivesUp, eq_comm] using ends'

/-- A creation ends no file. -/
theorem Act.not_ends_create (text : Text) (astray : Bool) (index : Nat) :
    ¬(Act.create text astray).Ends index := by
  simp [Act.Ends, Act.GivesUp]

/-- A file that is created comes last. -/
theorem issued_concat_created (history : List (Act × Answer)) (text : Text) (astray : Bool)
    (number : Nat) :
    issued (history ++ [(.create text astray, .created number)]) =
      issued history ++ [(number, text)] :=
  issued_append _ _

/-- A creation that is refused adds no file. -/
theorem issued_concat_refused (history : List (Act × Answer)) (text : Text) (astray : Bool)
    (cause : SystemFault) :
    issued (history ++ [(.create text astray, .refused cause)]) = issued history := by
  rw [issued_append]
  exact List.append_nil _

/-- After a creation the same files are ended as before, however it came out. -/
theorem ended_concat_create (text : Text) (astray : Bool) (answer : Answer) :
    Ended (history ++ [(.create text astray, answer)]) index ↔ Ended history index :=
  since_concat_of_not (Act.not_ends_create text astray index)

/-- After a creation the same handles are given up as before, however it came out. -/
theorem givenUp_concat_create (text : Text) (astray : Bool) (answer : Answer) :
    GivenUp (history ++ [(.create text astray, answer)]) index ↔ GivenUp history index :=
  since_concat_of_not fun givesUp => Act.not_ends_create text astray index (.inl givesUp)

/-- An act that ends the file of a handle ends this file and no other. -/
theorem ended_concat_iff (ends : act.Ends index) :
    Ended (history ++ [(act, .done)]) i ↔
      Ended history i ∨ i = index ∧ index < (issued history).length :=
  since_concat_of_only ends fun _ => ends.eq

/-- An act that gives up a handle gives up this handle and no other. -/
theorem givenUp_concat_iff (givesUp : act.GivesUp index) :
    GivenUp (history ++ [(act, .done)]) i ↔
      GivenUp history i ∨ i = index ∧ index < (issued history).length :=
  since_concat_of_only givesUp fun _ givesUp' => Act.Ends.eq (.inl givesUp) (.inl givesUp')

end History

/-! ### What an act can do -/

variable {u : ScratchUser} {index : Nat} {handle : ScratchHandle}

/-- A deletion from outside is a deletion, if there is a handle. -/
theorem directory_unlink (at_ : u.handles[index]? = some handle) :
    (u.unlink index).directory = u.directory.delete handle.number := by
  rw [unlink, at_]

/-- Without a handle there is nothing to delete. -/
theorem unlink_of_none (none : u.handles[index]? = none) : u.unlink index = u := by
  rw [unlink, none]

/-- A deletion from outside is not known to the handles. -/
theorem handles_unlink (u : ScratchUser) (index : Nat) : (u.unlink index).handles = u.handles := by
  unfold unlink
  split <;> rfl

/-- A deletion from outside changes nothing but the files in the directory. -/
theorem unlink_frame (u : ScratchUser) (index : Nat) :
    (u.unlink index).directory.location = u.directory.location ∧
      (u.unlink index).directory.present = u.directory.present ∧
      (u.unlink index).directory.refuses = u.directory.refuses ∧
      (u.unlink index).directory.next = u.directory.next := by
  unfold unlink
  split <;> exact ⟨rfl, rfl, rfl, rfl⟩

/-- What a creation can come to. Nothing happens when there is no directory. Otherwise a number is
used up; the files stay as they were when the text does not go in, and when it does, there is one
file more, with a handle on it. -/
theorem create_cases (u : ScratchUser) (text : Text) (astray : Bool) :
    ((astray = true ∨ u.directory.present = false) ∧
      u.create text astray = (u, .refused .notFound)) ∨
    (astray = false ∧ u.directory.present = true) ∧ ∃ directory : Scratch,
      directory.location = u.directory.location ∧ directory.present = true ∧
      directory.refuses = u.directory.refuses ∧ directory.next = u.directory.next + 1 ∧
      ((∃ cause, u.directory.refuses u.directory.next text = some cause ∧
          u.create text astray = ({ u with directory }, .refused cause) ∧
          directory.files = u.directory.files) ∨
        u.directory.refuses u.directory.next text = none ∧
          u.create text astray =
            ({ u with directory, handles := u.handles ++ [{ number := u.directory.next }] },
              .created u.directory.next) ∧
          directory.files = u.directory.files ++ [(u.directory.next, text)]) := by
  cases astray with
  | true => exact .inl ⟨.inl rfl, by simp [create]⟩
  | false =>
      obtain ⟨absent, nothing⟩ | ⟨directory, location, present, refuses, next, there, made⟩ :=
        u.directory.write_cases text
      · exact .inl ⟨.inr absent, by simp [create, nothing]⟩
      · refine .inr ⟨⟨rfl, there⟩, directory, location, present, refuses, next, ?_⟩
        obtain ⟨cause, refused, failed, files⟩ | ⟨accepted, written, files, -⟩ := made
        · exact .inl ⟨cause, refused, by simp [create, failed], files⟩
        · exact .inr ⟨accepted, by simp [create, written], files⟩

/-- A handle that is held deletes its file, and notes it when there is none. -/
theorem release_of_held (at_ : u.handles[index]? = some handle) (held : handle.held = true) :
    u.release index = {
      directory := u.directory.delete handle.number
      handles := u.handles.set index { handle with held := false }
      warnings := if u.directory.holds handle.number then u.warnings
        else u.warnings ++ [u.directory.warning handle.number .notFound] } := by
  rw [release, at_]
  dsimp only
  rw [if_pos held, Scratch.delete?]
  cases found : u.directory.holds handle.number
  · simp [Scratch.delete_eq_self found]
  · simp

/-- A handle that was given up does nothing. -/
theorem release_of_not_held (at_ : u.handles[index]? = some handle) (held : handle.held = false) :
    u.release index = u := by
  rw [release, at_]
  simp [held]

/-- Without a handle there is nothing to give up. -/
theorem release_of_none (none : u.handles[index]? = none) : u.release index = u := by
  rw [release, none]

/-- After it was given up, a handle is held no longer. -/
theorem getElem?_release (u : ScratchUser) (index i : Nat) :
    (u.release index).handles[i]? = (u.handles[i]?).map fun handle =>
      if i = index then { handle with held := false } else handle := by
  cases at_ : u.handles[index]? with
  | none =>
      rw [release_of_none at_]
      by_cases same : i = index
      · simp [same, at_]
      · simp [same]
  | some handle =>
      cases held : handle.held with
      | false =>
          rw [release_of_not_held at_ held]
          by_cases same : i = index
          · cases handle
            simp_all
          · simp [same]
      | true =>
          rw [release_of_held at_ held, List.getElem?_set]
          by_cases same : i = index
          · obtain ⟨bound, here⟩ := List.getElem?_eq_some_iff.mp at_
            simp [same, bound, here]
          · simp [same, Ne.symm same]

/-- Giving up a handle leaves all handles on their files. -/
theorem numbers_release (u : ScratchUser) (index : Nat) :
    (u.release index).handles.map (·.number) = u.handles.map (·.number) := by
  refine List.ext_getElem? fun i => ?_
  rw [List.getElem?_map, List.getElem?_map, getElem?_release, Option.map_map]
  refine congrArg (Option.map · _) (funext fun handle => ?_)
  dsimp only [Function.comp_apply]
  split <;> rfl

/-- A handle is given up once. -/
theorem release_release (u : ScratchUser) (index : Nat) :
    (u.release index).release index = u.release index := by
  cases at_ : u.handles[index]? with
  | none => rw [release_of_none at_, release_of_none at_]
  | some handle =>
      cases held : handle.held with
      | false => rw [release_of_not_held at_ held, release_of_not_held at_ held]
      | true =>
          have bound := (List.getElem?_eq_some_iff.mp at_).1
          have after : (u.release index).handles[index]? = some { handle with held := false } := by
            rw [release_of_held at_ held]
            exact List.getElem?_set_self bound
          exact release_of_not_held after rfl

/-- Removing a file by its handle and dropping the handle come to the same. The removal drops the
handle at its end, when it is not held any longer. -/
theorem step_of_givesUp {act : Act} (givesUp : act.GivesUp index) :
    u.step act = (u.release index, .done) := by
  rcases givesUp with rfl | rfl
  · rw [step, remove, release_release]
  · rfl

end ScratchUser

end SyntaxWatch
