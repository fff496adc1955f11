import SyntaxWatch.Files.Fault
import SyntaxWatch.Text.Decimal
import SyntaxWatch.Text.Visible

/-!
# Scratch files

Every run of the checker gets its input in a file of its own, which is deleted when the run is
over. The files are numbered, and no number is given out twice: neither to a file that exists nor
to one that is gone, so a late deletion never hits a newer file.

A file is made before its text is written to it, and the text may not go in, because the device is
full or fails. The file is deleted again then, and all that remains of it is its number, which is
used up. A file that cannot even be made, in a directory that is there, comes to the same.

## Main definitions

* `Scratch`: the directory of the scratch files.
* `Scratch.create?`, `Scratch.delete`: its two operations.
* `Scratch.write`: the making of a file with a text, or the failure of it.
* `ScratchUser`: the directory with the handles that were given out.
* `ScratchUser.Act`, `ScratchUser.step`, `ScratchUser.run`: what is done with the files.
-/

namespace SyntaxWatch

/-- The directory of the scratch files: its path, whether it exists at all, what keeps a text from
being written to the file with a number, the numbers and contents of the files in it, and the next
number to give out. No number comes twice, so each file has a fate of its own. -/
structure Scratch where
  location : Text
  present : Bool := true
  refuses : Nat → Text → Option SystemFault := fun _ _ => none
  files : List (Nat × Text) := []
  next : Nat := 0
  lt_next : ∀ file ∈ files, file.1 < next := by simp

namespace Scratch

/-- The path of the file with a number. -/
def path (d : Scratch) (number : Nat) : Text :=
  d.location ++ "/perl-syntax-".toList ++ Decimal.print number ++ ".pl".toList

/-- The content of the file with a number. -/
def content? (d : Scratch) (number : Nat) : Option Text :=
  (d.files.find? (·.1 == number)).map (·.2)

/-- Whether there is a file with a number. -/
def holds (d : Scratch) (number : Nat) : Bool :=
  d.files.any (·.1 == number)

/-- Makes a new file with a text in it and gives out its number. There is no file in a directory
that does not exist. -/
def create? (d : Scratch) (text : Text) : Option (Nat × Scratch) :=
  if d.present then
    some (d.next, { d with
      files := d.files ++ [(d.next, text)]
      next := d.next + 1
      lt_next := by
        intro file hfile
        rcases List.mem_append.1 hfile with old | new
        · exact Nat.lt_succ_of_lt (d.lt_next file old)
        · rw [List.mem_singleton.1 new]
          exact Nat.lt_succ_self _ })
  else
    none

/-- Deletes the file with a number, if there is one. -/
def delete (d : Scratch) (number : Nat) : Scratch :=
  { d with
    files := d.files.filter (·.1 != number)
    lt_next := fun file hfile => d.lt_next file (List.mem_filter.1 hfile).1 }

/-- Writes a text to a new file and gives out its number. When the text does not go in, the file is
deleted again; how much of the text was in it by then does not matter. -/
def write (d : Scratch) (text : Text) : Scratch × Except SystemFault Nat :=
  match d.create? text with
  | none => (d, .error .notFound)
  | some (number, made) =>
    match d.refuses number text with
    | some cause => (made.delete number, .error cause)
    | none => (made, .ok number)

/-- Deletes the file with a number, which has to be there. -/
def delete? (d : Scratch) (number : Nat) : Except SystemFault Scratch :=
  if d.holds number then .ok (d.delete number) else .error .notFound

/-- What is noted about a file that could not be deleted. -/
def warning (d : Scratch) (number : Nat) (cause : SystemFault) : Text :=
  "Failed to remove transient input ".toList ++ d.path number ++ ": ".toList ++ cause.message ++
    " at path ".toList ++ Text.visible (d.path number)

/-- The number of files. -/
def count (d : Scratch) : Nat :=
  d.files.length

/-! ### Creating and deleting -/

/-- A number is free when no file has it. -/
theorem holds_eq_false_iff (d : Scratch) (number : Nat) :
    d.holds number = false ↔ ∀ file ∈ d.files, file.1 ≠ number := by
  simp [holds]

/-- A file is created in a directory that exists, next to the files in it, under the next number. -/
theorem of_create? {d d' : Scratch} {text : Text} {number : Nat}
    (h : d.create? text = some (number, d')) :
    number = d.next ∧ d'.location = d.location ∧ d'.present = d.present ∧
      d'.files = d.files ++ [(number, text)] ∧ d'.next = number + 1 := by
  unfold create? at h
  split at h
  · cases h
    exact ⟨rfl, rfl, rfl, rfl, rfl⟩
  · cases h

/-- A directory takes or refuses texts as it did before a file was created in it. -/
theorem refuses_of_create? {d d' : Scratch} {text : Text} {number : Nat}
    (h : d.create? text = some (number, d')) : d'.refuses = d.refuses := by
  unfold create? at h
  split at h
  · cases h
    rfl
  · cases h

/-- Only a directory that exists has a new file. -/
theorem present_of_create? {d d' : Scratch} {text : Text} {number : Nat}
    (h : d.create? text = some (number, d')) : d.present = true := by
  cases there : d.present with
  | true => rfl
  | false => simp [create?, there] at h

/-- Nothing but the lack of the directory keeps a file from being made. -/
theorem create?_eq_none_iff {d : Scratch} {text : Text} :
    d.create? text = none ↔ d.present = false := by
  simp [create?]

/-- A new file has a number that no file had. -/
theorem not_holds_of_create? {d d' : Scratch} {text : Text} {number : Nat}
    (h : d.create? text = some (number, d')) : d.holds number = false := by
  rw [(of_create? h).1, holds_eq_false_iff]
  exact fun file hfile => Nat.ne_of_lt (d.lt_next file hfile)

@[simp] theorem files_delete (d : Scratch) (number : Nat) :
    (d.delete number).files = d.files.filter (·.1 != number) := rfl

@[simp] theorem location_delete (d : Scratch) (number : Nat) :
    (d.delete number).location = d.location := rfl

@[simp] theorem present_delete (d : Scratch) (number : Nat) :
    (d.delete number).present = d.present := rfl

@[simp] theorem refuses_delete (d : Scratch) (number : Nat) :
    (d.delete number).refuses = d.refuses := rfl

@[simp] theorem next_delete (d : Scratch) (number : Nat) : (d.delete number).next = d.next := rfl

/-- Nothing is deleted where there is no file with the number. -/
theorem delete_eq_self {d : Scratch} {number : Nat} (h : d.holds number = false) :
    d.delete number = d := by
  have same : d.files.filter (·.1 != number) = d.files := by
    simpa using (d.holds_eq_false_iff number).1 h
  cases d
  simp only [delete, mk.injEq, and_true, true_and]
  exact same

/-- Deleting a new file leaves the files that were there before. -/
theorem files_delete_of_create? {d d' : Scratch} {text : Text} {number : Nat}
    (h : d.create? text = some (number, d')) : (d'.delete number).files = d.files := by
  have old := congrArg files (delete_eq_self (not_holds_of_create? h))
  obtain ⟨-, -, -, files, -⟩ := of_create? h
  rw [files_delete] at old
  simp [files, old]

/-- What writing a text to a new file comes to. Without a directory nothing happens; a text that
does not go in leaves the files as they were, and uses up a number; and otherwise there is one more
file, under the next number. -/
theorem write_cases (d : Scratch) (text : Text) :
    (d.present = false ∧ d.write text = (d, .error .notFound)) ∨
      ∃ d', d'.location = d.location ∧ d'.present = true ∧ d'.refuses = d.refuses ∧
        d'.next = d.next + 1 ∧ d.present = true ∧
        ((∃ cause, d.refuses d.next text = some cause ∧ d.write text = (d', .error cause) ∧
            d'.files = d.files) ∨
          d.refuses d.next text = none ∧ d.write text = (d', .ok d.next) ∧
            d'.files = d.files ++ [(d.next, text)] ∧ (d'.delete d.next).files = d.files) := by
  unfold write
  cases made : d.create? text with
  | none => exact .inl ⟨create?_eq_none_iff.mp made, rfl⟩
  | some result =>
    obtain ⟨number, d'⟩ := result
    have there := present_of_create? made
    have old := files_delete_of_create? made
    have refuses := refuses_of_create? made
    obtain ⟨rfl, location, present, files, next⟩ := of_create? made
    right
    cases refused : d.refuses d.next text with
    | some cause =>
      exact ⟨d'.delete d.next, location, present.trans there, refuses, next, there,
        .inl ⟨cause, rfl, by simp only [refused], old⟩⟩
    | none =>
      exact ⟨d', location, present.trans there, refuses, next, there,
        .inr ⟨rfl, by simp only [refused], files, old⟩⟩

/-- Whether a text goes in or not, the directory stays where it is. -/
theorem location_write (d : Scratch) (text : Text) :
    (d.write text).1.location = d.location := by
  obtain ⟨-, absent⟩ | ⟨d', location, -, -, -, -, ⟨cause, -, failed, -⟩ | ⟨-, written, -⟩⟩ :=
    d.write_cases text
  · rw [absent]
  · rw [failed, location]
  · rw [written, location]

end Scratch

/-- A handle on a scratch file. It is held until it has deleted its file. -/
structure ScratchHandle where
  number : Nat
  held : Bool := true
  deriving DecidableEq, Repr

/-- A scratch directory with the handles on its files, in the order in which they were given out,
and with the warnings that were noted. -/
structure ScratchUser where
  directory : Scratch
  handles : List ScratchHandle := []
  warnings : List Text := []

namespace ScratchUser

/-- What is done with scratch files. A handle is told by its place in the order in which the handles
were given out. -/
inductive Act where
  /-- A text is written to a new file, be it in the directory or in one that does not exist. -/
  | create (text : Text) (astray : Bool)
  /-- A handle deletes its file. -/
  | remove (index : Nat)
  /-- A handle is no longer used. -/
  | drop (index : Nat)
  /-- The file of a handle is deleted from outside. -/
  | unlink (index : Nat)
  deriving DecidableEq, Repr

/-- What an act answers. -/
inductive Answer where
  | created (number : Nat)
  | refused (cause : SystemFault)
  | done
  deriving DecidableEq, Repr

/-- Writes a text to a new file and keeps a handle on it. Nothing happens in a directory that does
not exist, and there is no handle on a file that could not be written. -/
def create (u : ScratchUser) (text : Text) (astray : Bool) : ScratchUser × Answer :=
  if astray then (u, .refused .notFound)
  else match u.directory.write text with
    | (directory, .ok number) =>
      ({ u with directory, handles := u.handles ++ [{ number := number }] }, .created number)
    | (directory, .error cause) => ({ u with directory }, .refused cause)

/-- Gives up a handle: the first time, its file is deleted. A file that is gone by then is no fault,
it is only noted. -/
def release (u : ScratchUser) (index : Nat) : ScratchUser :=
  match u.handles[index]? with
  | some handle =>
    if handle.held then
      let handles := u.handles.set index { handle with held := false }
      match u.directory.delete? handle.number with
      | .ok directory => { u with directory, handles }
      | .error cause =>
        { u with handles, warnings := u.warnings ++ [u.directory.warning handle.number cause] }
    else
      u
  | none => u

/-- Removes the file of a handle. The handle is used up by that, so it is dropped right after. -/
def remove (u : ScratchUser) (index : Nat) : ScratchUser :=
  (u.release index).release index

/-- Deletes the file of a handle from outside, without the handle knowing. -/
def unlink (u : ScratchUser) (index : Nat) : ScratchUser :=
  match u.handles[index]? with
  | some handle => { u with directory := u.directory.delete handle.number }
  | none => u

/-- Drops all handles. -/
def releaseAll (u : ScratchUser) : ScratchUser :=
  (List.range u.handles.length).foldl release u

/-- Whether the file of a handle exists. -/
def holds (u : ScratchUser) (index : Nat) : Bool :=
  (u.handles[index]?).any fun handle => u.directory.holds handle.number

/-- One act, and what it answers. -/
def step (u : ScratchUser) : Act → ScratchUser × Answer
  | .create text astray => u.create text astray
  | .remove index => (u.remove index, .done)
  | .drop index => (u.release index, .done)
  | .unlink index => (u.unlink index, .done)

/-- A sequence of acts: what there is after it, and the acts with their answers. -/
def run : ScratchUser → List Act → ScratchUser × List (Act × Answer)
  | u, [] => (u, [])
  | u, act :: acts =>
    let (after, answer) := u.step act
    let (last, history) := run after acts
    (last, (act, answer) :: history)

end ScratchUser

end SyntaxWatch
