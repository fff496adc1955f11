import Mathlib.Data.List.Perm.Basic
import SyntaxWatch.Proofs.Watcher.Moves

/-!
# The scratch files of a watcher

A run of the checker has a scratch file from its start to its end, and a watcher may wait for a run
through many steps. In between other files come and go in the same directory. So what is kept is
not a number but an account: the files of the directory are those that were there at first and,
next to them, the files of the runs that are underway, each under a number of its own. A run that
begins adds one file to the account, under a number that none of the others has, and a run that is
over takes exactly this file out again, whichever files have been added since.

## Main definitions

* `Scratch.Adds`: a directory has the files of an earlier one and some more.
* `Watcher.file?`: the file of the run that a watcher waits for.
* `Watcher.Balances`: something that a watcher does keeps the account.

## Main results

* `Watcher.settle_balances`, `Watcher.wake_balances`, `Watcher.start_balances`: whatever a watcher
  does keeps the account.
* `Bench.run_accounts`: in any run of a bench the directory has one more file while the watcher
  waits for its checker, and none otherwise.
-/

namespace SyntaxWatch

/-! ### Files that are added to a directory -/

/-- The files of a directory are those of an earlier one and some more, each of which has a number
of its own. -/
structure Scratch.Adds (base d : Scratch) (more : List (Nat × Text)) : Prop where
  files : d.files.Perm (base.files ++ more)
  apart : ∀ file ∈ more, base.holds file.1 = false
  nodup : (more.map Prod.fst).Nodup

namespace Scratch

variable {base d d' : Scratch} {more more' : List (Nat × Text)} {number : Nat} {text : Text}

/-- A directory adds nothing to itself. -/
theorem adds_nil (d : Scratch) : d.Adds d [] :=
  ⟨by rw [List.append_nil], List.forall_mem_nil _, List.nodup_nil⟩

/-- The order of the files that were added does not matter. -/
theorem Adds.perm (adds : base.Adds d more) (same : more.Perm more') : base.Adds d more' where
  files := adds.files.trans (same.append_left base.files)
  apart file mem := adds.apart file (same.mem_iff.mpr mem)
  nodup := (same.map Prod.fst).nodup_iff.mp adds.nodup

/-- A directory has its old files and those that were added. -/
theorem Adds.count (adds : base.Adds d more) : d.count = base.count + more.length := by
  rw [Scratch.count, adds.files.length_eq, List.length_append, Scratch.count]

/-- A new file has a number that no other file has, neither an old one nor one that was added. -/
theorem Adds.create (adds : base.Adds d more) (created : d.create? text = some (number, d')) :
    base.Adds d' ((number, text) :: more) := by
  have fresh := (d.holds_eq_false_iff number).mp (not_holds_of_create? created)
  obtain ⟨-, -, -, files, -⟩ := of_create? created
  refine ⟨?_, ?_, ?_⟩
  · rw [files]
    refine (adds.files.append_right _).trans ?_
    rw [List.append_assoc]
    exact List.perm_append_comm.append_left base.files
  · rw [List.forall_mem_cons, holds_eq_false_iff]
    refine ⟨fun file mem => fresh file ?_, adds.apart⟩
    exact adds.files.mem_iff.mpr (List.mem_append_left _ mem)
  · rw [List.map_cons, List.nodup_cons, List.mem_map]
    refine ⟨?_, adds.nodup⟩
    rintro ⟨file, mem, same⟩
    exact fresh file (adds.files.mem_iff.mpr (List.mem_append_right _ mem)) same

/-- The deletion of a file that was added leaves all others. -/
theorem Adds.delete (adds : base.Adds d ((number, text) :: more)) :
    base.Adds (d.delete number) more := by
  obtain ⟨absent, apart⟩ := List.forall_mem_cons.mp adds.apart
  obtain ⟨single, nodup⟩ := List.nodup_cons.mp adds.nodup
  have old : base.files.filter (·.1 != number) = base.files := by
    simpa using (base.holds_eq_false_iff number).mp absent
  have others : more.filter (·.1 != number) = more := by
    rw [List.filter_eq_self]
    intro file mem
    simpa using fun same => single (List.mem_map.mpr ⟨file, mem, same⟩)
  refine ⟨?_, apart, nodup⟩
  have kept := adds.files.filter (·.1 != number)
  rw [List.filter_append, old, List.filter_cons_of_neg (by simp), others] at kept
  exact kept

/-- A text that is written is in a file more, and one that does not go in leaves no file: the one
that was made for it is deleted again. -/
theorem Adds.write (adds : base.Adds d more) (text : Text) :
    (∃ d' cause, d.write text = (d', .error cause) ∧ base.Adds d' more) ∨
      ∃ d' number, d.write text = (d', .ok number) ∧ base.Adds d' ((number, text) :: more) := by
  unfold Scratch.write
  cases created : d.create? text with
  | none => exact .inl ⟨d, .notFound, rfl, adds⟩
  | some result =>
      obtain ⟨number, made⟩ := result
      have created := adds.create created
      dsimp only
      split
      · next cause _ => exact .inl ⟨made.delete number, cause, rfl, created.delete⟩
      · exact .inr ⟨made, number, rfl, created⟩

end Scratch

/-! ### The file of a run -/

/-- The file of a run: its number and the text under check. -/
def Flight.file (flight : Flight) : Nat × Text := (flight.number, flight.text)

/-- A run that cannot be started leaves no file, and one that is started has a file of its own. -/
theorem Command.launch_adds (c : Command) {base : Scratch} {h : Host} {more : List (Nat × Text)}
    (adds : base.Adds h.scratch more) (text : Text) :
    (∃ h' fault, c.launch h text = (h', .error fault) ∧ base.Adds h'.scratch more) ∨
      ∃ h' flight, c.launch h text = (h', .ok flight) ∧
        base.Adds h'.scratch (flight.file :: more) := by
  unfold launch
  obtain ⟨scratch, cause, written, adds⟩ | ⟨scratch, number, written, adds⟩ := adds.write text
  · rw [written]
    exact .inl ⟨_, _, rfl, adds⟩
  · rw [written]
    dsimp only
    split
    · exact .inl ⟨_, _, rfl, adds.delete⟩
    · exact .inr ⟨_, _, rfl, adds⟩

namespace Watcher

variable {c : Command} {base : Scratch} {h : Host} {w : Watcher} {more : List (Nat × Text)}

/-- The cycle in which a watcher waits for its checker. -/
def job? (w : Watcher) : Option Job :=
  match w.phase with
  | .validating job => some job
  | _ => none

/-- The file of the run that a watcher waits for. -/
def file? (w : Watcher) : Option (Nat × Text) :=
  w.job?.map fun job => job.flight.file

/-- A watcher that waits for a run has the file of this run. -/
theorem file?_of_validating {job : Job} (hphase : w.phase = .validating job) :
    w.file? = some job.flight.file := by
  rw [file?, job?, hphase]
  rfl

/-- A watcher at rest has no file. -/
theorem file?_rest (w : Watcher) (now : Nat) : (w.rest now).file? = none := by
  rw [file?, job?]
  rcases w.rest_phase now with ⟨-, ended⟩ | ⟨-, deadline, asleep⟩
  · rw [ended]
    rfl
  · rw [asleep]
    rfl

/-- A stop does not take the file from a run that is underway. -/
theorem file?_halt (w : Watcher) : w.halt.file? = w.file? := by
  rw [halt]
  dsimp only
  split
  · next deadline asleep => rw [file?, file?, job?, job?, asleep]
  · rfl

/-- Staging a text makes no file: it waits for the next cycle. -/
theorem file?_stageForced (w : Watcher) (text : Text) (full : Bool) :
    (w.stageForced text full).file? = w.file? := by
  cases full <;> rfl

/-- Something that a watcher does keeps the account of the scratch files. -/
def Balances (f : Host → Watcher → Host × Watcher × List Event) : Prop :=
  ∀ ⦃base h w more⦄, Scratch.Adds base h.scratch (w.file?.toList ++ more) →
    Scratch.Adds base (f h w).1.scratch ((f h w).2.1.file?.toList ++ more)

/-- The end of a cycle deletes the file of its run. -/
theorem finish_adds {job : Job} (hphase : w.phase = .validating job)
    (adds : base.Adds h.scratch (w.file?.toList ++ more)) (now : Nat)
    (check : Except CheckFault Transcript) :
    base.Adds (h.discard job.flight.number).scratch
      ((w.finish now job check).1.file?.toList ++ more) := by
  rw [file?_of_validating hphase] at adds
  rw [finish, file?_rest]
  exact adds.delete

/-- While its run is underway a watcher keeps the file, and when the run is over the file is
deleted. -/
theorem settle_balances (c : Command) : Balances (settle c) := by
  intro base h w more adds
  unfold settle
  split
  · next job hphase =>
      split
      · exact adds
      · exact adds
      · exact finish_adds hphase adds h.clock (c.transcript h job.flight)
      · next limit _ => exact finish_adds hphase adds h.clock (.error (.overdue limit))
  · exact adds

/-- A cycle that begins has a file as long as it waits for its checker. -/
theorem check_adds (c : Command) (adds : base.Adds h.scratch more) (w : Watcher) (text : Text) :
    base.Adds (check c h w text).1.scratch ((check c h w text).2.1.file?.toList ++ more) := by
  unfold check
  split
  · rw [file?_rest]
    exact adds
  · obtain ⟨h', fault, launched, adds⟩ | ⟨h', flight, launched, adds⟩ := c.launch_adds adds text
    · rw [launched]
      dsimp only
      rw [file?_rest]
      exact adds
    · rw [launched]
      refine settle_balances c (w := { w with phase := .validating { cap := w.cap, flight } }) ?_
      exact adds

/-- A round adds the file of its cycle as long as the cycle waits for its checker. -/
theorem turn_adds (c : Command) (adds : base.Adds h.scratch more) (w : Watcher) :
    base.Adds (turn c h w).1.scratch ((turn c h w).2.1.file?.toList ++ more) := by
  unfold turn
  split
  · exact adds
  · dsimp only
    split
    · rw [file?_rest]
      exact adds
    · exact check_adds c adds _ _

/-- The first round keeps the account. -/
theorem start_balances (c : Command) : Balances (start c) := by
  intro base h w more adds
  unfold start
  split
  · next idle =>
      rw [file?, job?, idle] at adds
      exact turn_adds c adds _
  · exact adds

/-- Waking up keeps the account, whether from a sleep or to look after a run. -/
theorem wake_balances (c : Command) : Balances (wake c) := by
  intro base h w more adds
  unfold wake
  split
  · next deadline asleep =>
      split
      · rw [file?, job?, asleep] at adds
        exact turn_adds c adds w
      · exact adds
  · exact settle_balances c adds

end Watcher

/-! ### Steps and runs of a bench -/

namespace Bench

variable {base : Scratch} {b : Bench}

/-- A bench has the files of an earlier directory and the one of the run that its watcher waits
for. -/
def Accounts (b : Bench) (base : Scratch) : Prop :=
  base.Adds b.host.scratch b.watcher.file?.toList

/-- A bench keeps its account when its watcher does something that keeps it. -/
theorem put_accounts {f : Host → Watcher → Host × Watcher × List Event} {h : Host} {w : Watcher}
    (balances : Watcher.Balances f) (adds : base.Adds h.scratch w.file?.toList) :
    (b.put (f h w)).1.Accounts base := by
  rw [← List.append_nil w.file?.toList] at adds
  have kept := balances adds
  rwa [List.append_nil] at kept

/-- Every step of a bench keeps its account. -/
theorem step_accounts (adds : b.Accounts base) (s : Step) : (b.step s).1.Accounts base := by
  cases s with
  | start => exact put_accounts (Watcher.start_balances b.command) adds
  | stop =>
      have adds : base.Adds b.host.scratch b.watcher.halt.file?.toList := by
        rw [Watcher.file?_halt]
        exact adds
      dsimp only [step, stop]
      split
      · exact put_accounts (Watcher.wake_balances b.command) adds
      · exact adds
  | advance ms => exact put_accounts (Watcher.wake_balances b.command) adds
  | setGate closed => exact put_accounts (Watcher.settle_balances b.command) adds
  | stageForced text full =>
      rw [step, Accounts, Watcher.file?_stageForced]
      exact adds
  | setCap cap =>
      have kept : (b.watcher.setCap cap).file? = b.watcher.file? := by
        rw [Watcher.setCap]
        split <;> rfl
      rw [step, Accounts, kept]
      exact adds
  | _ => exact adds

/-- In any run the directory has the files that it had at first, and one more while the watcher
waits for its checker. -/
theorem run_accounts (adds : b.Accounts base) (steps : List Step) :
    (b.run steps).1.Accounts base := by
  induction steps generalizing b with
  | nil => exact adds
  | cons s steps ih => exact ih (step_accounts adds s)

/-- There is one file more than at first while the watcher waits for its checker, and none
otherwise. -/
theorem Accounts.count (adds : b.Accounts base) :
    b.host.scratch.count = base.count + if b.watcher.job?.isSome then 1 else 0 := by
  rw [Scratch.Adds.count adds, Watcher.file?]
  cases b.watcher.job? <;> rfl

end Bench

end SyntaxWatch
