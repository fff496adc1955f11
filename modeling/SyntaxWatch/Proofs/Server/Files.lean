import SyntaxWatch.Proofs.Server.Freshness
import SyntaxWatch.Proofs.Watcher.Files

/-!
# The scratch files of a session

All workers of a session write their scratch files to one directory. A worker that was told to stop
goes on waiting for its checker when nobody waits for it any more, and its run ends in a step that
belongs to another document. So the account of the files goes over all workers that were ever
started, and not over the documents that are open.

A step changes the account in one place only: where a worker acts, and there by what this worker
does with its own file.

## Main definitions

* `Session.files`: the files of the runs that the workers of a session wait for.
* `Session.Accounts`: a session has the files of an earlier directory and these.

## Main results

* `Session.step_accounts`: every step keeps the account.
* `Session.no_file_is_left`: how many files there are, on a bench and in a session, and after a run
  of the checker.
-/

namespace SyntaxWatch

namespace Session

variable {base : Scratch} {s : Session} {f : Host → Watcher → Host × Watcher × List Event}

/-- The files of the runs that workers of the session wait for, whether these workers are tracked or
not. -/
def files (s : Session) : List (Nat × Text) :=
  s.workers.filterMap (·.watcher.file?)

/-- A session has the files of an earlier directory and those of the runs that its workers wait
for. -/
def Accounts (s : Session) (base : Scratch) : Prop :=
  base.Adds s.host.scratch s.files

/-! ### When a worker acts -/

/-- The file of one worker, apart from those of the others. -/
theorem files_perm {n : Nat} {worker : Worker} (hworker : s.workers[n]? = some worker) :
    s.files.Perm
      (worker.watcher.file?.toList ++ (s.workers.eraseIdx n).filterMap (·.watcher.file?)) := by
  obtain ⟨bound, rfl⟩ := List.getElem?_eq_some_iff.mp hworker
  rw [files, List.filterMap_eq_flatMap_toList, List.filterMap_eq_flatMap_toList]
  exact ((List.getElem_cons_eraseIdx_perm bound).flatMap_right _).symm

/-- When a worker acts, its own file may come or go, and the others stay accounted for. -/
theorem drive_accounts (balances : Watcher.Balances f) (accounts : s.Accounts base) (number : Nat) :
    (s.drive number f).1.Accounts base := by
  unfold drive
  split
  · exact accounts
  · next worker hworker =>
      have bound := (List.getElem?_eq_some_iff.mp hworker).1
      have kept := balances (Scratch.Adds.perm accounts (files_perm hworker))
      refine kept.perm ?_
      rw [files, List.filterMap_eq_flatMap_toList, List.filterMap_eq_flatMap_toList]
      have replaced := List.set_perm_cons_eraseIdx bound
        { worker with watcher := (f s.host worker.watcher).2.1 }
      exact (replaced.flatMap_right fun w => w.watcher.file?.toList).symm

/-- Workers that act one after the other keep the account. -/
theorem driveEach_accounts (balances : Watcher.Balances f) (accounts : s.Accounts base)
    (numbers : List Nat) : (s.driveEach f numbers).1.Accounts base := by
  induction numbers generalizing s with
  | nil => exact accounts
  | cons number rest ih => exact ih (drive_accounts balances accounts number)

/-- While time passes, the account is kept. -/
theorem elapse_accounts (accounts : s.Accounts base) (ms : Nat) : (s.elapse ms).1.Accounts base :=
  driveEach_accounts (s := { s with host := s.host.elapse ms })
    (Watcher.wake_balances s.settings.command) accounts _

/-- Holding the checkers back or releasing them keeps the account. -/
theorem setGate_accounts (accounts : s.Accounts base) (closed : Bool) :
    (s.setGate closed).1.Accounts base :=
  driveEach_accounts (s := { s with host := { s.host with gateClosed := closed } })
    (Watcher.settle_balances s.settings.command) accounts _

/-! ### When the session changes -/

/-- A change of a worker that leaves it waiting for the same run leaves the account as it is. -/
theorem modify_accounts {g : Watcher → Watcher} (same : ∀ w : Watcher, (g w).file? = w.file?)
    (accounts : s.Accounts base) (number : Nat) : (s.modify number g).Accounts base := by
  have each : (s.modify number g).workers.map (·.watcher.file?) =
      s.workers.map (·.watcher.file?) := by
    refine List.ext_getElem? fun n => ?_
    rw [List.getElem?_map, List.getElem?_map, modify_workers, Option.map_map]
    refine congrArg (Option.map · _) (funext fun w => ?_)
    dsimp only [Function.comp_apply]
    split
    · exact same w.watcher
    · rfl
  have kept : (s.modify number g).files = s.files := by
    simpa [List.filterMap_map, files] using congrArg (List.filterMap id) each
  rw [Accounts, kept]
  exact accounts

/-- The account is kept when a worker is stopped, whether it ends its run in time or not. -/
theorem stop_accounts (accounts : s.Accounts base) (number : Nat) :
    (s.stop number).1.Accounts base := by
  have halted := modify_accounts Watcher.file?_halt accounts number
  unfold stop
  dsimp only
  split
  · exact elapse_accounts halted _
  · exact halted

/-- Stopping workers one after the other keeps the account, in any order. -/
theorem stopEach_accounts (accounts : s.Accounts base) (numbers : List Nat) :
    (s.stopEach numbers).1.Accounts base := by
  induction numbers generalizing s with
  | nil => exact accounts
  | cons number rest ih => exact ih (stop_accounts accounts number)

/-- Stopping the old worker of a document, if there is one, keeps the account. -/
theorem stopTracked_accounts (accounts : s.Accounts base) (number : Option Nat) :
    (s.stopTracked number).1.Accounts base := by
  cases number with
  | none => exact accounts
  | some number => exact stop_accounts accounts number

/-- A worker that is new waits for nothing before it is started. -/
theorem track_accounts (accounts : s.Accounts base) (uri : Uri) (text : Text) :
    (s.track uri text).1.Accounts base := by
  refine drive_accounts (Watcher.start_balances s.settings.command) ?_ _
  have kept : (s.workers ++ [{ uri, watcher := s.settings.watcher.stage text : Worker }]).filterMap
      (fun w => w.watcher.file?) = s.files := by
    rw [List.filterMap_append, files]
    exact List.append_nil _
  rw [Accounts, files, kept]
  exact accounts

/-- A text that is staged waits in the worker, and is not yet in a file. -/
theorem stage_accounts (accounts : s.Accounts base) (uri : Uri) (text : Text) (full : Bool) :
    (s.stage uri text full).Accounts base := by
  unfold stage
  split
  · exact modify_accounts (fun w => w.file?_stageForced text full) accounts _
  · exact accounts

/-- Every report of the editor keeps the account. -/
theorem change_accounts (accounts : s.Accounts base) (change : Change) :
    (s.change change).1.Accounts base := by
  cases change with
  | opened uri text =>
      exact stopTracked_accounts (track_accounts (s := s.store uri text) accounts uri text) _
  | edited uri texts =>
      rw [Session.change]
      split
      · next text _ => exact stage_accounts (s := s.store uri text) accounts uri text false
      · exact accounts
  | saved uri text =>
      cases text with
      | some text => exact stage_accounts (s := s.store uri text) accounts uri text true
      | none =>
          rw [Session.change]
          split
          · exact stage_accounts accounts uri _ true
          · exact accounts
  | closed uri =>
      exact stopTracked_accounts (s := { s with tracked := s.tracked.erase uri }) accounts _

/-! ### Steps and runs -/

/-- To shut down keeps the account: a run that is not over by then still has its file. -/
theorem shutDown_accounts (accounts : s.Accounts base) (c : Call) :
    (s.shutDown c).1.Accounts base := by
  unfold shutDown
  dsimp only
  split
  · exact accounts
  · exact accounts
  · exact stopEach_accounts (s := { s with lifecycle := .shutDown, tracked := {} }) accounts _

/-- Every step keeps the account. -/
theorem step_accounts (accounts : s.Accounts base) (st : Step) : (s.step st).1.Accounts base := by
  have takes := s.step_takes st
  generalize (s.step st).1 = after, (s.step st).2.1 = log at takes
  cases takes with
  | report => exact change_accounts accounts _
  | shutDown => exact shutDown_accounts accounts _
  | elapse => exact elapse_accounts accounts _
  | setGate => exact setGate_accounts accounts _
  | presents | keeps => exact accounts

/-- Every run keeps the account. -/
theorem run_accounts (accounts : s.Accounts base) (steps : List Step) :
    (s.run steps).1.Accounts base := by
  induction steps generalizing s with
  | nil => exact accounts
  | cons st steps ih => exact ih (step_accounts accounts st)

/-- There are as many files as there are workers that wait for their checker, and those that were
there before. -/
theorem Accounts.count (accounts : s.Accounts base) :
    s.host.scratch.count = base.count + s.workers.countP (·.watcher.job?.isSome) := by
  rw [Scratch.Adds.count accounts, files, List.length_filterMap_eq_countP]
  simp only [Watcher.file?, Option.isSome_map]

/-- A document is opened twice and closed while the checkers of its workers are held back. The
session tracks no worker then, and there are two files. -/
example :
    let name := "file:///a.pl".toList
    let s := ((fresh {} faultfinder .kept).run [.connect, .setGate true, .didOpen name "x\n".toList,
      .didOpen name "yy\n".toList, .didClose name]).1
    s.tracked.values = [] ∧ s.files.map Prod.snd = ["x\n".toList, "yy\n".toList] := by
  decide +kernel

/-- No scratch file is left behind. On a bench and in a session, whatever the steps, the directory
has the files that it had at first and one for each worker that waits for its checker, whether it
has been told to stop or not; and a run of the checker leaves the files as it has found them,
however it ends: with a transcript, with a fault of the checker or of its stream, too late, or with
an input that could not be written, be it before or after its file was made. -/
theorem no_file_is_left (host : Host) :
    (∀ (command : Command) (grace interval cap : Nat) (steps : List Bench.Step),
      let b := ((Bench.fresh host command grace interval cap).run steps).1
      b.Accounts host.scratch ∧
        b.host.scratch.count = host.scratch.count + if b.watcher.job?.isSome then 1 else 0) ∧
    (∀ (settings : Settings) (shuffle : Shuffle) (steps : List Step),
      let s := ((fresh settings host shuffle).run steps).1
      s.Accounts host.scratch ∧
        s.host.scratch.count = host.scratch.count + s.workers.countP (·.watcher.job?.isSome)) ∧
    ∀ (command : Command) (text : Text),
      (command.run host text).1.scratch.files = host.scratch.files := by
  refine ⟨fun command grace interval cap steps => ?_, fun settings shuffle steps => ?_,
    fun command text => command.run_scratch_files host text⟩
  · have accounts := Bench.run_accounts (b := Bench.fresh host command grace interval cap)
      host.scratch.adds_nil steps
    exact ⟨accounts, accounts.count⟩
  · have accounts := run_accounts (s := fresh settings host shuffle) host.scratch.adds_nil steps
    exact ⟨accounts, accounts.count⟩

end Session

end SyntaxWatch
