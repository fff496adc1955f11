import SyntaxWatch.Proofs.Server.Moves

/-!
# Which workers a session tracks

A session tracks a worker for each open document, and hands it every text that it stores. A worker
that is no longer tracked has been told to stop, however long its checker holds it up. So there is
never more than one worker for a document that may still show something, and this one works on the
text that is stored.

The order in which a report touches the table of documents, the table of workers and the workers
themselves differs from report to report. What holds between any two steps holds as well when the
workers begin to act in the middle of one, and the acts cannot change it.

## Main definitions

* `Session.fresh`: a session before its first step.
* `Session.Tidy`: the tracked workers are the ones that go on, and each has the stored text.

## Main results

* `Session.step_tidy`: every step keeps a session tidy.
* `Session.one_worker_per_document`: every session that is reached is tidy, and what it has ceased
  to track has been told to stop.
-/

namespace SyntaxWatch

/-- A value that is found under a key is one of the values. -/
theorem Table.mem_values_of_get? {κ α : Type} [DecidableEq κ] {t : Table κ α} {key : κ} {value : α}
    (found : t.get? key = some value) : value ∈ t.values := by
  obtain ⟨entry, hentry, rfl⟩ := Option.map_eq_some_iff.mp found
  exact List.mem_map_of_mem (List.mem_of_find?_eq_some hentry)

namespace Session

variable {s s' : Session} {deeds : List Deed} {uri : Uri} {text : Text} {n : Nat}

/-- A session before its first step. -/
def fresh (settings : Settings) (host : Host) (shuffle : Shuffle) : Session :=
  { settings, host, shuffle }

/-- Two runs in a row are one run, with the logs in a row. -/
theorem run_append (s : Session) (past rest : List Step) :
    s.run (past ++ rest) =
      (((s.run past).1.run rest).1, (s.run past).2 ++ ((s.run past).1.run rest).2) := by
  induction past generalizing s with
  | nil => rfl
  | cons st past ih => simp only [List.cons_append, run, ih, List.append_assoc]

/-- A run of one step is this step. -/
theorem run_singleton (s : Session) (st : Step) :
    s.run [st] = ((s.step st).1, (s.step st).2.1) := by
  simp only [run, List.append_nil]

/-- A run may be extended at its end by a step. -/
theorem run_snoc (s : Session) (past : List Step) (st : Step) :
    s.run (past ++ [st]) =
      (((s.run past).1.step st).1, (s.run past).2 ++ ((s.run past).1.step st).2.1) := by
  rw [run_append, run_singleton]

/-- The tracked workers are the ones that go on, and each of them has the text that is stored for
its document. -/
structure Tidy (s : Session) : Prop where
  /-- A worker that nobody has told to stop is tracked for its document. -/
  tracked {n : Nat} {worker : Worker} (hworker : s.workers[n]? = some worker)
    (going : worker.watcher.stopping = false) : s.tracked.get? worker.uri = some n
  /-- The worker that is tracked for a document serves this document, goes on, and has its text. -/
  serves {uri : Uri} {n : Nat} (tracked : s.tracked.get? uri = some n) :
    ∃ worker text, s.workers[n]? = some worker ∧ worker.uri = uri ∧
      worker.watcher.stopping = false ∧ s.documents.get? uri = some text ∧
      worker.watcher.staged = some text

/-- Before its first step a session has no workers, and nothing is out of order. -/
theorem tidy_fresh (settings : Settings) (host : Host) (shuffle : Shuffle) :
    (fresh settings host shuffle).Tidy :=
  ⟨nofun, nofun⟩

/-- In a tidy session every tracked worker has been started. -/
theorem Tidy.valid (tidy : s.Tidy) : s.Valid := by
  intro uri n tracked
  obtain ⟨worker, -, hworker, -⟩ := tidy.serves tracked
  exact (List.getElem?_eq_some_iff.mp hworker).1

/-! ### When the workers act -/

/-- A session stays tidy when its workers act and nobody is told to stop. -/
theorem Plays.tidy (plays : s.Plays deeds s') (unhalted : ∀ n, .halt n ∉ deeds) (tidy : s.Tidy) :
    s'.Tidy where
  tracked hworker going := by
    obtain ⟨w, hw, leaves⟩ := plays.worker hworker
    rw [plays.alike.tracked, leaves.uri]
    exact tidy.tracked hw (leaves.going going).1
  serves htracked := by
    rw [plays.alike.tracked] at htracked
    obtain ⟨w, text, hw, huri, going, stored, staged⟩ := tidy.serves htracked
    obtain ⟨w', hw'⟩ := plays.alike.exists_worker hw
    obtain ⟨w₀, hw₀, leaves⟩ := plays.worker hw'
    cases hw.symm.trans hw₀
    refine ⟨w', text, hw', leaves.uri.trans huri, ?_, ?_, leaves.staged.trans staged⟩
    · rw [← Bool.not_eq_true, leaves.stopping, going]
      simpa using unhalted _
    · rw [plays.alike.documents, stored]

/-! ### When the session changes -/

/-- A worker that goes on after one has been told to stop is another one, and was there before. -/
theorem of_amend_halt {old : Option Nat} {worker : Worker}
    (hworker : (s.amend old Watcher.halt).workers[n]? = some worker)
    (going : worker.watcher.stopping = false) : s.workers[n]? = some worker ∧ old ≠ some n := by
  rw [amend_workers, Option.map_eq_some_iff] at hworker
  obtain ⟨w, hw, rfl⟩ := hworker
  by_cases halted : old = some n
  · rw [if_pos halted, (leaves_halt w).stopping.mpr (.inr trivial)] at going
    cases going
  · rw [if_neg halted]
    exact ⟨hw, halted⟩

/-- To amend a worker leaves every other one as it is. -/
theorem amend_of_ne {number : Option Nat} {f : Watcher → Watcher} {worker : Worker}
    (hworker : s.workers[n]? = some worker) (apart : number ≠ some n) :
    (s.amend number f).workers[n]? = some worker := by
  rw [amend_workers, hworker, Option.map_some, if_neg apart]

/-- A new worker comes after those that are there. -/
theorem adding_workers (s : Session) (uri : Uri) (text : Text) (n : Nat) :
    (s.adding uri text).workers[n]? =
      if n = s.workers.length then some { uri, watcher := s.settings.watcher.stage text }
      else s.workers[n]? := by
  rw [adding]
  grind

/-- A session stays tidy when a document is opened: the new worker takes the place of the old one,
which has been told to stop. -/
theorem tidy_opening (tidy : s.Tidy) : (s.opening uri text).Tidy where
  tracked {n worker} hworker going := by
    obtain ⟨hadding, apart⟩ := of_amend_halt hworker going
    rw [(alike_opening ..).tracked]
    rw [adding_workers] at hadding
    split at hadding
    · next new =>
        cases hadding
        rw [new]
        exact s.tracked.get?_insert_self uri s.workers.length
    · have htracked := tidy.tracked hadding going
      refine (s.tracked.get?_insert_of_ne _ fun same => apart ?_).trans htracked
      rw [← same, htracked]
  serves {other n} htracked := by
    rw [(alike_opening ..).tracked] at htracked
    rw [(alike_opening ..).documents]
    replace htracked := (s.tracked.get?_insert uri other s.workers.length).symm.trans htracked
    split at htracked
    · next same =>
        cases htracked
        subst same
        refine ⟨_, text, amend_of_ne ((adding_workers ..).trans (if_pos rfl)) ?_, rfl, rfl,
          s.documents.get?_insert_self other text, rfl⟩
        exact fun old => Nat.lt_irrefl _ (tidy.valid _ _ old)
    · next different =>
        obtain ⟨worker, stored, hworker, huri, going, hstored, staged⟩ := tidy.serves htracked
        have older := tidy.valid _ _ htracked
        refine ⟨worker, stored, amend_of_ne ?_ fun old => different ?_, huri, going,
          (s.documents.get?_insert_of_ne _ different).trans hstored, staged⟩
        · rw [adding_workers, if_neg (Nat.ne_of_lt older), hworker]
        · obtain ⟨_, -, hworker', huri', -⟩ := tidy.serves old
          cases hworker.symm.trans hworker'
          exact huri.symm.trans huri'

/-- A session stays tidy when a document is closed: the worker that is let go has been told to stop.
-/
theorem tidy_closing (tidy : s.Tidy) : (s.closing uri).Tidy where
  tracked {n worker} hworker going := by
    obtain ⟨hworker, apart⟩ := of_amend_halt hworker going
    rw [(alike_closing ..).tracked]
    have htracked := tidy.tracked hworker going
    refine (s.tracked.get?_erase_of_ne fun same => apart ?_).trans htracked
    rw [← same, htracked]
  serves {other n} htracked := by
    rw [(alike_closing ..).tracked] at htracked
    rw [(alike_closing ..).documents]
    replace htracked := (s.tracked.get?_erase uri other).symm.trans htracked
    split at htracked
    · cases htracked
    · next different =>
        obtain ⟨worker, stored, hworker, huri, going, hstored, staged⟩ := tidy.serves htracked
        refine ⟨worker, stored, amend_of_ne hworker fun old => different ?_, huri, going, hstored,
          staged⟩
        obtain ⟨_, -, hworker', huri', -⟩ := tidy.serves old
        cases hworker.symm.trans hworker'
        exact huri.symm.trans huri'

/-- A document that is not tracked may be forgotten. -/
theorem Tidy.forget (tidy : s.Tidy) (untracked : s.tracked.get? uri = none) :
    ({ s with documents := s.documents.erase uri } : Session).Tidy where
  tracked := tidy.tracked
  serves {other n} htracked := by
    have different : other ≠ uri := by
      rintro rfl
      cases untracked.symm.trans htracked
    obtain ⟨worker, stored, hworker, huri, going, hstored, staged⟩ := tidy.serves htracked
    exact ⟨worker, stored, hworker, huri, going,
      (s.documents.get?_erase_of_ne different).trans hstored, staged⟩

/-- A session stays tidy when a text is stored, since it is staged for the tracked worker. -/
theorem tidy_stage {stored : Session} {full : Bool} (tidy : s.Tidy)
    (hstored : stored = s.store uri text ∨ stored = s ∧ s.documents.get? uri = some text) :
    (stored.stage uri text full).Tidy := by
  obtain ⟨hworkers, htracked, hdocuments⟩ : stored.workers = s.workers ∧
      stored.tracked = s.tracked ∧ ∀ other, stored.documents.get? other =
        if other = uri then some text else s.documents.get? other := by
    rcases hstored with rfl | ⟨rfl, stored⟩
    · exact ⟨rfl, rfl, fun other => s.documents.get?_insert uri other text⟩
    · refine ⟨rfl, rfl, fun other => ?_⟩
      split
      · next same => rw [same, stored]
      · rfl
  rw [stage_eq_amend, htracked]
  refine ⟨fun {n worker} hworker going => ?_, fun {other n} tracked => ?_⟩
  · rw [amend_workers, hworkers, Option.map_eq_some_iff] at hworker
    obtain ⟨w, hw, rfl⟩ := hworker
    rw [(alike_amend ..).tracked, htracked]
    by_cases here : s.tracked.get? uri = some n
    · rw [if_pos here] at going ⊢
      have htracked := tidy.tracked hw ((w.watcher.stageForced_frame ..).2.2.symm.trans going)
      exact htracked
    · rw [if_neg here] at going ⊢
      exact tidy.tracked hw going
  · rw [(alike_amend ..).tracked, htracked] at tracked
    rw [(alike_amend ..).documents, hdocuments]
    obtain ⟨w, before, hw, rfl, going, hbefore, staged⟩ := tidy.serves tracked
    by_cases same : w.uri = uri
    · rw [if_pos same, ← same, tracked]
      obtain ⟨hstaged, -, hstopping⟩ := w.watcher.stageForced_frame text full
      refine ⟨{ w with watcher := w.watcher.stageForced text full }, text, ?_, rfl,
        hstopping.trans going, rfl, hstaged⟩
      rw [amend_workers, hworkers, hw, Option.map_some, if_pos rfl]
    · rw [if_neg same]
      refine ⟨w, before, amend_of_ne (hworkers ▸ hw) fun here => same ?_, rfl, going, hbefore,
        staged⟩
      obtain ⟨_, -, hw', huri, -⟩ := tidy.serves here
      cases hw.symm.trans hw'
      exact huri

/-- When all tracked workers have been told to stop, none goes on. -/
theorem tidy_of_quitting (tidy : s.Tidy) (plays : s.quitting.Plays deeds s')
    (halted : ∀ n ∈ s.tracked.values, .halt n ∈ deeds) : s'.Tidy where
  tracked hworker going := by
    obtain ⟨w, hw, leaves⟩ := plays.worker hworker
    obtain ⟨going, unhalted⟩ := leaves.going going
    exact absurd (halted _ (Table.mem_values_of_get? (tidy.tracked hw going))) unhalted
  serves htracked := by
    rw [plays.alike.tracked] at htracked
    cases htracked

/-! ### Steps and runs -/

/-- Every step keeps a session tidy. -/
theorem step_tidy (tidy : s.Tidy) (st : Step) : (s.step st).1.Tidy := by
  have unfolds := step_unfolds tidy.valid st
  generalize (s.step st).1 = after, (s.step st).2.1 = log at unfolds
  cases unfolds with
  | opens _ first once plays =>
      refine plays.tidy (fun n halted => ?_) (tidy_opening tidy)
      exact (List.mem_append.mp halted).elim (first.2 n) (once.2 n)
  | closes _ once plays =>
      refine (plays.tidy once.2 (tidy_closing tidy)).forget ?_
      rw [plays.alike.tracked, (alike_closing ..).tracked]
      exact s.tracked.get?_erase_self _
  | stages _ hstored => exact tidy_stage tidy hstored
  | passes _ once plays => exact plays.tidy once.2 tidy
  | quits _ _ halted plays => exact tidy_of_quitting tidy plays halted
  | keeps => exact ⟨tidy.tracked, tidy.serves⟩
  | presents => exact tidy

/-- Every run keeps a session tidy. -/
theorem run_tidy (tidy : s.Tidy) (steps : List Step) : (s.run steps).1.Tidy := by
  induction steps generalizing s with
  | nil => exact tidy
  | cons st steps ih => exact ih (step_tidy tidy st)

/-! ### Workers are never lost -/

/-- From one session to another every worker stays, serves the same document, and remains told to
stop. -/
def Retains (s s' : Session) : Prop :=
  ∀ (n : Nat) (worker : Worker), s.workers[n]? = some worker →
    ∃ worker' : Worker, s'.workers[n]? = some worker' ∧ worker'.uri = worker.uri ∧
      (worker.watcher.stopping = true → worker'.watcher.stopping = true)

/-- A session with the same workers has lost none. -/
theorem Retains.of_eq (same : s'.workers = s.workers) : s.Retains s' :=
  fun _ worker hworker => ⟨worker, same ▸ hworker, rfl, id⟩

/-- What was not lost in two parts of a run is not lost. -/
theorem Retains.trans {s'' : Session} (first : s.Retains s') (second : s'.Retains s'') :
    s.Retains s'' := by
  intro n worker hworker
  obtain ⟨worker', hworker', huri, stopped⟩ := first n worker hworker
  obtain ⟨worker'', hworker'', huri', stopped'⟩ := second n worker' hworker'
  exact ⟨worker'', hworker'', huri'.trans huri, stopped' ∘ stopped⟩

/-- Deeds of the workers lose none of them. -/
theorem Plays.retains (plays : s.Plays deeds s') : s.Retains s' := by
  intro n worker hworker
  obtain ⟨worker', hworker'⟩ := plays.alike.exists_worker hworker
  obtain ⟨_, same, leaves⟩ := plays.worker hworker'
  cases hworker.symm.trans same
  exact ⟨worker', hworker', leaves.uri, fun stopped => leaves.stopping.mpr (.inl stopped)⟩

/-- Telling a worker to stop loses no worker. -/
theorem retains_amend_halt (s : Session) (number : Option Nat) :
    s.Retains (s.amend number Watcher.halt) := by
  intro n worker hworker
  rw [amend_workers, hworker]
  refine ⟨_, rfl, ?_⟩
  split
  · exact ⟨rfl, fun _ => worker.watcher.halt_frame.2.2⟩
  · exact ⟨rfl, id⟩

/-- Opening a document loses no worker: the old one is still there, told to stop. -/
theorem retains_opening (s : Session) (uri : Uri) (text : Text) :
    s.Retains (s.opening uri text) := by
  have adds : s.Retains (s.adding uri text) := by
    intro n worker hworker
    have older := (List.getElem?_eq_some_iff.mp hworker).1
    exact ⟨worker, by rw [adding_workers, if_neg (Nat.ne_of_lt older), hworker], rfl, id⟩
  exact adds.trans (retains_amend_halt _ _)

/-- Closing a document loses no worker, though its own is no longer tracked. -/
theorem retains_closing (s : Session) (uri : Uri) : s.Retains (s.closing uri) := by
  have untracks : s.Retains { s with tracked := s.tracked.erase uri } := .of_eq rfl
  exact untracks.trans (retains_amend_halt _ _)

/-- From one session to another every worker stays as it is, but for what is staged for it. -/
def Preserves (s s' : Session) : Prop :=
  ∀ (n : Nat) (worker : Worker), s.workers[n]? = some worker →
    ∃ worker' : Worker, s'.workers[n]? = some worker' ∧ worker'.uri = worker.uri ∧
      worker'.watcher.memory = worker.watcher.memory ∧
      worker'.watcher.stopping = worker.watcher.stopping

/-- A session with the same workers has preserved them. -/
theorem Preserves.of_eq (same : s'.workers = s.workers) : s.Preserves s' :=
  fun _ worker hworker => ⟨worker, same ▸ hworker, rfl, rfl, rfl⟩

/-- What is preserved is not lost. -/
theorem Preserves.retains (preserves : s.Preserves s') : s.Retains s' := by
  intro n worker hworker
  obtain ⟨worker', hworker', huri, -, stopping⟩ := preserves n worker hworker
  exact ⟨worker', hworker', huri, fun stopped => stopping.trans stopped⟩

/-- To stage a text for a worker leaves what it has shown and whether it goes on. -/
theorem preserves_stage {stored : Session} {full : Bool}
    (hstored : stored = s.store uri text ∨ stored = s ∧ s.documents.get? uri = some text) :
    s.Preserves (stored.stage uri text full) := by
  have same : stored.workers = s.workers := by rcases hstored with rfl | ⟨rfl, -⟩ <;> rfl
  intro n worker hworker
  rw [stage_eq_amend, amend_workers, same, hworker]
  refine ⟨_, rfl, ?_⟩
  split
  · obtain ⟨-, memory, stopping⟩ := worker.watcher.stageForced_frame text full
    exact ⟨rfl, memory, stopping⟩
  · exact ⟨rfl, rfl, rfl⟩

/-- No step loses a worker or takes back that it was told to stop. -/
theorem step_retains (tidy : s.Tidy) (st : Step) : s.Retains (s.step st).1 := by
  have unfolds := step_unfolds tidy.valid st
  generalize (s.step st).1 = after, (s.step st).2.1 = log at unfolds
  cases unfolds with
  | opens _ _ _ plays => exact (s.retains_opening _ _).trans plays.retains
  | closes _ _ plays => exact (s.retains_closing _).trans plays.retains
  | stages _ hstored => exact (preserves_stage hstored).retains
  | passes _ _ plays => exact plays.retains
  | quits _ _ _ plays =>
      have untracks : s.Retains s.quitting := .of_eq rfl
      exact untracks.trans plays.retains
  | keeps => exact .of_eq rfl
  | presents => exact .of_eq rfl

/-- No run loses a worker or takes back that it was told to stop. -/
theorem run_retains (tidy : s.Tidy) (steps : List Step) : s.Retains (s.run steps).1 := by
  induction steps generalizing s with
  | nil => exact .of_eq rfl
  | cons st steps ih => exact (step_retains tidy st).trans (ih (step_tidy tidy st))

/-! ### What a step keeps -/

/-- What holds between a session and the one after a step. -/
structure Proceeds (s : Session) (st : Step) (after : Session) : Prop where
  settings : after.settings = s.settings
  /-- A session never goes back to an earlier stage. -/
  later : stageOf s.lifecycle ≤ stageOf after.lifecycle
  /-- A worker is tracked when it has been started on a document that is opened, and then until this
  document is opened again or closed. -/
  tracked (uri : Uri) (n : Nat) : after.tracked.get? uri = some n →
    (∃ text, s.report? st = some (.opened uri text)) ∨
    s.tracked.get? uri = some n ∧ (∀ text, s.report? st ≠ some (.opened uri text)) ∧
      s.report? st ≠ some (.closed uri)
  /-- The text with which a document is opened is stored. -/
  stored (uri : Uri) (text : Text) (report : s.report? st = some (.opened uri text)) :
    after.documents.get? uri = some text

/-- A step in which no report opens or closes a document lets go of workers at most. -/
theorem proceeds_of_steady {st : Step} {after : Session}
    (steady : s.Steady st) (settings : after.settings = s.settings)
    (later : stageOf s.lifecycle ≤ stageOf after.lifecycle)
    (tracked : ∀ uri n, after.tracked.get? uri = some n → s.tracked.get? uri = some n) :
    s.Proceeds st after where
  settings := settings
  later := later
  tracked uri n htracked := .inr ⟨tracked uri n htracked, steady.unopened uri, steady.unclosed uri⟩
  stored uri text report := absurd report (steady.unopened uri text)

/-- The opening of a document has its new worker tracked, and leaves those of other documents. -/
theorem proceeds_of_opened {st : Step} {after : Session}
    (report : s.report? st = some (.opened uri text)) (alike : after.Alike (s.opening uri text)) :
    s.Proceeds st after := by
  replace alike := alike.trans (alike_opening s uri text)
  have inserted (other : Uri) : after.tracked.get? other =
      if other = uri then some s.workers.length else s.tracked.get? other := by
    rw [alike.tracked]
    exact s.tracked.get?_insert uri other s.workers.length
  constructor
  case settings => exact alike.settings
  case later => exact Nat.le_of_eq (congrArg stageOf alike.lifecycle.symm)
  case tracked =>
    intro other n tracked
    rw [inserted] at tracked
    split at tracked
    · next same => exact .inl ⟨text, same ▸ report⟩
    · next different =>
        rw [report]
        exact .inr ⟨tracked, by simp [Ne.symm different], by simp⟩
  case stored =>
    intro other text' report'
    cases report.symm.trans report'
    rw [alike.documents]
    exact s.documents.get?_insert_self uri text

/-- The closing of a document lets go of its worker, and leaves those of all other documents. -/
theorem proceeds_of_closed {st : Step} {after : Session}
    (report : s.report? st = some (.closed uri)) (alike : after.Alike (s.closing uri)) :
    s.Proceeds st { after with documents := after.documents.erase uri } := by
  replace alike := alike.trans (alike_closing s uri)
  have erased (other : Uri) : after.tracked.get? other =
      if other = uri then none else s.tracked.get? other := by
    rw [alike.tracked]
    exact s.tracked.get?_erase uri other
  constructor
  case settings => exact alike.settings
  case later => exact Nat.le_of_eq (congrArg stageOf alike.lifecycle.symm)
  case tracked =>
    intro other n tracked
    rw [erased] at tracked
    split at tracked
    · cases tracked
    · next different =>
        rw [report]
        exact .inr ⟨tracked, by simp, by simp [Ne.symm different]⟩
  case stored =>
    intro other text' report'
    cases report.symm.trans report'

/-- Whatever a step comes to, settings stay, stages do not go back, and a worker is tracked from the
opening of its document to the next opening or the closing. -/
theorem step_proceeds (tidy : s.Tidy) (st : Step) : s.Proceeds st (s.step st).1 := by
  have unfolds := step_unfolds tidy.valid st
  generalize (s.step st).1 = after, (s.step st).2.1 = log at unfolds
  cases unfolds with
  | opens report _ _ plays => exact proceeds_of_opened report plays.alike
  | closes report _ plays => exact proceeds_of_closed report plays.alike
  | @stages uri text full stored steady hstored =>
      have alike : stored.settings = s.settings ∧ stored.lifecycle = s.lifecycle ∧
          stored.tracked = s.tracked := by
        rcases hstored with rfl | ⟨rfl, -⟩ <;> exact ⟨rfl, rfl, rfl⟩
      rw [stage_eq_amend]
      have amended := stored.alike_amend (stored.tracked.get? uri) (·.stageForced text full)
      have lifecycle := amended.lifecycle.trans alike.2.1
      refine proceeds_of_steady steady (amended.settings.trans alike.1)
        (Nat.le_of_eq (congrArg stageOf lifecycle.symm)) fun other n htracked => ?_
      rwa [amended.tracked, alike.2.2] at htracked
  | passes unreported _ plays =>
      have alike := plays.alike
      refine proceeds_of_steady (steady_of_unreported unreported) alike.settings
        (Nat.le_of_eq (congrArg stageOf alike.lifecycle.symm)) fun other n htracked => ?_
      rwa [alike.tracked] at htracked
  | quits unreported running _ plays =>
      have alike := plays.alike
      refine proceeds_of_steady (steady_of_unreported unreported) alike.settings ?_
        fun other n htracked => ?_
      · rw [alike.lifecycle, running]
        exact Nat.le_succ 1
      · rw [alike.tracked] at htracked
        cases htracked
  | keeps steady later => exact proceeds_of_steady steady rfl later fun _ _ => id
  | presents direct =>
      subst direct
      exact proceeds_of_steady (steady_of_unreported rfl) rfl (Nat.le_refl _) fun _ _ => id

/-- The settings of a session stay as they were when it began. -/
theorem run_settings (tidy : s.Tidy) (steps : List Step) :
    (s.run steps).1.settings = s.settings := by
  induction steps generalizing s with
  | nil => rfl
  | cons st steps ih => exact (ih (step_tidy tidy st)).trans (step_proceeds tidy st).settings

/-- A session never goes back to an earlier stage of its lifecycle. -/
theorem run_later (tidy : s.Tidy) (steps : List Step) :
    stageOf s.lifecycle ≤ stageOf (s.run steps).1.lifecycle := by
  induction steps generalizing s with
  | nil => exact Nat.le_refl _
  | cons st steps ih => exact Nat.le_trans (step_proceeds tidy st).later (ih (step_tidy tidy st))

/-- For every document there is at most one worker that nobody has told to stop, and it is the
tracked one. A worker that is no longer tracked has been told to stop. The tracked worker of a
document has the text that is stored for it. -/
theorem one_worker_per_document (settings : Settings) (host : Host) (shuffle : Shuffle)
    (past rest : List Step) :
    let earlier := ((fresh settings host shuffle).run past).1
    let s := ((fresh settings host shuffle).run (past ++ rest)).1
    (∀ (n n' : Nat) (worker worker' : Worker), s.workers[n]? = some worker →
      s.workers[n']? = some worker' → worker.watcher.stopping = false →
      worker'.watcher.stopping = false → worker.uri = worker'.uri → n = n') ∧
    s.Tidy ∧
    ∀ uri n, earlier.tracked.get? uri = some n → s.tracked.get? uri ≠ some n →
      ∃ worker : Worker, s.workers[n]? = some worker ∧ worker.watcher.stopping = true := by
  intro earlier s
  have reached : s = (earlier.run rest).1 := by simp only [s, earlier, run_append]
  have before : earlier.Tidy := run_tidy (tidy_fresh settings host shuffle) past
  have tidy : s.Tidy := run_tidy (tidy_fresh settings host shuffle) (past ++ rest)
  refine ⟨fun n n' worker worker' hworker hworker' going going' same => ?_, tidy,
    fun uri n tracked untracked => ?_⟩
  · have first := tidy.tracked hworker going
    rw [same, tidy.tracked hworker' going', Option.some.injEq] at first
    exact first.symm
  · obtain ⟨worker, -, hworker, rfl, -⟩ := before.serves tracked
    obtain ⟨worker', hworker', huri, -⟩ := run_retains before rest n worker hworker
    rw [← reached] at hworker'
    refine ⟨worker', hworker', ?_⟩
    cases stopping : worker'.watcher.stopping with
    | true => rfl
    | false =>
        rw [← huri] at untracked
        exact absurd (tidy.tracked hworker' stopping) untracked

end Session

end SyntaxWatch
