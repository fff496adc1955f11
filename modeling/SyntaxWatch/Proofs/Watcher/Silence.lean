import SyntaxWatch.Proofs.Watcher.Moves

/-!
# Silence after a stop

A watcher that was told to stop is hushed: it does not sleep, and every act that it can still do
takes it to its end. It shows nothing and begins no run from then on, whatever its owner does. This
module follows a bench from its first step, and says what is left of it once the stop has been
requested, before the first start, in a sleep, or while a run is underway.

## Main definitions

* `Watcher.Hushed`: the invariant of a watcher that was told to stop.
* `Bench.HeedsStops`: what a request to stop promises in a state that a sequence of steps leads to.

## Main results

* `Bench.run_heedsStops`: every sequence of steps leads to a state with these promises.
-/

namespace SyntaxWatch

/-! ### Hushed watchers -/

/-- Ends of failed or discarded cycles and nothing else: nothing is shown, and no run begins. -/
def Quiet (events : List Event) : Prop :=
  ∀ event ∈ events, event = .ended (.ok .discarded) ∨ ∃ fault, event = .ended (.error fault)

/-- It is quiet when nothing happens. -/
theorem quiet_nil : Quiet [] := nofun

/-- It stays quiet when nothing that breaks the silence is added. -/
theorem Quiet.append {events more : List Event} (first : Quiet events) (rest : Quiet more) :
    Quiet (events ++ more) :=
  List.forall_mem_append.mpr ⟨first, rest⟩

namespace Watcher

variable {c : Command} {h : Host} {w w' : Watcher} {events : List Event}

/-- A watcher that was told to stop, and does not sleep. -/
def Hushed (w : Watcher) : Prop :=
  w.stopping = true ∧ ∀ deadline, w.phase ≠ .sleeping deadline

/-- A watcher that is told to stop is hushed, since a stop puts an end to its sleep. -/
theorem hushed_halt (w : Watcher) : w.halt.Hushed := by
  unfold halt
  dsimp only
  split
  · exact ⟨rfl, nofun⟩
  · next awake => exact ⟨rfl, awake⟩

/-- After a round a watcher that was told to stop has ended. -/
theorem rest_phase_of_stopping (stopping : w.stopping = true) (now : Nat) :
    (w.rest now).phase = .terminated := by
  rcases w.rest_phase now with ⟨-, ended⟩ | ⟨going, -⟩
  · exact ended
  · rw [stopping] at going
    cases going

/-- The cycle of a watcher that was told to stop ends without a word, and so does the watcher. -/
theorem finish_of_stopping (stopping : w.stopping = true) (now : Nat) (job : Job)
    (check : Except CheckFault Transcript) :
    (w.finish now job check).1.stopping = true ∧
      (w.finish now job check).1.phase = .terminated ∧ Quiet (w.finish now job check).2 := by
  obtain ⟨result, memory, events, closes, hfinish⟩ := w.finish_closes now job check
  rw [hfinish]
  refine ⟨stopping, rest_phase_of_stopping (w := { w with memory }) stopping now, ?_⟩
  have unwanted : (w.trialOf job check).unwanted = true := stopping
  intro event hevent
  cases closes with
  | failed => exact .inr ⟨_, List.mem_singleton.mp hevent⟩
  | discarded => exact .inl (List.mem_singleton.mp hevent)
  | sameOutput _ wanted | shown _ wanted =>
      rw [unwanted] at wanted
      cases wanted

/-- No round leads back to the state before the first start. -/
theorem Turns.phase_ne_idle (turns : Turns c h w w' events) : w'.phase ≠ .idle := by
  cases turns with
  | stops => nofun
  | rests => exact rest_phase_ne (by nofun) (by nofun) _ _
  | begins _ _ begins =>
      cases begins with
      | knows | fails | passes => exact rest_phase_ne (by nofun) (by nofun) _ _
      | waits => nofun

/-- The first round after a request to stop is the end. -/
theorem Turns.of_stopping (turns : Turns c h w w' events) (stopping : w.stopping = true) :
    w' = { w with phase := .terminated } ∧ events = [] := by
  cases turns with
  | stops => exact ⟨rfl, rfl⟩
  | rests going | begins going =>
      rw [stopping] at going
      cases going

/-- Nothing that a hushed watcher can do breaks the silence. -/
theorem Acts.quiet (acts : Acts c h w w' events) (hushed : w.Hushed) :
    w'.Hushed ∧ Quiet events := by
  obtain ⟨stopping, awake⟩ := hushed
  cases acts with
  | waits => exact ⟨⟨stopping, awake⟩, quiet_nil⟩
  | turns due turns =>
      obtain ⟨rfl, rfl⟩ := turns.of_stopping stopping
      exact ⟨⟨stopping, nofun⟩, quiet_nil⟩
  | @settles job check hphase yields =>
      obtain ⟨still, ended, quiet⟩ := finish_of_stopping stopping h.clock job check
      exact ⟨⟨still, fun deadline => by rw [ended]; nofun⟩, quiet⟩

/-- A watcher that has ended does nothing. -/
theorem Acts.of_terminated (acts : Acts c h w w' events) (ended : w.phase = .terminated) :
    w' = w ∧ events = [] := by
  cases acts with
  | waits => exact ⟨rfl, rfl⟩
  | turns due turns =>
      rw [ended] at due
      rcases due with idle | ⟨deadline, asleep⟩
      · cases idle
      · cases asleep
  | settles hphase yields =>
      rw [ended] at hphase
      cases hphase

end Watcher

namespace Bench

/-! ### Steps of a bench that was told to stop -/

/-- A stop hushes a watcher, and nothing that its owner does makes it speak again. -/
theorem hushed_tune {w : Watcher} {s : Step} (hushed : w.Hushed ∨ s = .stop) :
    (s.tune w).Hushed := by
  rcases hushed with ⟨stopping, awake⟩ | rfl
  · refine ⟨(s.tunes w).stopping.mpr (.inl stopping), fun deadline => ?_⟩
    rw [s.tune_phase rfl awake]
    exact awake deadline
  · exact w.hushed_halt

/-- From the step of a stop on, nothing is shown and no run begins. -/
theorem step_quiet {b : Bench} {s : Step} (hushed : b.watcher.Hushed ∨ s = .stop) :
    (b.step s).1.watcher.Hushed ∧ Quiet (b.step s).2.1 := by
  obtain ⟨h, -, acts⟩ := b.step_acts s
  exact acts.quiet (hushed_tune hushed)

/-- A hushed watcher breaks the silence in no run. -/
theorem run_quiet {b : Bench} (hushed : b.watcher.Hushed) (steps : List Step) :
    Quiet (b.run steps).2 :=
  (run_safe (P := fun b => b.watcher.Hushed) (fun _ _ hushed => (step_quiet (.inl hushed)).1)
    (fun _ _ hushed => (step_quiet (.inl hushed)).2) b steps hushed).2

/-- A watcher that has ended stays ended, and does nothing. -/
theorem step_of_terminated {b : Bench} (ended : b.watcher.phase = .terminated) (s : Step) :
    (b.step s).1.watcher.phase = .terminated ∧ (b.step s).2.1 = [] := by
  obtain ⟨h, -, acts⟩ := b.step_acts s
  have tuned := s.tune_phase ended nofun
  obtain ⟨hwatcher, hevents⟩ := acts.of_terminated tuned
  exact ⟨by rw [hwatcher, tuned], hevents⟩

/-- A watcher that has ended does nothing more, whatever the steps. -/
theorem run_of_terminated {b : Bench} (ended : b.watcher.phase = .terminated)
    (steps : List Step) :
    (b.run steps).1.watcher.phase = .terminated ∧ (b.run steps).2 = [] := by
  have emits (b : Bench) (s : Step) (ended : b.watcher.phase = .terminated) :
      ∀ event ∈ (b.step s).2.1, False := by
    rw [(step_of_terminated ended s).2]
    exact fun _ => List.not_mem_nil
  obtain ⟨still, nothing⟩ := run_safe (P := fun b => b.watcher.phase = .terminated)
    (fun b s ended => (step_of_terminated ended s).1) emits b steps ended
  exact ⟨still, List.eq_nil_iff_forall_not_mem.mpr nothing⟩

/-- A stop ends a sleep, and with it the watcher. -/
theorem stop_of_asleep {b : Bench} {deadline : Nat}
    (asleep : b.watcher.phase = .sleeping deadline) :
    (b.step .stop).1.watcher.phase = .terminated := by
  have free : b.watcher.detains = false := by simp [Watcher.detains, asleep]
  simp [step, stop, free, Watcher.halt, asleep]

/-! ### What has happened so far -/

/-- What the state of a bench says about the steps that led to it. -/
structure Tracks (past : List Step) (b : Bench) : Prop where
  idle : b.watcher.phase = .idle ↔ .start ∉ past
  hushed : .stop ∈ past → b.watcher.Hushed

/-- A watcher that has not been started is as it was before the first step, and only a start changes
that. -/
theorem step_phase_eq_idle_iff (b : Bench) (s : Step) :
    (b.step s).1.watcher.phase = .idle ↔ b.watcher.phase = .idle ∧ s ≠ .start := by
  constructor
  · intro still
    obtain ⟨h, -, acts⟩ := b.step_acts s
    have idle : b.watcher.phase = .idle := by
      generalize (b.step s).1.watcher = after, (b.step s).2.1 = events at acts still
      cases acts with
      | waits =>
          rcases (s.tunes b.watcher).phase with same | ⟨-, ended⟩
          · exact same.symm.trans still
          · rw [ended] at still
            cases still
      | turns _ turns => exact absurd still turns.phase_ne_idle
      | settles => exact absurd still (Watcher.rest_phase_ne (by nofun) (by nofun) _ _)
    refine ⟨idle, ?_⟩
    rintro rfl
    exact (start_of_idle idle).phase_ne_idle still
  · rintro ⟨idle, unstarted⟩
    rw [(step_of_idle idle unstarted).1]
    exact s.tune_phase idle nofun

/-- A step goes into the account of the steps so far. -/
theorem Tracks.step {past : List Step} {b : Bench} (tracks : Tracks past b) (s : Step) :
    Tracks (past ++ [s]) (b.step s).1 where
  idle := by
    rw [step_phase_eq_idle_iff, tracks.idle]
    simp [eq_comm]
  hushed := by
    intro told
    refine (step_quiet ?_).1
    rcases List.mem_append.mp told with before | now
    · exact .inl (tracks.hushed before)
    · exact .inr (List.mem_singleton.mp now).symm

/-- So does every run. -/
theorem Tracks.run {past : List Step} {b : Bench} (tracks : Tracks past b) (steps : List Step) :
    Tracks (past ++ steps) (b.run steps).1 := by
  induction steps generalizing past b with
  | nil =>
      rw [List.append_nil]
      exact tracks
  | cons s steps ih =>
      rw [run_cons, List.append_cons]
      exact ih (tracks.step s)

/-- Before the first step there is nothing to account for. -/
theorem tracks_fresh (host : Host) (command : Command) (grace interval cap : Nat) :
    Tracks [] (fresh host command grace interval cap) where
  idle := by simp [fresh]
  hushed := nofun

/-! ### The promises of a stop -/

/-- What a request to stop promises in a state of a bench, given the steps that led to it. -/
structure HeedsStops (past : List Step) (b : Bench) : Prop where
  /-- From the step of the request on, nothing is shown and no run begins. -/
  silent : ∀ steps, Quiet (b.run (.stop :: steps)).2
  /-- That stays so in every state after a request. -/
  still : .stop ∈ past → ∀ steps, Quiet (b.run steps).2
  /-- The end is final. -/
  final : b.watcher.phase = .terminated →
    ∀ steps, (b.run steps).1.watcher.phase = .terminated ∧ (b.run steps).2 = []
  /-- A watcher that has been started, and waits for no run, ends at once. -/
  atOnce : .start ∈ past → (∀ job, b.watcher.phase ≠ .validating job) →
    (b.step .stop).1.watcher.phase = .terminated
  /-- A watcher that waits for a run when it is told to stop, or was told to stop before, ends in
  the step in which the run returns or takes too long, and waits until then. -/
  onReturn : ∀ job s, b.watcher.phase = .validating job → .stop ∈ past ++ [s] →
    (b.Returns job.flight s → (b.step s).1.watcher.phase = .terminated) ∧
      (¬b.Returns job.flight s →
        (b.step s).1.watcher.phase = .validating job ∧ (b.step s).2.1 = [])
  /-- A first start after a request is the end, without a cycle. -/
  unstarted : .stop ∈ past → .start ∉ past →
    (b.step .start).1.watcher.phase = .terminated ∧ (b.step .start).2.1 = []

/-- Whatever the owner of a watcher does, and in whatever order, its requests to stop are heeded: in
every state that steps lead to, the promises of a stop hold. -/
theorem run_heedsStops (host : Host) (command : Command) (grace interval cap : Nat)
    (past : List Step) :
    HeedsStops past ((fresh host command grace interval cap).run past).1 := by
  have tracks : Tracks past ((fresh host command grace interval cap).run past).1 :=
    (tracks_fresh host command grace interval cap).run past
  generalize ((fresh host command grace interval cap).run past).1 = b at tracks
  constructor
  case silent =>
    intro steps
    obtain ⟨hushed, quiet⟩ := step_quiet (b := b) (.inr rfl)
    exact quiet.append (run_quiet hushed steps)
  case still =>
    intro told steps
    exact run_quiet (tracks.hushed told) steps
  case final => exact run_of_terminated
  case atOnce =>
    intro started free
    cases hphase : b.watcher.phase with
    | idle => exact absurd started (tracks.idle.mp hphase)
    | validating job => exact absurd hphase (free job)
    | sleeping deadline => exact stop_of_asleep hphase
    | terminated => exact (step_of_terminated hphase .stop).1
  case onReturn =>
    intro job s hphase told
    have stopping : (s.tune b.watcher).stopping = true := by
      rw [(s.tunes b.watcher).stopping]
      rcases List.mem_append.mp told with before | now
      · exact .inl (tracks.hushed before).1
      · exact .inr (List.mem_singleton.mp now).symm
    rcases step_of_validating hphase s with
      ⟨underway, hwatcher, hevents⟩ | ⟨finished, h, check, -, hwatcher, -⟩
    · refine ⟨fun finished => absurd finished underway, fun _ => ⟨?_, hevents⟩⟩
      rw [hwatcher]
      exact s.tune_phase hphase nofun
    · refine ⟨fun _ => ?_, fun underway => absurd finished underway⟩
      rw [hwatcher]
      exact (Watcher.finish_of_stopping stopping h.clock job check).2.1
  case unstarted =>
    intro told fresh
    have turns := start_of_idle (tracks.idle.mpr fresh)
    obtain ⟨hwatcher, hevents⟩ := turns.of_stopping (tracks.hushed told).1
    exact ⟨by rw [hwatcher], hevents⟩

end Bench

end SyntaxWatch
