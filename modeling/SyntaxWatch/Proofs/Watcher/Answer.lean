import SyntaxWatch.Proofs.Watcher.Silence

/-!
# What the answer to a stop is worth

Whoever tells a watcher to stop is told whether it has ended. The answer is yes for one of three
reasons: nobody can wait for the watcher, it had ended before, or it ends within the grace period.
The first reason is read from a flag that the start raises and a stop takes down. So it says that
the watcher was never started, or that it was told to stop before; and the latter does not mean that
it has ended. A second stop is answered with yes while the run of the watcher is still underway.

## Main definitions

* `Watcher.Attended`: what the flag says in the states that can be reached.
* `Bench.AnswersStops`: when a stop is answered with yes, and when this is wrong.

## Main results

* `Bench.run_answersStops`: every sequence of steps leads to a state with these answers.
* `Bench.stop_affirmed_underway`: a second stop during a run is answered with yes.
-/

namespace SyntaxWatch

namespace Watcher

variable {c : Command} {h : Host} {w w' : Watcher} {events : List Event}

/-- The phase of a watcher, the request to stop, and whether the watcher can be waited for go
together. It can be waited for from its start until it is told to stop. Afterwards it can only when
it was told to stop before its start, and then it has ended. -/
structure Attended (w : Watcher) : Prop where
  idle : w.phase = .idle → w.awaited = false
  going : w.phase ≠ .idle → w.stopping = false → w.awaited = true
  told : w.stopping = true → w.awaited = true → w.phase = .terminated
  ended : w.phase = .terminated → w.stopping = true

/-- Whether a watcher is attended shows in its phase, the request to stop and whether it can be
waited for. -/
theorem Attended.congr (attended : w.Attended) (phase : w'.phase = w.phase)
    (stopping : w'.stopping = w.stopping) (awaited : w'.awaited = w.awaited) : w'.Attended := by
  constructor
  · rw [phase, awaited]
    exact attended.idle
  · rw [phase, stopping, awaited]
    exact attended.going
  · rw [phase, stopping, awaited]
    exact attended.told
  · rw [phase, stopping]
    exact attended.ended

/-- A stop leaves nobody who could wait for the watcher. -/
theorem attended_halt (w : Watcher) : w.halt.Attended := by
  unfold halt
  dsimp only
  split
  · exact ⟨nofun, nofun, nofun, fun _ => rfl⟩
  · exact ⟨fun _ => rfl, nofun, nofun, fun _ => rfl⟩

/-- An act leaves a watcher as it is, or takes it to its end when it was told to stop, and on when
it was not. -/
theorem Acts.moves (acts : Acts c h w w' events) :
    w'.awaited = w.awaited ∧
      (w' = w ∨ w'.phase ≠ .idle ∧ (w'.phase = .terminated ↔ w.stopping = true)) := by
  have rests (v : Watcher) (now : Nat) (same : v.stopping = w.stopping) :
      (v.rest now).phase ≠ .idle ∧ ((v.rest now).phase = .terminated ↔ w.stopping = true) := by
    rcases v.rest_phase now with ⟨stopping, ended⟩ | ⟨going, deadline, asleep⟩
    · simp [ended, ← same, stopping]
    · simp [asleep, ← same, going]
  have awaited : w.heed.awaited = w.awaited := by
    unfold heed
    split <;> rfl
  have stopping := w.heed_frame.2.2
  cases acts with
  | waits => exact ⟨rfl, .inl rfl⟩
  | settles => exact ⟨rfl, .inr (rests _ _ rfl)⟩
  | turns due turns =>
      cases turns with
      | stops stopping => exact ⟨rfl, .inr ⟨nofun, by simp [stopping]⟩⟩
      | rests => exact ⟨awaited, .inr (rests _ _ stopping)⟩
      | begins going here begins =>
          cases begins with
          | knows | fails | passes => exact ⟨awaited, .inr (rests _ _ stopping)⟩
          | waits => exact ⟨awaited, .inr ⟨nofun, by simp [going]⟩⟩

/-- A watcher that has been started remains attended whatever it does. -/
theorem Acts.attended (acts : Acts c h w w' events)
    (awaited : w.stopping = false → w.awaited = true) (same : w' = w → w.Attended) :
    w'.Attended := by
  have hstopping := acts.frame.2.2
  obtain ⟨hawaited, rfl | ⟨running, ended⟩⟩ := acts.moves
  · exact same rfl
  · rw [← hstopping] at awaited ended
    rw [← hawaited] at awaited
    exact ⟨fun idle => absurd idle running, fun _ => awaited, fun told _ => ended.mpr told,
      ended.mp⟩

end Watcher

namespace Bench

variable {b : Bench} {s : Step} {past : List Step}

/-! ### Whether a watcher can be waited for -/

/-- Tuning, but for the first start, leaves a watcher attended. -/
theorem Step.tune_attended {w : Watcher} (attended : w.Attended)
    (again : s = .start → w.phase ≠ .idle) : (s.tune w).Attended := by
  cases s with
  | start =>
      rw [tune, if_neg (again rfl)]
      exact attended
  | stop => exact w.attended_halt
  | stageForced text full => cases full <;> exact attended.congr rfl rfl rfl
  | setCap cap =>
      rw [tune, Watcher.setCap]
      split
      · exact attended
      · exact attended.congr rfl rfl rfl
  | _ => exact attended.congr rfl rfl rfl

/-- Every step leaves a watcher attended, the first start among them. -/
theorem step_attended (attended : b.watcher.Attended) (s : Step) :
    (b.step s).1.watcher.Attended := by
  by_cases idle : b.watcher.phase = .idle
  · by_cases first : s = .start
    · subst first
      have turns := start_of_idle idle
      have acts : Watcher.Acts b.command b.host { b.watcher with awaited := true }
        (b.step .start).1.watcher (b.step .start).2.1 := .turns (.inl idle) turns
      refine acts.attended (fun _ => rfl) fun same => absurd ?_ turns.phase_ne_idle
      rw [same]
      exact idle
    · rw [(step_of_idle idle first).1]
      exact s.tune_attended attended fun again => absurd again first
  · obtain ⟨h, -, acts⟩ := b.step_acts s
    have tuned := s.tune_attended attended fun _ => idle
    refine acts.attended (tuned.going ?_) fun _ => tuned
    rcases (s.tunes b.watcher).phase with same | ⟨-, ended⟩
    · rwa [same]
    · rw [ended]
      nofun

/-- A watcher has been told to stop exactly when one of the steps so far was a stop. -/
theorem step_stopping_iff (b : Bench) (s : Step) :
    (b.step s).1.watcher.stopping = true ↔ b.watcher.stopping = true ∨ s = .stop := by
  obtain ⟨h, -, acts⟩ := b.step_acts s
  rw [acts.frame.2.2, (s.tunes b.watcher).stopping]

/-- Every run leaves a watcher attended, and it has been told to stop exactly when one of the steps
was a stop. -/
theorem run_attended (attended : b.watcher.Attended) (steps : List Step) :
    (b.run steps).1.watcher.Attended ∧
      ((b.run steps).1.watcher.stopping = true ↔
        b.watcher.stopping = true ∨ .stop ∈ steps) := by
  induction steps generalizing b with
  | nil => simpa [run] using attended
  | cons s steps ih =>
      obtain ⟨last, stopping⟩ := ih (step_attended attended s)
      refine ⟨last, ?_⟩
      rw [run_cons, stopping, step_stopping_iff, List.mem_cons, or_assoc, eq_comm (a := s)]

/-! ### The answer -/

/-- The answer to a stop, from the three sources that it has. -/
theorem stop_affirmed_iff (b : Bench) :
    (b.step .stop).2.2 = some true ↔ b.watcher.awaited = false ∨ b.watcher.phase = .terminated ∨
      0 < b.grace ∧ (b.step .stop).1.watcher.phase = .terminated := by
  rw [step]
  simp [Watcher.acknowledged, Watcher.hasTerminated, stop, or_assoc]

/-- A watcher that a stop does not end has not been started, or waits for its run. -/
theorem validating_of_stop (started : b.watcher.phase ≠ .idle)
    (running : (b.step .stop).1.watcher.phase ≠ .terminated) :
    ∃ job, b.watcher.phase = .validating job := by
  cases hphase : b.watcher.phase with
  | idle => exact absurd hphase started
  | validating job => exact ⟨job, rfl⟩
  | sleeping deadline => exact absurd (stop_of_asleep hphase) running
  | terminated => exact absurd (step_of_terminated hphase .stop).1 running

/-- A stop does not wait for a watcher that cannot be waited for. -/
theorem stop_of_unawaited {job : Job} (hphase : b.watcher.phase = .validating job)
    (unawaited : b.watcher.awaited = false) :
    (b.step .stop).1.watcher.phase = .validating job := by
  rcases step_of_validating hphase .stop with ⟨-, hwatcher, -⟩ | ⟨⟨awaited, -⟩, -⟩
  · rw [hwatcher]
    exact Step.tune_phase hphase nofun .stop
  · cases unawaited.symm.trans awaited

/-- The answer to a stop, from the steps so far. That nobody can wait for the watcher means that it
was never started, or that it was told to stop before. -/
theorem affirmed_iff_of_attended (attended : b.watcher.Attended) (tracks : Tracks past b)
    (stopping : b.watcher.stopping = true ↔ .stop ∈ past) :
    (b.step .stop).2.2 = some true ↔ .start ∉ past ∨ .stop ∈ past ∨
      0 < b.grace ∧ (b.step .stop).1.watcher.phase = .terminated := by
  rw [stop_affirmed_iff, ← tracks.idle, ← stopping]
  constructor
  · rintro (unawaited | ended | inTime)
    · by_cases idle : b.watcher.phase = .idle
      · exact .inl idle
      · refine .inr (.inl (eq_true_of_ne_false fun going => ?_))
        cases unawaited.symm.trans (attended.going idle going)
    · exact .inr (.inl (attended.ended ended))
    · exact .inr (.inr inTime)
  · rintro (idle | told | inTime)
    · exact .inl (attended.idle idle)
    · cases awaited : b.watcher.awaited with
      | false => exact .inl rfl
      | true => exact .inr (.inl (attended.told told awaited))
    · exact .inr (.inr inTime)

/-- What a stop is answered in a state of a bench, given the steps that led to it. -/
structure AnswersStops (past : List Step) (b : Bench) : Prop where
  /-- The answer is yes exactly when the watcher was never started, was told to stop before, or ends
  in the step of the stop and is given time for it. -/
  yes : (b.step .stop).2.2 = some true ↔ .start ∉ past ∨ .stop ∈ past ∨
    0 < b.grace ∧ (b.step .stop).1.watcher.phase = .terminated
  /-- The answer is yes for a watcher that was started and has not ended exactly when the watcher
  was told to stop before, and still waits for its run. -/
  wrong : (b.step .stop).2.2 = some true ∧ .start ∈ past ∧
      (b.step .stop).1.watcher.phase ≠ .terminated ↔
    .stop ∈ past ∧ ∃ job, b.watcher.phase = .validating job

/-- Whatever the owner of a watcher does, and in whatever order, a first stop is answered with yes
only when the watcher was never started or has ended. A later stop is always answered with yes, and
this is wrong as long as a run is underway. -/
theorem run_answersStops (host : Host) (command : Command) (grace interval cap : Nat)
    (past : List Step) :
    AnswersStops past ((fresh host command grace interval cap).run past).1 := by
  have tracks : Tracks past ((fresh host command grace interval cap).run past).1 :=
    (tracks_fresh host command grace interval cap).run past
  obtain ⟨attended, stopping⟩ := run_attended (b := fresh host command grace interval cap)
    ⟨fun _ => rfl, fun started => absurd rfl started, nofun, nofun⟩ past
  replace stopping := stopping.trans (or_iff_right (by nofun))
  generalize ((fresh host command grace interval cap).run past).1 = b at tracks attended stopping
  have yes := affirmed_iff_of_attended attended tracks stopping
  refine ⟨yes, ?_, ?_⟩
  · rintro ⟨affirmed, started, running⟩
    refine ⟨?_, validating_of_stop (fun idle => tracks.idle.mp idle started) running⟩
    rcases yes.mp affirmed with unstarted | told | ⟨-, ended⟩
    · exact absurd started unstarted
    · exact told
    · exact absurd ended running
  · rintro ⟨told, job, hphase⟩
    have unawaited : b.watcher.awaited = false := by
      refine eq_false_of_ne_true fun awaited => ?_
      cases hphase.symm.trans (attended.told (stopping.mpr told) awaited)
    refine ⟨yes.mpr (.inr (.inl told)), ?_, ?_⟩
    · refine Classical.byContradiction fun unstarted => ?_
      cases hphase.symm.trans (tracks.idle.mpr unstarted)
    · rw [stop_of_unawaited hphase unawaited]
      nofun

/-- A watcher that waits for a checker that the gate holds back is told to stop twice. The first
stop is answered with no and the second with yes, and after either of them the run is underway. -/
theorem stop_affirmed_underway :
    let host : Host := {
      scratch := { location := "/tmp".toList, next := 1, lt_next := List.forall_mem_nil _ }
      programs := fun _ => .studied
      gateClosed := true }
    let b := ((fresh host {} 100 50 10).run [.stage "x\n".toList, .start]).1
    (b.step .stop).2.2 = some false ∧ ((b.step .stop).1.step .stop).2.2 = some true ∧
      ∃ job, (b.step .stop).1.watcher.phase = .validating job ∧
        ((b.step .stop).1.step .stop).1.watcher.phase = .validating job :=
  ⟨rfl, rfl, _, rfl, rfl⟩

end Bench

end SyntaxWatch
