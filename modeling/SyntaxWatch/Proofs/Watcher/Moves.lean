import SyntaxWatch.Bench
import SyntaxWatch.Proofs.Cycle.History

/-!
# What a watcher can do in one step

A step on a bench has two parts. First the owner, or the world, does something: a knob is turned, a
stop is requested, time passes. Then the watcher does what it can do now: nothing, one round of
its loop (`Turns`), or the end of a cycle whose run is over (`Acts`). This module says once what
each of these can come to, and everything about runs of a bench is derived from that.

## Main definitions

* `Command.Over`, `Command.Yields`: when a run is over, and what it can have yielded.
* `Bench.Step.tune`: what a step does to the watcher before the watcher itself does anything.
* `Watcher.Turns`, `Watcher.Acts`: what the watcher then does.
* `Bench.fresh`: a bench before its first step.

## Main results

* `Command.over_elapse_iff`: a run is over when the time that remained for it has passed.
* `Command.over_of_slow`: no run takes much longer than it may.
* `Watcher.over_wait_iff`, `Watcher.not_over_of_lt_wait`: whoever stops a watcher waits long enough,
  and not longer.
* `Watcher.turns`: what a round of the loop comes to.
* `Bench.Step.tunes`: what tuning leaves as it was.
* `Bench.step_acts`: every step is tuning followed by an act.
* `Bench.step_of_validating`: which steps end a cycle that waits for its run.
* `Bench.run_safe`: from steps to runs.
-/

namespace SyntaxWatch

/-! ### Runs of the checker -/

/-- Two hosts on which a run of a program yields the same transcript: they differ at most in their
clocks, their gates, the files in their scratch directories, and the runs whose interpreters they
kill. -/
structure Host.Alike (h h' : Host) : Prop where
  location : h.scratch.location = h'.scratch.location
  programs : h.programs = h'.programs
  checker : h.checker = h'.checker

/-- A host is like itself. -/
theorem Host.Alike.refl (h : Host) : h.Alike h := ⟨rfl, rfl, rfl⟩

/-- Likeness passes from host to host, as from step to step of a run. -/
theorem Host.Alike.trans {h₁ h₂ h₃ : Host} (first : h₁.Alike h₂) (second : h₂.Alike h₃) :
    h₁.Alike h₃ where
  location := first.location.trans second.location
  programs := first.programs.trans second.programs
  checker := first.checker.trans second.checker

/-- The passing of time does not matter for what a run yields. -/
theorem Host.alike_elapse (h : Host) (ms : Nat) : (h.elapse ms).Alike h := ⟨rfl, rfl, rfl⟩

/-- Neither does the killing of an interpreter, for no other run and not for its own, which yields
nothing. -/
theorem Host.alike_condemn (h : Host) (number : Nat) : (h.condemn number).Alike h :=
  ⟨rfl, rfl, rfl⟩

/-- The gate decides when a run ends, and not what it yields. -/
theorem Host.alike_gate (h : Host) (closed : Bool) :
    ({ h with gateClosed := closed } : Host).Alike h := ⟨rfl, rfl, rfl⟩

/-- A run is over when its interpreter has ended in time, or took more time than it may and has been
killed or given up. -/
def Command.Over (c : Command) (h : Host) (flight : Flight) : Prop :=
  (∃ limit, c.limit = some limit ∧ c.isLate h flight limit = true ∧
      flight.since + limit + (c.kill h).1 ≤ h.clock) ∨
    (∀ limit, c.limit = some limit → c.isLate h flight limit = false) ∧
      h.hasEnded c.program flight.since = true

/-- What a run can have yielded once it is over: a transcript or the fault of its stream, or that
it took too long. -/
inductive Command.Yields (c : Command) (h : Host) (flight : Flight) :
    Except CheckFault Transcript → Prop
  | landed : Yields c h flight (c.transcript h flight)
  | overdue (limit : Nat) : Yields c h flight (.error (.overdue limit))

namespace Command

variable {c : Command} {h h' : Host}

/-- Exactly the runs that are not over are underway, or have their interpreters killed. -/
theorem progress_iff_not_over (c : Command) (h : Host) (flight : Flight) :
    c.progress h flight = .underway ∨ c.progress h flight = .dying ↔ ¬c.Over h flight := by
  unfold progress Over
  cases c.limit with
  | none => cases h.hasEnded c.program flight.since <;> simp
  | some limit =>
      cases late : c.isLate h flight limit with
      | true =>
          by_cases killed : flight.since + limit + (c.kill h).1 ≤ h.clock <;> simp [late, killed]
      | false => cases h.hasEnded c.program flight.since <;> simp [late]

/-- The two ways to be slow: to be held back, and to take as much time as there is, or more. -/
theorem isSlow_iff (c : Command) (h : Host) (limit : Nat) : c.isSlow h limit = true ↔
    h.holdsBack c.program = true ∨ limit ≤ (h.behaviour c.program).duration := by
  rw [isSlow, Bool.or_eq_true, decide_eq_true_iff]

/-- A run that will not have kept its limit is over once its interpreter has been killed or given
up: it cannot end in time any more. -/
theorem over_elapse_of_exceeded {flight : Flight} {limit : Nat}
    (exceeded : c.exceeded? h flight = some limit) (ms : Nat) :
    c.Over (h.elapse ms) flight ↔ flight.since + limit + (c.kill h).1 ≤ h.clock + ms := by
  obtain ⟨hlimit, doomed⟩ := Option.filter_eq_some_iff.mp exceeded
  rw [Bool.or_eq_true] at doomed
  constructor
  · rintro (⟨limit', hlimit', -, done⟩ | ⟨kept, ended⟩)
    · obtain rfl := Option.some.inj (hlimit.symm.trans hlimit')
      exact done
    · have kept := kept limit hlimit
      rw [isLate, Bool.or_eq_false_iff, Bool.and_eq_false_iff, decide_eq_false_iff_not] at kept
      rw [Host.hasEnded, Bool.and_eq_true, decide_eq_true_iff, Bool.not_eq_true'] at ended
      obtain ⟨spared, early⟩ := kept
      have slow : c.isSlow h limit = true :=
        doomed.resolve_left fun condemned => Bool.noConfusion (condemned.symm.trans spared)
      have early : ¬flight.since + limit ≤ h.clock + ms :=
        early.resolve_right fun quick => Bool.noConfusion (slow.symm.trans quick)
      obtain held | long := (c.isSlow_iff h limit).mp slow
      · exact Bool.noConfusion (held.symm.trans ended.1)
      · exact absurd (Nat.le_trans (Nat.add_le_add_left long _) ended.2) early
  · intro done
    refine .inl ⟨limit, hlimit, ?_, done⟩
    have late : flight.since + limit ≤ h.clock + ms := Nat.le_trans (Nat.le_add_right _ _) done
    rw [isLate, Bool.or_eq_true, Bool.and_eq_true, decide_eq_true_iff]
    exact doomed.imp_right fun slow => ⟨late, slow⟩

/-- A run that will keep its limit is over once its interpreter has ended. -/
theorem over_elapse_of_kept {flight : Flight} (kept : c.exceeded? h flight = none) (ms : Nat) :
    c.Over (h.elapse ms) flight ↔ (h.elapse ms).hasEnded c.program flight.since = true := by
  have prompt (limit : Nat) (hlimit : c.limit = some limit) :
      c.isLate (h.elapse ms) flight limit = false := by
    have kept := Option.filter_eq_none_iff.mp kept limit hlimit
    rw [Bool.not_eq_true, Bool.or_eq_false_iff] at kept
    rw [isLate, Bool.or_eq_false_iff, Bool.and_eq_false_iff]
    exact ⟨kept.1, .inr kept.2⟩
  refine ⟨?_, fun ended => .inr ⟨prompt, ended⟩⟩
  rintro (⟨limit, hlimit, late, -⟩ | ⟨-, ended⟩)
  · rw [prompt limit hlimit] at late
    cases late
  · exact ended

/-- A run that takes too much time is over when, after its limit, the longest forced end has passed,
whatever its interpreter does. -/
theorem over_of_slow {flight : Flight} {limit : Nat} (hlimit : c.limit = some limit)
    (slow : c.isSlow h limit = true)
    (past : flight.since + limit + killInterval * (killAttempts - 1) ≤ h.clock) :
    c.Over h flight := by
  have bounded := (c.kill_time_le h).1
  have late : flight.since + limit ≤ h.clock := Nat.le_trans (Nat.le_add_right _ _) past
  refine .inl ⟨limit, hlimit, ?_, Nat.le_trans (Nat.add_le_add_left bounded _) past⟩
  rw [isLate, slow, Bool.and_true, decide_eq_true late, Bool.or_true]

/-- While nothing but time passes, a run is over when the time that remained has passed. -/
theorem over_elapse_iff (c : Command) (h : Host) (flight : Flight) (ms : Nat) :
    c.Over (h.elapse ms) flight ↔ ∃ rest, c.remaining? h flight = some rest ∧ rest ≤ ms := by
  rw [remaining?]
  cases exceeded : c.exceeded? h flight with
  | some limit =>
      rw [over_elapse_of_exceeded exceeded]
      simp [Nat.add_comm ms]
  | none =>
      have ended : (h.elapse ms).hasEnded c.program flight.since = true ↔
          h.holdsBack c.program = false ∧
            flight.since + (h.behaviour c.program).duration ≤ h.clock + ms := by
        rw [Host.hasEnded, Bool.and_eq_true, decide_eq_true_iff, Bool.not_eq_true']
        exact Iff.rfl
      rw [over_elapse_of_kept exceeded, ended]
      cases h.holdsBack c.program <;> simp [Nat.add_comm ms]

/-- What a run yields does not depend on the clock, the gate, or the files of others. -/
theorem transcript_congr (alike : h.Alike h') (flight : Flight) :
    c.transcript h flight = c.transcript h' flight := by
  simp only [transcript, Host.behaviour, Scratch.path, alike.location, alike.programs,
    alike.checker]

/-- A run yields the same on hosts that are alike. -/
theorem Yields.congr (alike : h.Alike h') {flight : Flight}
    {check : Except CheckFault Transcript} (yields : c.Yields h flight check) :
    c.Yields h' flight check := by
  cases yields with
  | landed =>
      rw [transcript_congr alike]
      exact .landed
  | overdue limit => exact .overdue limit

/-- A run that yields a transcript yields the transcript of its host. -/
theorem Yields.eq_transcript {flight : Flight} {transcript : Transcript}
    (yields : c.Yields h flight (.ok transcript)) : c.transcript h flight = .ok transcript := by
  generalize hcheck : Except.ok transcript = check at yields
  cases yields with
  | landed => rw [← hcheck]
  | overdue limit => cases hcheck

/-- Starting a run changes nothing that matters for what it yields, takes no time, and keeps the
text. -/
theorem launch_alike (c : Command) (h : Host) (text : Text) :
    (c.launch h text).1.Alike h ∧ (c.launch h text).1.clock = h.clock ∧
      ∀ flight, (c.launch h text).2 = .ok flight → flight.text = text := by
  have location := h.scratch.location_write text
  unfold launch
  generalize h.scratch.write text = result at location
  obtain ⟨scratch, cause | number⟩ := result
  · exact ⟨⟨location, rfl, rfl⟩, rfl, nofun⟩
  · dsimp only
    split
    · exact ⟨⟨location, rfl, rfl⟩, rfl, nofun⟩
    · refine ⟨⟨location, rfl, rfl⟩, rfl, ?_⟩
      rintro flight ⟨⟩
      rfl

end Command

namespace Watcher

variable {c : Command} {h : Host} {w w' : Watcher} {events : List Event}

/-! ### Ends of cycles -/

/-- After a round a watcher has ended, when it was told to stop, or sleeps. -/
theorem rest_phase (w : Watcher) (now : Nat) :
    (w.stopping = true ∧ (w.rest now).phase = .terminated) ∨
      (w.stopping = false ∧ ∃ deadline, (w.rest now).phase = .sleeping deadline) := by
  unfold rest
  cases w.stopping with
  | true => exact .inl ⟨rfl, rfl⟩
  | false => exact .inr ⟨rfl, _, rfl⟩

/-- After a round a watcher is in no phase but the end and sleep. -/
theorem rest_phase_ne {phase : Phase} (awake : ∀ deadline, phase ≠ .sleeping deadline)
    (going : phase ≠ .terminated) (w : Watcher) (now : Nat) : (w.rest now).phase ≠ phase := by
  rintro rfl
  rcases w.rest_phase now with ⟨-, ended⟩ | ⟨-, deadline, asleep⟩
  · exact going ended
  · exact awake deadline asleep

/-- The trial of a cycle whose run is over. -/
def trialOf (w : Watcher) (job : Job) (check : Except CheckFault Transcript) : Trial :=
  { text := job.flight.text, cap := job.cap, unwanted := w.stopping, check }

/-- A cycle whose run is over ends in one of the four ways, and then the watcher rests. -/
theorem finish_closes (w : Watcher) (now : Nat) (job : Job)
    (check : Except CheckFault Transcript) :
    ∃ result memory events, Closes w.memory (w.trialOf job check) result memory events ∧
      w.finish now job check = ({ w with memory }.rest now, events) := by
  obtain ⟨result, closes⟩ := exists_closes w.memory (w.trialOf job check)
  exact ⟨result, _, _, closes, rfl⟩

/-- A watcher that waits for no run has no cycle to go on with. -/
theorem settle_of_not_validating (hphase : ∀ job, w.phase ≠ .validating job) :
    settle c h w = (h, w, []) := by
  unfold settle
  split
  · next job hjob => exact absurd hjob (hphase job)
  · rfl

/-- A cycle that waits for its run goes on waiting while the run is not over, and ends when it is.
The wait changes nothing but for the interpreter, which may come to be killed. -/
theorem settle_of_validating {job : Job} (hphase : w.phase = .validating job) :
    (¬c.Over h job.flight ∧ ∃ h', h'.Alike h ∧ settle c h w = (h', w, [])) ∨
      (c.Over h job.flight ∧ ∃ h' check, c.Yields h job.flight check ∧
        settle c h w = (h', w.finish h.clock job check)) := by
  have going := c.progress_iff_not_over h job.flight
  rw [settle, hphase]
  dsimp only
  cases progress : c.progress h job.flight with
  | underway => exact .inl ⟨going.mp (.inl progress), h, .refl h, rfl⟩
  | dying => exact .inl ⟨going.mp (.inr progress), _, h.alike_condemn _, rfl⟩
  | ended => exact .inr ⟨by simpa [progress] using going, _, _, .landed, rfl⟩
  | overdue limit => exact .inr ⟨by simpa [progress] using going, _, _, .overdue limit, rfl⟩

/-! ### Rounds of the loop -/

/-- What the beginning of a cycle can come to: the text is known, the run cannot be started, it is
underway, or it is over at once. -/
inductive Begins (c : Command) (h : Host) (w : Watcher) (text : Text) :
    Watcher → List Event → Prop
  | knows (known : w.memory.knowsText text = true) :
      Begins c h w text (w.rest h.clock) [.ended (.ok .sameText)]
  | fails (fault : CheckFault) (new : w.memory.knowsText text = false) :
      Begins c h w text (w.rest h.clock) [.checked text, .ended (.error fault)]
  | waits (flight : Flight) (new : w.memory.knowsText text = false) (about : flight.text = text) :
      Begins c h w text { w with phase := .validating { cap := w.cap, flight } } [.checked text]
  | passes (flight : Flight) (check : Except CheckFault Transcript)
      (new : w.memory.knowsText text = false) (about : flight.text = text)
      (yields : c.Yields h flight check) :
      Begins c h w text (w.finish h.clock { cap := w.cap, flight } check).1
        (.checked text :: (w.finish h.clock { cap := w.cap, flight } check).2)

/-- What a round of the loop can come to: the end, a sleep without a cycle, or the beginning of a
cycle on the staged text, after a request to run in full has been heeded. -/
inductive Turns (c : Command) (h : Host) (w : Watcher) : Watcher → List Event → Prop
  | stops (stopping : w.stopping = true) : Turns c h w { w with phase := .terminated } []
  | rests (going : w.stopping = false) (idle : w.staged = none) :
      Turns c h w (w.heed.rest h.clock) []
  | begins {text : Text} {w' : Watcher} {events : List Event} (going : w.stopping = false)
      (staged : w.staged = some text) (begins : Begins c h w.heed text w' events) :
      Turns c h w w' events

/-- The beginning of a cycle comes to one of these. -/
theorem begins (c : Command) (h : Host) (w : Watcher) (text : Text) :
    Begins c h w text (check c h w text).2.1 (check c h w text).2.2 := by
  unfold check
  cases known : w.memory.knowsText text with
  | true => exact .knows known
  | false =>
      obtain ⟨alike, clock, about⟩ := c.launch_alike h text
      generalize c.launch h text = launch at alike clock about
      obtain ⟨h', launched⟩ := launch
      cases launched with
      | error fault => exact .fails fault known
      | ok flight =>
          have hphase : { w with phase := .validating { cap := w.cap, flight } : Watcher }.phase =
              .validating { cap := w.cap, flight } := rfl
          rcases settle_of_validating (c := c) (h := h') hphase with
            ⟨-, h'', -, hsettle⟩ | ⟨-, h'', check, yields, hsettle⟩
          · simp only [Bool.false_eq_true, if_false, hsettle]
            exact .waits flight known (about flight rfl)
          · simp only [Bool.false_eq_true, if_false, hsettle]
            rw [show h'.clock = h.clock from clock]
            exact .passes flight check known (about flight rfl) (yields.congr alike)

/-- Heeding a request to run in full touches nothing that the owner sets besides the request. -/
theorem heed_frame (w : Watcher) :
    w.heed.staged = w.staged ∧ w.heed.cap = w.cap ∧ w.heed.stopping = w.stopping := by
  unfold heed
  split <;> exact ⟨rfl, rfl, rfl⟩

/-- Where nothing is requested, there is nothing to heed. -/
theorem heed_of_unforced (unforced : w.forced = false) : w.heed = w := by
  rw [heed, unforced]
  rfl

/-- A request that has been heeded is withdrawn. -/
theorem heed_forced (w : Watcher) : w.heed.forced = false := by
  unfold heed
  split
  · rfl
  · next unforced => simpa using unforced

/-- Nothing is remembered after a request to run in full has been heeded. -/
theorem heed_memory (owed : w.forced = true ∨ w.memory = .empty) : w.heed.memory = .empty := by
  unfold heed
  split
  · rfl
  · next unforced => exact owed.resolve_left unforced

/-- A round of the loop comes to one of these. -/
theorem turns (c : Command) (h : Host) (w : Watcher) :
    Turns c h w (turn c h w).2.1 (turn c h w).2.2 := by
  unfold turn
  by_cases stopping : w.stopping = true
  · rw [if_pos stopping]
    exact .stops stopping
  · rw [if_neg stopping]
    have going : w.stopping = false := by simpa using stopping
    dsimp only
    rw [w.heed_frame.1]
    cases staged : w.staged with
    | none => exact .rests going staged
    | some text => exact .begins going staged (begins c h w.heed text)

/-! ### Acts -/

/-- What a watcher can do in a step: nothing, a round of its loop when it has just been started or
its sleep is over, or the end of its cycle when the run of the cycle is over. -/
inductive Acts (c : Command) (h : Host) (w : Watcher) : Watcher → List Event → Prop
  | waits : Acts c h w w []
  | turns {w' : Watcher} {events : List Event}
      (due : w.phase = .idle ∨ ∃ deadline, w.phase = .sleeping deadline)
      (turns : Turns c h w w' events) : Acts c h w w' events
  | settles {job : Job} {check : Except CheckFault Transcript}
      (hphase : w.phase = .validating job) (yields : c.Yields h job.flight check) :
      Acts c h w (w.finish h.clock job check).1 (w.finish h.clock job check).2

/-- No act touches what the owner sets, besides a request to run in full. -/
theorem Acts.frame (acts : Acts c h w w' events) :
    w'.staged = w.staged ∧ w'.cap = w.cap ∧ w'.stopping = w.stopping := by
  cases acts with
  | waits => exact ⟨rfl, rfl, rfl⟩
  | turns _ turns =>
      cases turns with
      | stops => exact ⟨rfl, rfl, rfl⟩
      | rests => exact w.heed_frame
      | begins _ _ begins => cases begins <;> exact w.heed_frame
  | settles => exact ⟨rfl, rfl, rfl⟩

/-- A watcher that looks after its run waits, or ends its cycle. -/
theorem settle_acts (c : Command) (h : Host) (w : Watcher) :
    Acts c h w (settle c h w).2.1 (settle c h w).2.2 := by
  by_cases waiting : ∃ job, w.phase = .validating job
  · obtain ⟨job, hphase⟩ := waiting
    rcases settle_of_validating (c := c) (h := h) hphase with
      ⟨-, h', -, hsettle⟩ | ⟨-, h', check, yields, hsettle⟩
    · rw [hsettle]
      exact .waits
    · rw [hsettle]
      exact .settles hphase yields
  · rw [settle_of_not_validating fun job hphase => waiting ⟨job, hphase⟩]
    exact .waits

/-- A watcher that wakes up waits, begins a round or ends its cycle. -/
theorem wake_acts (c : Command) (h : Host) (w : Watcher) :
    Acts c h w (wake c h w).2.1 (wake c h w).2.2 := by
  unfold wake
  split
  · next deadline hphase =>
      split
      · exact .turns (.inr ⟨deadline, hphase⟩) (turns c h w)
      · exact .waits
  · exact settle_acts c h w

/-- Whoever stops a watcher waits long enough: a run that is over at the end of the grace period is
over at the end of the wait. -/
theorem over_wait_iff {job : Job} (hphase : w.phase = .validating job) (c : Command) (h : Host)
    (grace : Nat) :
    c.Over (h.elapse (w.wait c h grace)) job.flight ↔ c.Over (h.elapse grace) job.flight := by
  rw [Command.over_elapse_iff, Command.over_elapse_iff, wait, hphase]
  dsimp only
  cases c.remaining? h job.flight with
  | none => simp
  | some rest =>
      simp only [Option.some.injEq, exists_eq_left', Option.getD_some, Nat.le_min, Nat.le_refl,
        true_and]

/-- And not longer: in the meantime the run is not over. -/
theorem not_over_of_lt_wait {job : Job} (hphase : w.phase = .validating job) {c : Command}
    {h : Host} {grace ms : Nat} (early : ms < w.wait c h grace) :
    ¬c.Over (h.elapse ms) job.flight := by
  rw [Command.over_elapse_iff]
  rintro ⟨rest, remains, past⟩
  rw [wait, hphase] at early
  dsimp only at early
  rw [remains] at early
  exact Nat.lt_irrefl _ (Nat.lt_of_le_of_lt past (Nat.lt_of_lt_of_le early (Nat.min_le_left _ _)))

/-- The wait for a run is not cut short by the end of a sleep. -/
theorem wake_of_validating {job : Job} (hphase : w.phase = .validating job) :
    wake c h w = settle c h w := by
  rw [wake, hphase]

end Watcher

/-! ### Steps -/

namespace Bench

/-- What a step does to the watcher before the watcher itself does anything. -/
def Step.tune : Step → Watcher → Watcher
  | .start, w => if w.phase = .idle then { w with awaited := true } else w
  | .stop, w => w.halt
  | .stage text, w => w.stage text
  | .stageForced text full, w => w.stageForced text full
  | .setInterval ms, w => w.setInterval ms
  | .setCap cap, w => w.setCap cap
  | .advance _, w | .setChecker _, w | .setGate _, w | .look, w => w

/-- What a step can have done to a watcher before the watcher itself does anything. -/
structure Step.Tunes (s : Step) (w w' : Watcher) : Prop where
  memory : w'.memory = w.memory
  /-- Only a stop requests a stop, and nothing revokes the request. -/
  stopping : w'.stopping = true ↔ w.stopping = true ∨ s = .stop
  /-- Nothing withdraws a request to run in full. -/
  forced : w.forced = true → w'.forced = true
  /-- Only the end that a stop puts to a sleep leads into another phase. -/
  phase : w'.phase = w.phase ∨ (∃ deadline, w.phase = .sleeping deadline) ∧ w'.phase = .terminated

/-- Tuning does nothing else to a watcher. -/
theorem Step.tunes (s : Step) (w : Watcher) : s.Tunes w (s.tune w) := by
  cases s with
  | start =>
      rw [tune]
      split <;> exact ⟨rfl, by simp, id, .inl rfl⟩
  | stop =>
      rw [tune, Watcher.halt]
      dsimp only
      split
      · next deadline asleep => exact ⟨rfl, by simp, id, .inr ⟨⟨deadline, asleep⟩, rfl⟩⟩
      · exact ⟨rfl, by simp, id, .inl rfl⟩
  | stageForced text full =>
      cases full with
      | true => exact ⟨rfl, by simp [tune, Watcher.stageForced, Watcher.stage, Watcher.force],
          fun _ => rfl, .inl rfl⟩
      | false => exact ⟨rfl, by simp [tune, Watcher.stageForced, Watcher.stage], id, .inl rfl⟩
  | setCap cap =>
      rw [tune, Watcher.setCap]
      split
      · exact ⟨rfl, by simp, id, .inl rfl⟩
      · exact ⟨rfl, by simp [Watcher.force], fun _ => rfl, .inl rfl⟩
  | _ => exact ⟨rfl, by simp [tune, Watcher.stage, Watcher.setInterval], id, .inl rfl⟩

/-- A step leaves a watcher that does not sleep in its phase, before the watcher itself does
anything. -/
theorem Step.tune_phase {w : Watcher} {phase : Phase} (hphase : w.phase = phase)
    (awake : ∀ deadline, phase ≠ .sleeping deadline) (s : Step) : (s.tune w).phase = phase := by
  rcases (s.tunes w).phase with same | ⟨⟨deadline, asleep⟩, -⟩
  · exact same.trans hphase
  · exact absurd (hphase.symm.trans asleep) (awake deadline)

/-- Only a stop changes the phase of a watcher before the watcher itself does anything. -/
theorem Step.tune_phase_of_ne_stop {s : Step} (going : s ≠ .stop) (w : Watcher) :
    (s.tune w).phase = w.phase := by
  cases s with
  | stop => exact absurd rfl going
  | start => rw [tune]; split <;> rfl
  | stageForced text full => cases full <;> rfl
  | setCap cap => rw [tune, Watcher.setCap]; split <;> rfl
  | _ => rfl

variable {b : Bench} {s : Step}

/-- Every step is tuning, and then an act of the watcher on a host like that of the bench. -/
theorem step_acts (b : Bench) (s : Step) : ∃ h, h.Alike b.host ∧
    Watcher.Acts b.command h (s.tune b.watcher) (b.step s).1.watcher (b.step s).2.1 := by
  cases s with
  | start =>
      refine ⟨b.host, .refl b.host, ?_⟩
      dsimp only [step, put, Watcher.start]
      split
      · next hphase =>
          rw [Step.tune, if_pos hphase]
          exact .turns (.inl hphase) (Watcher.turns _ _ _)
      · next hphase =>
          rw [Step.tune, if_neg hphase]
          exact .waits
  | stop =>
      refine ⟨b.host.elapse b.patience, b.host.alike_elapse b.patience, ?_⟩
      dsimp only [step, stop, put, Step.tune]
      split
      · exact Watcher.wake_acts _ _ _
      · exact .waits
  | advance ms =>
      exact ⟨b.host.elapse ms, b.host.alike_elapse ms, Watcher.wake_acts _ _ _⟩
  | setGate closed =>
      exact ⟨_, b.host.alike_gate closed, Watcher.settle_acts _ _ _⟩
  | _ => exact ⟨b.host, .refl b.host, .waits⟩

/-- Whether a run that the watcher waits for returns or times out in a step: time passes, or the
gate moves, or the owner waits for the watcher to stop, and then the run is over. A run times out
when the forced end of its interpreter is done with. -/
def Returns (b : Bench) (flight : Flight) : Step → Prop
  | .advance ms => b.command.Over (b.host.elapse ms) flight
  | .setGate closed => b.command.Over { b.host with gateClosed := closed } flight
  | .stop => b.watcher.awaited = true ∧ b.command.Over (b.host.elapse b.grace) flight
  | _ => False

/-- A cycle that waits for its run ends in exactly the steps in which the run returns or takes too
long. -/
theorem step_of_validating {job : Job} (hphase : b.watcher.phase = .validating job) (s : Step) :
    (¬b.Returns job.flight s ∧ (b.step s).1.watcher = s.tune b.watcher ∧ (b.step s).2.1 = []) ∨
      (b.Returns job.flight s ∧ ∃ (h : Host) (check : Except CheckFault Transcript),
        b.command.Yields b.host job.flight check ∧
        (b.step s).1.watcher = ((s.tune b.watcher).finish h.clock job check).1 ∧
        (b.step s).2.1 = ((s.tune b.watcher).finish h.clock job check).2) := by
  have tuned := s.tune_phase hphase nofun
  have settled (h : Host) := Watcher.settle_of_validating (c := b.command) (h := h) tuned
  cases s with
  | start =>
      refine .inl ⟨id, ?_, ?_⟩ <;> simp [step, put, Watcher.start, Step.tune, hphase]
  | stop =>
      have detains : b.watcher.detains = b.watcher.awaited := by simp [Watcher.detains, hphase]
      dsimp only [Step.tune] at tuned settled
      dsimp only [step, stop, put, Returns]
      rw [detains, Watcher.wake_of_validating tuned]
      rw [← Watcher.over_wait_iff hphase b.command b.host b.grace, ← patience]
      by_cases awaited : b.watcher.awaited = true
      · rcases settled (b.host.elapse b.patience) with
          ⟨underway, h', -, hsettle⟩ | ⟨finished, h', check, yields, hsettle⟩
        · exact .inl ⟨fun returns => underway returns.2, by simp [awaited, hsettle, Step.tune]⟩
        · exact .inr ⟨⟨awaited, finished⟩, b.host.elapse b.patience, check,
            yields.congr (b.host.alike_elapse b.patience), by simp [awaited, hsettle, Step.tune]⟩
      · exact .inl ⟨fun returns => awaited returns.1, by simp [awaited, Step.tune]⟩
  | advance ms =>
      dsimp only [Step.tune] at settled
      dsimp only [step, put, Returns]
      rw [Watcher.wake_of_validating hphase]
      rcases settled (b.host.elapse ms) with
        ⟨underway, h', -, hsettle⟩ | ⟨finished, h', check, yields, hsettle⟩
      · exact .inl ⟨fun returns => underway returns, by simp [hsettle, Step.tune]⟩
      · exact .inr ⟨finished, b.host.elapse ms, check, yields.congr (b.host.alike_elapse ms),
          by simp [hsettle, Step.tune]⟩
  | setGate closed =>
      dsimp only [Step.tune] at settled
      dsimp only [step, put, Returns]
      rcases settled { b.host with gateClosed := closed } with
        ⟨underway, h', -, hsettle⟩ | ⟨finished, h', check, yields, hsettle⟩
      · exact .inl ⟨fun returns => underway returns, by simp [hsettle, Step.tune]⟩
      · exact .inr ⟨finished, { b.host with gateClosed := closed }, check,
          yields.congr (b.host.alike_gate closed), by simp [hsettle, Step.tune]⟩
  | _ => exact .inl ⟨id, rfl, rfl⟩

/-- A watcher that has not been started does nothing until it is started. -/
theorem step_of_idle (hphase : b.watcher.phase = .idle) (unstarted : s ≠ .start) :
    (b.step s).1.watcher = s.tune b.watcher ∧ (b.step s).2.1 = [] := by
  cases s with
  | start => exact absurd rfl unstarted
  | stop =>
      have free : b.watcher.detains = false := by simp [Watcher.detains, hphase]
      simp [step, stop, free, Step.tune]
  | advance ms => simp [step, put, Watcher.wake, Watcher.settle, hphase, Step.tune]
  | setGate closed => simp [step, put, Watcher.settle, hphase, Step.tune]
  | _ => exact ⟨rfl, rfl⟩

/-- A watcher begins its first round when it is started. -/
theorem start_of_idle (hphase : b.watcher.phase = .idle) :
    Watcher.Turns b.command b.host { b.watcher with awaited := true } (b.step .start).1.watcher
      (b.step .start).2.1 := by
  dsimp only [step, put]
  rw [Watcher.start, hphase]
  exact Watcher.turns _ _ _

/-! ### Runs of a bench -/

/-- A bench before its first step. -/
def fresh (host : Host) (command : Command) (grace interval cap : Nat) : Bench where
  host
  command
  grace
  watcher := { interval, cap }

/-- A run is its first step and the run from there. -/
theorem run_cons (b : Bench) (s : Step) (steps : List Step) :
    b.run (s :: steps) =
      (((b.step s).1.run steps).1, (b.step s).2.1 ++ ((b.step s).1.run steps).2) :=
  rfl

/-- Two runs in a row are one run, with the events in a row. -/
theorem run_append (b : Bench) (front back : List Step) :
    b.run (front ++ back) =
      (((b.run front).1.run back).1, (b.run front).2 ++ ((b.run front).1.run back).2) := by
  induction front generalizing b with
  | nil => rfl
  | cons s front ih => rw [List.cons_append, run_cons, ih, run_cons, List.append_assoc]

/-- No step changes the command of a bench, or the time that its owner waits for an end. -/
theorem step_frame (b : Bench) (s : Step) :
    (b.step s).1.command = b.command ∧ (b.step s).1.grace = b.grace := by
  cases s with
  | stop =>
      dsimp only [step, stop]
      split <;> exact ⟨rfl, rfl⟩
  | _ => exact ⟨rfl, rfl⟩

/-- No run changes the command of a bench, or the time that its owner waits for an end. -/
theorem run_frame (b : Bench) (steps : List Step) :
    (b.run steps).1.command = b.command ∧ (b.run steps).1.grace = b.grace := by
  induction steps generalizing b with
  | nil => exact ⟨rfl, rfl⟩
  | cons s steps ih =>
      obtain ⟨command, grace⟩ := ih (b.step s).1
      exact ⟨command.trans (b.step_frame s).1, grace.trans (b.step_frame s).2⟩

/-- An invariant of steps, and what it allows them to do, hold of runs. -/
theorem run_safe {P : Bench → Prop} {allowed : Event → Prop}
    (kept : ∀ b s, P b → P (b.step s).1)
    (emits : ∀ b s, P b → ∀ event ∈ (b.step s).2.1, allowed event)
    (b : Bench) (steps : List Step) (first : P b) :
    P (b.run steps).1 ∧ ∀ event ∈ (b.run steps).2, allowed event := by
  induction steps generalizing b with
  | nil => exact ⟨first, nofun⟩
  | cons s steps ih =>
      obtain ⟨last, later⟩ := ih (b.step s).1 (kept b s first)
      exact ⟨last, List.forall_mem_append.mpr ⟨emits b s first, later⟩⟩

end Bench

end SyntaxWatch
