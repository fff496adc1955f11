import SyntaxWatch.Proofs.Watcher.Force

/-!
# Edits while a cycle is underway

A cycle that waits for its run works on the text and the cap with which it began. What its owner
stages or sets in the meantime does not reach it: two runs of a bench that differ in such edits
only are told apart by the cycle after it, never by the cycle itself. The cycle after it works on
what was staged and set last, and runs in full if one of the edits requested that.

The first half is about two runs. It is proved by walking along both at once, with the watchers
`Abreast`: they wait for the same run with the same memory, and differ at most in what edits touch.
The second half is about one run, up to the beginning of its next cycle.

## Main definitions

* `Bench.Step.isEdit`: the steps that only stage a text, turn a knob or look.
* `Bench.heldCycle`: what the cycle that waits for its run does from now on.
* `Bench.lastText`, `Bench.lastCap`, `Bench.Requests`: what a sequence of steps leaves for the next
  cycle.
* `Bench.Isolated`: what edits do to the cycle that waits for its run, and to the next one.

## Main results

* `Bench.isolated_of_validating`: edits leave a cycle underway alone and reach the next one.
-/

namespace SyntaxWatch

namespace Bench

/-! ### Edits -/

/-- Whether a step only stages a text, turns a knob or looks. -/
def Step.isEdit : Step → Bool
  | .stage _ | .stageForced _ _ | .setInterval _ | .setCap _ | .look => true
  | _ => false

/-- The text that a step stages. -/
def Step.text? : Step → Option Text
  | .stage text | .stageForced text _ => some text
  | _ => none

/-- The cap that a step sets. -/
def Step.cap? : Step → Option Nat
  | .setCap cap => some cap
  | _ => none

/-- The text that is staged after some steps: the last one that they stage, or the one that was
staged before. -/
def lastText (b : Bench) (steps : List Step) : Option Text :=
  (steps.filterMap Step.text?).getLast?.or b.watcher.staged

/-- The cap that is set after some steps: the last one that they set, or the one that was set
before. -/
def lastCap (b : Bench) (steps : List Step) : Nat :=
  (steps.filterMap Step.cap?).getLast?.getD b.watcher.cap

/-- Whether one of some steps requests a cycle in full. -/
def Requests : Bench → List Step → Prop
  | _, [] => False
  | b, s :: steps => s.Forces b.watcher ∨ Requests (b.step s).1 steps

/-! ### What steps leave for the next cycle -/

/-- A step stages its text at once, and leaves what was staged when it has none. -/
theorem Step.tune_staged (s : Step) (w : Watcher) : (s.tune w).staged = s.text?.or w.staged := by
  cases s with
  | start | setCap =>
      rw [tune]
      first | rw [Watcher.setCap] | skip
      split <;> rfl
  | stop =>
      rw [tune, Watcher.halt]
      dsimp only
      split <;> rfl
  | stageForced text full => cases full <;> rfl
  | _ => rfl

/-- A step sets its cap at once, and leaves the old one when it has none. -/
theorem Step.tune_cap (s : Step) (w : Watcher) : (s.tune w).cap = s.cap?.getD w.cap := by
  cases s with
  | start =>
      rw [tune]
      split <;> rfl
  | setCap cap =>
      rw [tune, Watcher.setCap]
      split
      · next same => exact same
      · rfl
  | stop =>
      rw [tune, Watcher.halt]
      dsimp only
      split <;> rfl
  | stageForced text full => cases full <;> rfl
  | _ => rfl

/-- A step leaves staged what it stages itself, and what was staged before if it stages nothing. The
same goes for the cap. -/
theorem step_leaves (b : Bench) (s : Step) :
    (b.step s).1.watcher.staged = s.text?.or b.watcher.staged ∧
      (b.step s).1.watcher.cap = s.cap?.getD b.watcher.cap := by
  obtain ⟨h, -, acts⟩ := b.step_acts s
  obtain ⟨staged, cap, -⟩ := acts.frame
  exact ⟨staged.trans (s.tune_staged _), cap.trans (s.tune_cap _)⟩

/-- The text that is staged last depends on the first step only through the state after it. -/
theorem lastText_cons (b : Bench) (s : Step) (steps : List Step) :
    b.lastText (s :: steps) = (b.step s).1.lastText steps := by
  rw [lastText, lastText, (b.step_leaves s).1]
  cases htext : s.text? with
  | none => simp [htext]
  | some text => cases hlast : (steps.filterMap Step.text?).getLast? <;>
      simp [htext, List.getLast?_cons, hlast]

/-- The cap that is set last depends on the first step only through the state after it. -/
theorem lastCap_cons (b : Bench) (s : Step) (steps : List Step) :
    b.lastCap (s :: steps) = (b.step s).1.lastCap steps := by
  rw [lastCap, lastCap, (b.step_leaves s).2]
  cases hcap : s.cap? with
  | none => simp [hcap]
  | some cap => cases hlast : (steps.filterMap Step.cap?).getLast? <;>
      simp [hcap, List.getLast?_cons, hlast]

end Bench

/-! ### Two watchers that wait for the same run -/

/-- Two watchers that wait for the same run with the same memory: they differ at most in what edits
touch. -/
structure Watcher.Abreast (job : Job) (w w' : Watcher) : Prop where
  left : w.phase = .validating job
  right : w'.phase = .validating job
  memory : w'.memory = w.memory
  stopping : w'.stopping = w.stopping
  awaited : w'.awaited = w.awaited

/-- Two benches on which the same cycle waits for its run, under the same conditions. -/
structure Bench.Abreast (job : Job) (b b' : Bench) : Prop where
  host : b'.host = b.host
  command : b'.command = b.command
  grace : b'.grace = b.grace
  watchers : Watcher.Abreast job b.watcher b'.watcher

namespace Watcher

variable {job : Job} {w w' : Watcher}

/-- An edit does not touch what a cycle underway depends on. -/
theorem Abreast.edit (abreast : Abreast job w w') {s : Bench.Step} (edit : s.isEdit = true) :
    Abreast job (s.tune w) w' := by
  obtain ⟨left, right, memory, stopping, awaited⟩ := abreast
  cases s with
  | stage | setInterval | look => exact ⟨left, right, memory, stopping, awaited⟩
  | stageForced text full => cases full <;> exact ⟨left, right, memory, stopping, awaited⟩
  | setCap cap =>
      rw [Bench.Step.tune, setCap]
      split <;> exact ⟨left, right, memory, stopping, awaited⟩
  | start | stop | advance | setChecker | setGate => cases edit

/-- A stop that finds a run underway only leaves word. -/
theorem halt_of_validating (hphase : w.phase = .validating job) :
    w.halt = { w with stopping := true, awaited := false } := by
  rw [halt]
  dsimp only
  split
  · next deadline asleep => cases hphase.symm.trans asleep
  · rfl

/-- Two watchers that wait for the same run stay abreast when both are told to stop. -/
theorem Abreast.halt (abreast : Abreast job w w') : Abreast job w.halt w'.halt := by
  rw [halt_of_validating abreast.left, halt_of_validating abreast.right]
  exact ⟨abreast.left, abreast.right, abreast.memory, rfl, rfl⟩

/-- The cycles of two watchers that wait for the same run end alike. -/
theorem Abreast.finish_events (abreast : Abreast job w w') (now : Nat)
    (check : Except CheckFault Transcript) :
    (w'.finish now job check).2 = (w.finish now job check).2 := by
  rw [finish, finish, abreast.memory, abreast.stopping]

/-- Two watchers that wait for the same run go on waiting together, or see its end together. -/
theorem Abreast.settle (abreast : Abreast job w w') (c : Command) (h : Host) :
    (Watcher.settle c h w').1 = (Watcher.settle c h w).1 ∧
      ((Watcher.settle c h w).2 = (w, []) ∧ (Watcher.settle c h w').2 = (w', []) ∨
        ∃ check, (Watcher.settle c h w).2 = w.finish h.clock job check ∧
          (Watcher.settle c h w').2 = w'.finish h.clock job check) := by
  rw [Watcher.settle, Watcher.settle, abreast.left, abreast.right]
  dsimp only
  cases c.progress h job.flight with
  | underway | dying => exact ⟨rfl, .inl ⟨rfl, rfl⟩⟩
  | ended => exact ⟨rfl, .inr ⟨c.transcript h job.flight, rfl, rfl⟩⟩
  | overdue limit => exact ⟨rfl, .inr ⟨.error (.overdue limit), rfl, rfl⟩⟩

/-- No run begins at the end of a cycle. -/
theorem finish_unchecked (w : Watcher) (now : Nat) (job : Job)
    (check : Except CheckFault Transcript) :
    ∀ event ∈ (w.finish now job check).2, event.checked? = none := by
  obtain ⟨result, memory, events, closes, hfinish⟩ := w.finish_closes now job check
  rw [hfinish]
  cases closes <;> simp [Event.checked?]

end Watcher

namespace Bench

variable {job : Job} {b b' : Bench}

/-! ### Two runs that differ in edits -/

/-- A bench on which a cycle waits for its run is abreast of itself. -/
theorem abreast_self (hphase : b.watcher.phase = .validating job) : Abreast job b b :=
  ⟨rfl, rfl, rfl, hphase, hphase, rfl, rfl, rfl⟩

/-- An edit leaves a bench abreast of one on which it is not made. -/
theorem Abreast.edit (abreast : Abreast job b b') {s : Step} (edit : s.isEdit = true) :
    Abreast job (b.step s).1 b' ∧ (b.step s).2.1 = [] := by
  have watchers := abreast.watchers.edit edit
  cases s with
  | stage | stageForced | setInterval | setCap | look =>
      exact ⟨⟨abreast.host, abreast.command, abreast.grace, watchers⟩, rfl⟩
  | start | stop | advance | setChecker | setGate => cases edit

/-- What two benches abreast come to in a step: they are still abreast, and nothing has happened, or
their cycles have ended in the same way. -/
def Meet (job : Job) (r r' : Bench × List Event) : Prop :=
  Abreast job r.1 r'.1 ∧ r.2 = [] ∧ r'.2 = [] ∨
    ∃ w now check, r.2 = (Watcher.finish w now job check).2 ∧ r'.2 = r.2

/-- Two benches abreast stay together when both look after their runs on the same host. -/
theorem Abreast.put {w w' : Watcher} (abreast : Abreast job b b')
    (watchers : Watcher.Abreast job w w') (h : Host) :
    Meet job (b.put (Watcher.settle b.command h w)) (b'.put (Watcher.settle b'.command h w')) := by
  rw [abreast.command]
  obtain ⟨host, ⟨waits, waits'⟩ | ⟨check, ends, ends'⟩⟩ := watchers.settle b.command h
  · refine .inl ⟨⟨host, abreast.command, abreast.grace, ?_⟩, ?_, ?_⟩ <;>
      simp only [Bench.put, waits, waits']
    exact watchers
  · refine .inr ⟨w, h.clock, check, ?_, ?_⟩ <;> simp only [Bench.put, ends, ends']
    exact watchers.finish_events h.clock check

/-- A step that is no edit takes two benches abreast to the same end, if it ends their cycles. -/
theorem Abreast.step (abreast : Abreast job b b') {s : Step} (other : s.isEdit = false) :
    Meet job ((b.step s).1, (b.step s).2.1) ((b'.step s).1, (b'.step s).2.1) := by
  have watchers := abreast.watchers
  have left := watchers.left
  have right := watchers.right
  cases s with
  | start =>
      refine .inl ⟨⟨?_, abreast.command, abreast.grace, ?_⟩, ?_, ?_⟩ <;>
        simp only [Bench.step, Bench.put, Watcher.start, left, right]
      · exact abreast.host
      · exact watchers
  | stop =>
      have halts : Watcher.Abreast job b.watcher.halt b'.watcher.halt := watchers.halt
      have detains : b'.watcher.detains = b.watcher.detains := by
        simp only [Watcher.detains, left, right, watchers.awaited]
      have patience : b'.patience = b.patience := by
        simp only [Bench.patience, Watcher.wait, left, right, abreast.command, abreast.host,
          abreast.grace]
      simp only [Bench.step, Bench.stop, detains]
      split
      · rw [Watcher.wake_of_validating halts.left, Watcher.wake_of_validating halts.right,
          abreast.host, patience]
        exact abreast.put halts (b.host.elapse b.patience)
      · exact .inl ⟨⟨abreast.host, abreast.command, abreast.grace, halts⟩, rfl, rfl⟩
  | advance ms =>
      simp only [Bench.step]
      rw [Watcher.wake_of_validating left, Watcher.wake_of_validating right, abreast.host]
      exact abreast.put watchers (b.host.elapse ms)
  | setChecker checker =>
      refine .inl ⟨⟨?_, abreast.command, abreast.grace, watchers⟩, rfl, rfl⟩
      simp only [Bench.step, abreast.host]
  | setGate closed =>
      simp only [Bench.step]
      rw [abreast.host]
      exact abreast.put watchers { b.host with gateClosed := closed }
  | stage | stageForced | setInterval | setCap | look => cases other

/-- What the cycle that waits for its run does in a sequence of steps, each event with its step:
nothing until the run is over, and then everything up to its end. -/
def heldCycle (b : Bench) (steps : List Step) : Option (List (Step × Event)) :=
  (cycles (b.log steps)).head?.map fun cycle => cycle.map fun entry => (entry.1.step, entry.2)

/-- A step in which nothing happens adds nothing to the log. -/
theorem log_of_quiet {s : Step} (quiet : (b.step s).2.1 = []) (steps : List Step) :
    b.log (s :: steps) = (b.step s).1.log steps := by
  rw [log, quiet]
  rfl

/-- A cycle that waits for its run does the same with and without edits, by induction on the steps:
an edit leaves the two benches abreast, and every other step is made on both. -/
theorem Abreast.heldCycle_filter (abreast : Abreast job b b') (steps : List Step) :
    b.heldCycle steps = b'.heldCycle (steps.filter fun s => !s.isEdit) := by
  induction steps generalizing b b' with
  | nil => rfl
  | cons s steps ih =>
      cases kind : s.isEdit with
      | true =>
          obtain ⟨still, quiet⟩ := abreast.edit kind
          rw [List.filter_cons_of_neg (by simp [kind]), heldCycle, log_of_quiet quiet]
          exact ih still
      | false =>
          rw [List.filter_cons_of_pos (by simp [kind])]
          rcases abreast.step kind with ⟨still, quiet, quiet'⟩ | ⟨w, now, check, ends, same⟩
          · rw [heldCycle, heldCycle, log_of_quiet quiet, log_of_quiet quiet']
            exact ih still
          · dsimp only at ends same
            rw [heldCycle, heldCycle, log, log, same, ends, w.cycles_finish, w.cycles_finish]
            simp only [List.head?_cons, Option.map_some, List.map_map]
            rfl

/-- Two runs that differ in edits only are the same to the cycle that waits for its run. -/
theorem heldCycle_congr (hphase : b.watcher.phase = .validating job) {steps others : List Step}
    (same : others.filter (fun s => !s.isEdit) = steps.filter fun s => !s.isEdit) :
    b.heldCycle others = b.heldCycle steps := by
  have self := abreast_self hphase
  rw [self.heldCycle_filter others, self.heldCycle_filter steps, same]

/-! ### The next cycle -/

/-- The cycle that waits for its run goes on as a cycle that began with its text and cap, by
induction on the steps until its run is over. -/
theorem exists_ensues (hphase : b.watcher.phase = .validating job) {began : Moment}
    (hcap : job.cap = began.watcher.cap) (steps : List Step) :
    ∃ rest, (cycles ((began, .checked job.flight.text) :: b.log steps)).head? =
        some ((began, .checked job.flight.text) :: rest) ∧
      Ensues began job.flight.text b.watcher.memory rest := by
  induction steps generalizing b with
  | nil => exact ⟨[], rfl, .underway⟩
  | cons s steps ih =>
      have memory := (s.tunes b.watcher).memory
      rcases step_of_validating hphase s with
        ⟨-, hwatcher, quiet⟩ | ⟨-, h, check, yields, -, hevents⟩
      · rw [log_of_quiet quiet, ← memory, ← hwatcher]
        refine ih ?_
        rw [hwatcher]
        exact s.tune_phase hphase nofun
      · rw [log, hevents, cycles_checked ((s.tune b.watcher).cycles_finish h.clock job check _ _),
          ← memory]
        exact ⟨_, rfl, Watcher.finish_ensues (m := ⟨b, s⟩) rfl hcap yields h.clock⟩

/-- The cycle that a round of the loop begins on a text, given what is remembered then: it ends at
once when the text is known, and runs the checker when it is not. -/
inductive Takes (began : Moment) (text : Text) (memory : Recall) : List (Moment × Event) → Prop
  | known (knows : memory.knowsText text = true) :
      Takes began text memory [(began, .ended (.ok .sameText))]
  | checks {rest : List (Moment × Event)} (new : memory.knowsText text = false)
      (ensues : Ensues began text memory rest) :
      Takes began text memory ((began, .checked text) :: rest)

/-- A cycle that begins with nothing remembered runs the checker and holds nothing back. -/
theorem Takes.of_empty {began : Moment} {text : Text} {memory : Recall}
    {cycle : List (Moment × Event)} (takes : Takes began text memory cycle)
    (forgotten : memory = .empty) :
    ∃ rest, cycle = (began, .checked text) :: rest ∧ Continues began text rest := by
  cases takes with
  | known knows =>
      rw [forgotten, Recall.knowsText_empty] at knows
      cases knows
  | checks new ensues => exact ⟨_, rfl, ensues.continues forgotten⟩

/-- When no cycle waits for its run, every cycle in the log has begun since. -/
theorem cyclesBegun_of_free (free : ∀ job, b.watcher.phase ≠ .validating job) (steps : List Step) :
    b.cyclesBegun steps = cycles (b.log steps) := by
  unfold cyclesBegun
  split
  · next job hphase => exact absurd hphase (free job)
  · rfl

/-- When a cycle waits for its run, the first one in the log had begun before. -/
theorem cyclesBegun_of_validating (hphase : b.watcher.phase = .validating job)
    (steps : List Step) : b.cyclesBegun steps = (cycles (b.log steps)).tail := by
  rw [cyclesBegun, hphase]

/-- A step in which a round of the loop begins a cycle begins no other one, whatever happens in the
steps after it. -/
theorem cycles_of_begins {s : Step} {h : Host} {text : Text} {w : Watcher} {events : List Event}
    (alike : h.Alike b.host) (hafter : (b.step s).1.watcher = w) (hevents : (b.step s).2.1 = events)
    (begins : Watcher.Begins b.command h (s.tune b.watcher).heed text w events)
    (steps : List Step) :
    ∃ cycle, cycles (b.log (s :: steps)) = cycle :: (b.step s).1.cyclesBegun steps ∧
      Takes ⟨b, s⟩ text (s.tune b.watcher).heed.memory cycle := by
  obtain ⟨-, hcap, hstopping⟩ := (s.tune b.watcher).heed_frame
  have atRest (rests : ∃ w' now, w = Watcher.rest w' now) :
      (b.step s).1.cyclesBegun steps = cycles ((b.step s).1.log steps) := by
    obtain ⟨w', now, rfl⟩ := rests
    refine cyclesBegun_of_free (fun job => ?_) steps
    rw [hafter]
    exact Watcher.rest_phase_ne (by simp) (by simp) w' now
  rw [log, hevents]
  cases begins with
  | knows known =>
      rw [atRest ⟨_, _, rfl⟩]
      exact ⟨_, rfl, .known known⟩
  | fails fault new =>
      rw [atRest ⟨_, _, rfl⟩]
      exact ⟨_, rfl, .checks new (.failed _ fault)⟩
  | waits flight new about =>
      subst about
      have hphase : (b.step s).1.watcher.phase =
          .validating { cap := (s.tune b.watcher).heed.cap, flight } := by rw [hafter]
      have hcap' : (s.tune b.watcher).heed.cap = (⟨b, s⟩ : Moment).watcher.cap := hcap
      obtain ⟨rest, hcycle, ensues⟩ := exists_ensues hphase hcap' steps
      obtain ⟨later, split⟩ := List.head?_eq_some_iff.mp hcycle
      have same : later = (b.step s).1.cyclesBegun steps := by
        rw [cyclesBegun_of_validating hphase, ← tail_cycles_checked, split, List.tail_cons]
      rw [hafter] at ensues
      exact ⟨_, by rw [← same]; exact split, .checks new ensues⟩
  | passes flight check new about yields =>
      subst about
      let job : Job := { cap := (s.tune b.watcher).heed.cap, flight }
      have ends := (s.tune b.watcher).heed.cycles_finish h.clock job check ⟨b, s⟩
        ((b.step s).1.log steps)
      have ensues : Ensues ⟨b, s⟩ job.flight.text (s.tune b.watcher).heed.memory
          (((s.tune b.watcher).heed.finish h.clock job check).2.map (Prod.mk ⟨b, s⟩)) :=
        Watcher.finish_ensues hstopping hcap (yields.congr alike) h.clock
      rw [atRest ⟨_, _, rfl⟩]
      exact ⟨_, cycles_checked ends ⟨b, s⟩ flight.text, .checks new ensues⟩

/-- A cycle that begins in a step after others, and no run begins in those: it works on the text
that is staged at that moment and goes by what is remembered then, and it runs in full when one of
the steps before has requested it. -/
structure NextCycle (b : Bench) (full : Prop) (before : List Step) (s : Step)
    (cycle : List (Moment × Event)) : Prop where
  acts : ((b.run before).1.step s).2.1 ≠ []
  unchecked : ∀ event ∈ (b.run before).2, event.checked? = none
  takes : ∃ text, (⟨(b.run before).1, s⟩ : Moment).watcher.staged = some text ∧
    Takes ⟨(b.run before).1, s⟩ text (⟨(b.run before).1, s⟩ : Moment).watcher.heed.memory cycle
  inFull : full ∨ b.Requests before → FullCycle cycle

/-- A step in which no run begins may come before the steps to the next cycle. A request that it
makes is one that the next cycle meets. -/
theorem NextCycle.cons {full : Prop} {before : List Step} {s s' : Step}
    {cycle : List (Moment × Event)} (unchecked : ∀ event ∈ (b.step s).2.1, event.checked? = none)
    (next : NextCycle (b.step s).1 (full ∨ s.Forces b.watcher) before s' cycle) :
    NextCycle b full (s :: before) s' cycle where
  acts := next.acts
  unchecked := by
    rw [run_cons]
    exact List.forall_mem_append.mpr ⟨unchecked, next.unchecked⟩
  takes := next.takes
  inFull := by
    rintro (full | forces | later)
    · exact next.inFull (.inl (.inl full))
    · exact next.inFull (.inl (.inr forces))
    · exact next.inFull (.inr later)

/-- The next cycle, once it is known what it does. -/
theorem nextCycle_of_takes {full : Prop} {s : Step} {text : Text} {cycle : List (Moment × Event)}
    (acts : (b.step s).2.1 ≠ []) (staged : (⟨b, s⟩ : Moment).watcher.staged = some text)
    (takes : Takes ⟨b, s⟩ text (s.tune b.watcher).heed.memory cycle)
    (owed : full ∨ s.Forces b.watcher → (s.tune b.watcher).heed.memory = .empty) :
    NextCycle b full [] s cycle := by
  refine ⟨acts, by simp [run], ⟨text, staged, takes⟩, ?_⟩
  rintro (hfull | none)
  · obtain ⟨rest, rfl, continues⟩ := takes.of_empty (owed (.inl hfull))
    exact ⟨_, text, rest, staged, continues⟩
  · exact none.elim

/-- A round of the loop begins the next cycle, or leaves it to a later round. -/
theorem nextCycle_of_turns {full : Prop} {s : Step} {h : Host} {w : Watcher} {events : List Event}
    (alike : h.Alike b.host) (hafter : (b.step s).1.watcher = w) (hevents : (b.step s).2.1 = events)
    (owed : full ∨ s.Forces b.watcher →
      (s.tune b.watcher).forced = true ∨ (s.tune b.watcher).memory = .empty)
    (turns : Watcher.Turns b.command h (s.tune b.watcher) w events) (steps : List Step) :
    (events = [] ∧ (∀ job, w.phase ≠ .validating job) ∧
        (full ∨ s.Forces b.watcher → w.forced = true ∨ w.memory = .empty)) ∨
      ∃ cycle, (cycles (b.log (s :: steps))).head? = some cycle ∧ NextCycle b full [] s cycle := by
  have forgotten (hfull : full ∨ s.Forces b.watcher) : (s.tune b.watcher).heed.memory = .empty :=
    Watcher.heed_memory (owed hfull)
  cases turns with
  | stops => exact .inl ⟨rfl, by simp, owed⟩
  | rests =>
      refine .inl ⟨rfl, fun job => ?_, fun hfull => .inr (forgotten hfull)⟩
      exact Watcher.rest_phase_ne (by simp) (by simp) _ _
  | @begins text w events going staged begins =>
      have acts : (b.step s).2.1 ≠ [] := by
        rw [hevents]
        cases begins <;> simp
      obtain ⟨cycle, hcycles, takes⟩ := cycles_of_begins alike hafter hevents begins steps
      exact .inr ⟨cycle, by rw [hcycles, List.head?_cons],
        nextCycle_of_takes acts staged takes forgotten⟩

/-- The next cycle of a watcher that waits for no run, by induction on the steps until it begins. -/
theorem nextCycle_of_free {full : Prop} (free : ∀ job, b.watcher.phase ≠ .validating job)
    (owed : full → b.watcher.forced = true ∨ b.watcher.memory = .empty) (steps : List Step)
    {cycle : List (Moment × Event)} (begun : (cycles (b.log steps)).head? = some cycle) :
    ∃ before s after, steps = before ++ s :: after ∧ NextCycle b full before s cycle := by
  induction steps generalizing b full with
  | nil => cases begun
  | cons s steps ih =>
      obtain ⟨h, alike, acts⟩ := b.step_acts s
      have tuned : full ∨ s.Forces b.watcher →
          (s.tune b.watcher).forced = true ∨ (s.tune b.watcher).memory = .empty := by
        rintro (hfull | forces)
        · rw [(s.tunes b.watcher).memory]
          exact (owed hfull).imp_left (s.tunes b.watcher).forced
        · exact .inl forces.tune_forced
      have later (quiet : (b.step s).2.1 = [])
          (free : ∀ job, (b.step s).1.watcher.phase ≠ .validating job)
          (owed : full ∨ s.Forces b.watcher → (b.step s).1.watcher.forced = true ∨
            (b.step s).1.watcher.memory = .empty) :
          ∃ before s' after, s :: steps = before ++ s' :: after ∧
            NextCycle b full before s' cycle := by
        rw [log_of_quiet quiet] at begun
        obtain ⟨before, s', after, rfl, next⟩ := ih free owed begun
        exact ⟨s :: before, s', after, rfl, next.cons (by rw [quiet]; nofun)⟩
      generalize hafter : (b.step s).1.watcher = w, hevents : (b.step s).2.1 = events at acts
      cases acts with
      | waits =>
          refine later hevents (fun job => ?_) (by rw [hafter]; exact tuned)
          rw [hafter]
          rcases (s.tunes b.watcher).phase with same | ⟨-, ended⟩
          · rw [same]
            exact free job
          · rw [ended]
            nofun
      | turns due turns =>
          rcases nextCycle_of_turns alike hafter hevents tuned turns steps with
            ⟨rfl, free, owed⟩ | ⟨cycle', hcycle, next⟩
          · exact later hevents (by rw [hafter]; exact free) (by rw [hafter]; exact owed)
          · cases hcycle.symm.trans begun
            exact ⟨[], s, steps, rfl, next⟩
      | settles hphase =>
          rcases (s.tunes b.watcher).phase with same | ⟨-, ended⟩
          · exact absurd (same.symm.trans hphase) (free _)
          · cases ended.symm.trans hphase

/-- The next cycle of a watcher that waits for a run, by induction on the steps until its cycle has
ended. -/
theorem nextCycle_of_validating {full : Prop} (hphase : b.watcher.phase = .validating job)
    (owed : full → b.watcher.forced = true) (steps : List Step) {cycle : List (Moment × Event)}
    (begun : (cycles (b.log steps)).tail.head? = some cycle) :
    ∃ before s after, steps = before ++ s :: after ∧ NextCycle b full before s cycle := by
  induction steps generalizing b full with
  | nil => cases begun
  | cons s steps ih =>
      have forced : full ∨ s.Forces b.watcher → (s.tune b.watcher).forced = true := by
        rintro (hfull | forces)
        · exact (s.tunes b.watcher).forced (owed hfull)
        · exact forces.tune_forced
      rcases step_of_validating hphase s with
        ⟨-, hwatcher, quiet⟩ | ⟨-, h, check, -, hwatcher, hevents⟩
      · rw [log_of_quiet quiet] at begun
        have waits : (b.step s).1.watcher.phase = .validating job := by
          rw [hwatcher]
          exact s.tune_phase hphase (by simp)
        obtain ⟨before, s', after, rfl, next⟩ := ih waits (by rw [hwatcher]; exact forced) begun
        exact ⟨s :: before, s', after, rfl, next.cons (by simp [quiet])⟩
      · rw [log, hevents, Watcher.cycles_finish] at begun
        have rests : ∀ job', (b.step s).1.watcher.phase ≠ .validating job' := by
          rw [hwatcher]
          exact fun _ => Watcher.rest_phase_ne (by simp) (by simp) _ _
        have owed : full ∨ s.Forces b.watcher →
            (b.step s).1.watcher.forced = true ∨ (b.step s).1.watcher.memory = .empty := by
          rw [hwatcher]
          exact fun hfull => .inl (forced hfull)
        obtain ⟨before, s', after, rfl, next⟩ := nextCycle_of_free rests owed steps begun
        refine ⟨s :: before, s', after, rfl, next.cons ?_⟩
        rw [hevents]
        exact (s.tune b.watcher).finish_unchecked h.clock job check

/-! ### Isolation -/

/-- Only steps that are no edits make a watcher act. -/
theorem stages_nothing {s : Step} (acts : (b.step s).2.1 ≠ []) :
    s.text? = none ∧ s.cap? = none := by
  cases s with
  | stage | stageForced | setInterval | setCap | look => exact absurd rfl acts
  | _ => exact ⟨rfl, rfl⟩

/-- A run leaves staged the text that is staged last in it, and leaves the cap that is set last. -/
theorem run_leaves (b : Bench) (steps : List Step) :
    (b.run steps).1.watcher.staged = b.lastText steps ∧
      (b.run steps).1.watcher.cap = b.lastCap steps := by
  induction steps generalizing b with
  | nil => exact ⟨rfl, rfl⟩
  | cons s steps ih =>
      rw [lastText_cons, lastCap_cons, run_cons]
      exact ih (b.step s).1

/-- What a sequence of steps does to a cycle that waits for its run when they begin, and to the next
cycle. -/
structure Isolated (b : Bench) (steps : List Step) : Prop where
  /-- In every run that differs in edits only, the cycle does the same things in the same steps: it
  shows the same diagnostics, or nothing. -/
  held : ∀ others, others.filter (fun s => !s.isEdit) = steps.filter (fun s => !s.isEdit) →
    b.heldCycle others = b.heldCycle steps
  /-- The next cycle works on the text and the cap that are set last before it begins, and no other
  text is checked in between. It is cut short only by a text or an output that is remembered when it
  begins, and it runs in full when one of the steps before it requests that. -/
  next : ∀ cycle, (b.cyclesBegun steps).head? = some cycle →
    ∃ before s after, steps = before ++ s :: after ∧
      (∀ event ∈ (b.run before).2, event.checked? = none) ∧
      (∃ text, b.lastText before = some text ∧ Takes ⟨(b.run before).1, s⟩ text
        (⟨(b.run before).1, s⟩ : Moment).watcher.heed.memory cycle) ∧
      (⟨(b.run before).1, s⟩ : Moment).watcher.cap = b.lastCap before ∧
      (b.Requests before → FullCycle cycle)

/-- A cycle underway is isolated from edits: they do not reach it, and nothing of them is lost to
the next cycle. -/
theorem isolated_of_validating (b : Bench) {job : Job} (hphase : b.watcher.phase = .validating job)
    (steps : List Step) : b.Isolated steps where
  held _ same := heldCycle_congr hphase same
  next cycle begun := by
    rw [cyclesBegun, hphase] at begun
    have owed : False → b.watcher.forced = true := False.elim
    obtain ⟨before, s, after, split, next⟩ := nextCycle_of_validating hphase owed steps begun
    obtain ⟨text, staged, takes⟩ := next.takes
    obtain ⟨htext, hcap⟩ := stages_nothing next.acts
    obtain ⟨leftText, leftCap⟩ := b.run_leaves before
    refine ⟨before, s, after, split, next.unchecked, ⟨text, ?_, takes⟩, ?_, ?_⟩
    · rw [Moment.watcher, Step.tune_staged, htext, leftText] at staged
      exact staged
    · rw [Moment.watcher, Step.tune_cap, hcap, leftCap]
      rfl
    · exact fun requests => next.inFull (.inr requests)

/-- Edits made while a cycle waits for its run. -/
def retouched : List Step :=
  [.stage "y".toList, .stageForced "z".toList true, .setCap 3, .setInterval 10, .look]

/-- The checker returns, and some time passes. -/
def released : List Step :=
  [.setGate false, .advance 10]

/-- With edits or without, the cycle that waits for its run shows the diagnostics of its text. With
them, the next cycle checks the text that was staged last, and shows its diagnostics although the
output is the same as before. -/
theorem isolated_retouched :
    (∃ job, held.watcher.phase = .validating job) ∧ held.Isolated (retouched ++ released) ∧
      held.heldCycle released = some [(.setGate false, .shown "x".toList []),
        (.setGate false, .ended (.ok (.shown 0)))] ∧
      held.heldCycle (retouched ++ released) = held.heldCycle released ∧
      (held.cyclesBegun (retouched ++ released)).map (·.map Prod.snd) =
        [[.checked "z".toList, .shown "z".toList [], .ended (.ok (.shown 0))]] :=
  ⟨⟨_, rfl⟩, isolated_of_validating held rfl _, rfl,
    (isolated_of_validating held rfl released).held _ rfl, rfl⟩

end Bench

end SyntaxWatch
