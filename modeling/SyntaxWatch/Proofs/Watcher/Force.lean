import SyntaxWatch.Proofs.Watcher.Moves

/-!
# Requests to run in full

A request to run in full travels through a flag: the watcher clears the flag at the head of its loop
and forgets everything, and then its cycle may fail, so that the next cycle has to run in full in
its stead. A cycle that is underway when the request is made keeps working with what it knows, and
its end may fill the memory again. Neither loses the request: until a cycle that began after it has
shown its diagnostics, the flag is set or the memory is empty.

## Main definitions

* `Bench.log`: what a watcher does, with the steps in which it does it.
* `cycles`, `Bench.cyclesBegun`: the cycles of a log, and those that begin in a sequence of steps.
* `Ensues`: what follows in a cycle that has run the checker, given what is remembered.
* `FullCycle`: a cycle that runs the checker and holds nothing back.
* `Bench.Owes`: the invariant of a bench with a request that is still to be met.

## Main results

* `Bench.fullCycle_of_forces`: a request to run in full is never lost.
-/

namespace SyntaxWatch

/-! ### Logs -/

/-- A step in a run of a bench: the bench before it, and the step. -/
structure Moment where
  before : Bench
  step : Bench.Step

/-- The watcher as the step finds it: what the owner does to it in this step is done, and what it
does itself is not. -/
def Moment.watcher (m : Moment) : Watcher :=
  m.step.tune m.before.watcher

/-- What a watcher does in a sequence of steps, each event with the step in which it happens. -/
def Bench.log : Bench → List Bench.Step → List (Moment × Event)
  | _, [] => []
  | b, s :: steps => (b.step s).2.1.map (Prod.mk ⟨b, s⟩) ++ log (b.step s).1 steps

/-- A log tells what happens in a run, and nothing else. -/
theorem Bench.log_map_snd (b : Bench) (steps : List Bench.Step) :
    (b.log steps).map Prod.snd = (b.run steps).2 := by
  induction steps generalizing b with
  | nil => rfl
  | cons s steps ih =>
      have events : ((b.step s).2.1.map (Prod.mk (⟨b, s⟩ : Moment))).map Prod.snd =
          (b.step s).2.1 := by
        rw [List.map_map]
        exact List.map_id _
      rw [log, List.map_append, events, ih]
      rfl

/-- The cycles of a log. Each ends with its result, and the last one may be underway. -/
def cycles : List (Moment × Event) → List (List (Moment × Event))
  | [] => []
  | (m, .ended result) :: log => [(m, .ended result)] :: cycles log
  | entry :: log =>
    match cycles log with
    | [] => [[entry]]
    | cycle :: later => (entry :: cycle) :: later

/-- Nothing of a log is lost in its cycles. -/
theorem flatten_cycles (log : List (Moment × Event)) : (cycles log).flatten = log := by
  induction log using cycles.induct with
  | case1 => rfl
  | case2 m result log ih => simp [cycles, ih]
  | case3 entry log unended hcycles ih =>
      rw [hcycles] at ih
      rw [cycles, hcycles, ← ih]
      · rfl
      · exact unended
  | case4 entry log unended cycle later hcycles ih =>
      rw [hcycles] at ih
      rw [cycles, hcycles, ← ih]
      · rfl
      · exact unended

/-- The cycles that begin in a sequence of steps. One that waits for its run when the steps begin is
not among them. -/
def Bench.cyclesBegun (b : Bench) (steps : List Bench.Step) : List (List (Moment × Event)) :=
  match b.watcher.phase with
  | .validating _ => (cycles (b.log steps)).tail
  | _ => cycles (b.log steps)

/-! ### Full cycles -/

/-- What follows after a cycle on a text, begun at some moment, has run the checker and until it
ends: nothing so far, its failure, its end without a word when a stop has been requested, or the
diagnostics of its transcript, with the cap of the moment when it began. -/
inductive Continues (began : Moment) (text : Text) : List (Moment × Event) → Prop
  | underway : Continues began text []
  | failed (m : Moment) (fault : CheckFault) : Continues began text [(m, .ended (.error fault))]
  | discarded (m : Moment) (stopping : m.watcher.stopping = true) :
      Continues began text [(m, .ended (.ok .discarded))]
  | shown (m : Moment) (flight : Flight) (transcript : Transcript)
      (going : m.watcher.stopping = false) (about : flight.text = text)
      (yields : m.before.command.transcript m.before.host flight = .ok transcript) :
      Continues began text
        [(m, .shown text (transcript.diagnose text began.watcher.cap)),
          (m, .ended (.ok (.shown (transcript.diagnose text began.watcher.cap).length)))]

/-- What follows after a cycle has run the checker, given what is remembered: what is known is held
back, and the cycle ends without a word when its output is; and nothing else is held back. -/
inductive Ensues (began : Moment) (text : Text) (memory : Recall) : List (Moment × Event) → Prop
  | underway : Ensues began text memory []
  | failed (m : Moment) (fault : CheckFault) :
      Ensues began text memory [(m, .ended (.error fault))]
  | discarded (m : Moment) (stopping : m.watcher.stopping = true) :
      Ensues began text memory [(m, .ended (.ok .discarded))]
  | sameOutput (m : Moment) (flight : Flight) (transcript : Transcript)
      (going : m.watcher.stopping = false) (about : flight.text = text)
      (yields : m.before.command.transcript m.before.host flight = .ok transcript)
      (known : memory.knowsOutput transcript.fingerprint = true) :
      Ensues began text memory [(m, .ended (.ok .sameOutput))]
  | shown (m : Moment) (flight : Flight) (transcript : Transcript)
      (going : m.watcher.stopping = false) (about : flight.text = text)
      (yields : m.before.command.transcript m.before.host flight = .ok transcript)
      (new : memory.knowsOutput transcript.fingerprint = false) :
      Ensues began text memory
        [(m, .shown text (transcript.diagnose text began.watcher.cap)),
          (m, .ended (.ok (.shown (transcript.diagnose text began.watcher.cap).length)))]

/-- Where nothing is remembered, nothing is held back. -/
theorem Ensues.continues {began : Moment} {text : Text} {memory : Recall}
    {rest : List (Moment × Event)} (ensues : Ensues began text memory rest)
    (forgotten : memory = .empty) : Continues began text rest := by
  cases ensues with
  | underway => exact .underway
  | failed m fault => exact .failed m fault
  | discarded m stopping => exact .discarded m stopping
  | sameOutput m flight transcript _ _ _ known =>
      rw [forgotten, Recall.knowsOutput_empty] at known
      cases known
  | shown m flight transcript going about yields =>
      exact .shown m flight transcript going about yields

/-- A cycle that runs the checker on the text that is staged, and does not hold back what it finds
because it has been seen before. -/
inductive FullCycle : List (Moment × Event) → Prop
  | intro (began : Moment) (text : Text) (rest : List (Moment × Event))
      (staged : began.watcher.staged = some text) (continues : Continues began text rest) :
      FullCycle ((began, .checked text) :: rest)

/-- Cycles that run in full until one of them has shown its diagnostics. -/
def FullUntilShown (cs : List (List (Moment × Event))) : Prop :=
  ∀ earlier cycle later, cs = earlier ++ cycle :: later →
    (∀ entry ∈ earlier.flatten, entry.2.set? = none) → FullCycle cycle

/-- Where there are no cycles, none of them falls short. -/
theorem fullUntilShown_nil : FullUntilShown [] := by
  intro earlier cycle later split
  cases earlier <;> cases split

/-- A cycle in full may come first, and when it shows nothing, the others have to run in full in its
place. -/
theorem FullUntilShown.cons {cycle : List (Moment × Event)} {cs : List (List (Moment × Event))}
    (first : FullCycle cycle)
    (rest : (∀ entry ∈ cycle, entry.2.set? = none) → FullUntilShown cs) :
    FullUntilShown (cycle :: cs) := by
  intro earlier cycle' later split unshown
  cases earlier with
  | nil =>
      cases split
      exact first
  | cons head earlier =>
      cases split
      rw [List.flatten_cons, List.forall_mem_append] at unshown
      exact rest unshown.1 earlier cycle' later rfl unshown.2

/-! ### Ends of cycles -/

/-- A run of the checker does not end the cycle that has begun with it. -/
theorem cycles_checked {log cycle : List (Moment × Event)} {later : List (List (Moment × Event))}
    (hcycles : cycles log = cycle :: later) (m : Moment) (text : Text) :
    cycles ((m, .checked text) :: log) = ((m, .checked text) :: cycle) :: later := by
  have unended (m' : Moment) (result : Except CheckFault Outcome)
      (same : (m, Event.checked text) = (m', .ended result)) : False := by
    cases (Prod.mk.inj same).2
  rw [cycles.eq_3 _ _ unended, hcycles]

/-- A run of the checker belongs to the first cycle after it, and to no other one. -/
theorem tail_cycles_checked (log : List (Moment × Event)) (m : Moment) (text : Text) :
    (cycles ((m, .checked text) :: log)).tail = (cycles log).tail := by
  cases hcycles : cycles log with
  | nil => simp [cycles, hcycles]
  | cons cycle later => rw [cycles_checked hcycles, List.tail_cons, List.tail_cons]

namespace Watcher

variable {w : Watcher}

/-- What a watcher does at the end of a cycle ends exactly one cycle. -/
theorem cycles_finish (w : Watcher) (now : Nat) (job : Job) (check : Except CheckFault Transcript)
    (m : Moment) (log : List (Moment × Event)) :
    cycles ((w.finish now job check).2.map (Prod.mk m) ++ log) =
      (w.finish now job check).2.map (Prod.mk m) :: cycles log := by
  obtain ⟨result, memory, events, closes, hfinish⟩ := w.finish_closes now job check
  rw [hfinish]
  cases closes <;> rfl

/-- The end of a cycle goes by what is remembered then. -/
theorem finish_ensues {m began : Moment} {job : Job} {check : Except CheckFault Transcript}
    (hstopping : w.stopping = m.watcher.stopping) (hcap : job.cap = began.watcher.cap)
    (yields : m.before.command.Yields m.before.host job.flight check) (now : Nat) :
    Ensues began job.flight.text w.memory ((w.finish now job check).2.map (Prod.mk m)) := by
  obtain ⟨result, memory, events, closes, hfinish⟩ := w.finish_closes now job check
  rw [hfinish]
  cases closes with
  | failed => exact .failed m _
  | discarded _ unwanted => exact .discarded m (hstopping.symm.trans unwanted)
  | @sameOutput transcript hcheck wanted known =>
      have hyields : check = .ok transcript := hcheck
      subst hyields
      exact .sameOutput m job.flight transcript (hstopping.symm.trans wanted) rfl
        yields.eq_transcript known
  | @shown transcript hcheck wanted new =>
      have hyields : check = .ok transcript := hcheck
      subst hyields
      dsimp only [trialOf]
      rw [hcap]
      exact .shown m job.flight transcript (hstopping.symm.trans wanted) rfl
        yields.eq_transcript new

/-- The end of a cycle of a watcher that remembers nothing holds nothing back. Unless it shows
something, nothing is remembered after it either. -/
theorem finish_continues {m began : Moment} {job : Job} {check : Except CheckFault Transcript}
    (forgotten : w.memory = .empty) (hstopping : w.stopping = m.watcher.stopping)
    (hcap : job.cap = began.watcher.cap)
    (yields : m.before.command.Yields m.before.host job.flight check) (now : Nat) :
    Continues began job.flight.text ((w.finish now job check).2.map (Prod.mk m)) ∧
      ((∀ entry ∈ (w.finish now job check).2.map (Prod.mk m), entry.2.set? = none) →
        (w.finish now job check).1.memory = .empty) := by
  constructor
  · exact (finish_ensues hstopping hcap yields now).continues forgotten
  · obtain ⟨result, memory, events, closes, hfinish⟩ := w.finish_closes now job check
    rw [hfinish]
    rw [forgotten] at closes
    cases closes with
    | failed | discarded => exact fun _ => rfl
    | sameOutput _ _ known => cases known
    | shown => exact fun unshown => nomatch unshown _ (List.mem_cons_self ..)

end Watcher

/-! ### The debt -/

namespace Bench

/-- A step that requests a cycle in full of a watcher: a text is staged with the demand, or a new
cap is set. -/
inductive Step.Forces (w : Watcher) : Step → Prop
  | text (text : Text) : Forces w (.stageForced text true)
  | cap {cap : Nat} (new : cap ≠ w.cap) : Forces w (.setCap cap)

/-- A request to run in full sets the flag at once. -/
theorem Step.Forces.tune_forced {w : Watcher} {s : Step} (forces : s.Forces w) :
    (s.tune w).forced = true := by
  cases forces with
  | text => rfl
  | cap new =>
      rw [Step.tune, Watcher.setCap, if_neg (Ne.symm new)]
      rfl

/-- A request to run in full is all that sets the flag before the watcher itself does anything. -/
theorem Step.tune_forced_iff (s : Step) (w : Watcher) :
    (s.tune w).forced = true ↔ w.forced = true ∨ s.Forces w := by
  constructor
  · intro forced
    cases s with
    | start =>
        rw [tune] at forced
        split at forced <;> exact .inl forced
    | stop =>
        rw [tune, Watcher.halt] at forced
        dsimp only at forced
        split at forced <;> exact .inl forced
    | stageForced text full =>
        cases full with
        | true => exact .inr (.text text)
        | false => exact .inl forced
    | setCap cap =>
        rw [tune, Watcher.setCap] at forced
        split at forced
        · exact .inl forced
        · next new => exact .inr (.cap (Ne.symm new))
    | _ => exact .inl forced
  · rintro (forced | forces)
    · exact (s.tunes w).forced forced
    · exact forces.tune_forced

/-- A bench with a request to run in full that is still to be met, and what has happened so far in
the cycle that may meet it. Before that cycle begins, the request waits in the flag, or has been
heeded in vain, so that the memory is empty; while it waits for its run, the memory is empty. -/
inductive Owes (b : Bench) : List (Moment × Event) → Prop
  | pending (free : ∀ job, b.watcher.phase ≠ .validating job)
      (owed : b.watcher.forced = true ∨ b.watcher.memory = .empty) : Owes b []
  | waiting {began : Moment} {job : Job} (hphase : b.watcher.phase = .validating job)
      (staged : began.watcher.staged = some job.flight.text)
      (hcap : job.cap = began.watcher.cap) (forgotten : b.watcher.memory = .empty) :
      Owes b [(began, .checked job.flight.text)]

/-- At the end of a round a debt remains when the request is still there, or has been heeded and
nothing has been remembered since. -/
theorem owes_of_rest {after : Bench} {w : Watcher} {now : Nat} (hafter : after.watcher = w.rest now)
    (owed : w.forced = true ∨ w.memory = .empty) : after.Owes [] := by
  refine .pending (fun job => ?_) ?_ <;> rw [hafter]
  · exact Watcher.rest_phase_ne (by nofun) (by nofun) w now
  · exact owed

/-- What the events of a step do to a debt: they go on with the cycle that may meet it, or end that
cycle as a full cycle, and if nothing has been shown in it, the debt remains. -/
inductive Pays (m : Moment) (front : List (Moment × Event)) (after : Bench) (events : List Event) :
    Prop
  | goesOn (owes : after.Owes (front ++ events.map (Prod.mk m)))
  | ends {cycle : List (Moment × Event)} (full : FullCycle cycle)
      (split : ∀ log, cycles (front ++ events.map (Prod.mk m) ++ log) = cycle :: cycles log)
      (remains : (∀ entry ∈ cycle, entry.2.set? = none) → after.Owes [])

/-- An event that has been counted as part of the cycle so far may as well be counted as the first
of the step. -/
theorem Pays.cons {m : Moment} {front : List (Moment × Event)} {after : Bench} {event : Event}
    {events : List Event} (pays : Pays m (front ++ [(m, event)]) after events) :
    Pays m front after (event :: events) := by
  have same : front ++ [(m, event)] ++ events.map (Prod.mk m) =
      front ++ (event :: events).map (Prod.mk m) := by
    rw [List.append_assoc]
    rfl
  cases pays with
  | goesOn owes =>
      rw [same] at owes
      exact .goesOn owes
  | ends full split remains =>
      rw [same] at split
      exact .ends full split remains

/-- The end of a cycle that began with nothing remembered. -/
theorem pays_of_finish {m began : Moment} {after : Bench} {w : Watcher} {job : Job}
    {check : Except CheckFault Transcript} {now : Nat}
    (hafter : after.watcher = (w.finish now job check).1) (forgotten : w.memory = .empty)
    (hstopping : w.stopping = m.watcher.stopping) (hcap : job.cap = began.watcher.cap)
    (staged : began.watcher.staged = some job.flight.text)
    (yields : m.before.command.Yields m.before.host job.flight check) :
    Pays m [(began, .checked job.flight.text)] after (w.finish now job check).2 := by
  obtain ⟨continues, remains⟩ :=
    Watcher.finish_continues forgotten hstopping hcap yields now
  refine .ends ⟨began, _, _, staged, continues⟩
    (fun log => cycles_checked (w.cycles_finish now job check m log) began _) fun unshown => ?_
  exact owes_of_rest hafter (.inr (remains (List.forall_mem_cons.mp unshown).2))

/-- A round of the loop with a debt begins a full cycle, if it begins any. -/
theorem pays_of_turns {m : Moment} {after : Bench} {h : Host} {w : Watcher} {events : List Event}
    (hafter : after.watcher = w) (alike : h.Alike m.before.host)
    (owed : m.watcher.forced = true ∨ m.watcher.memory = .empty)
    (turns : Watcher.Turns m.before.command h m.watcher w events) : Pays m [] after events := by
  have forgotten : m.watcher.heed.memory = .empty := Watcher.heed_memory owed
  have knowsNothing (text : Text) : m.watcher.heed.memory.knowsText text = false := by
    rw [forgotten]
    rfl
  obtain ⟨-, hcap, hstopping⟩ := m.watcher.heed_frame
  cases turns with
  | stops =>
      refine .goesOn (.pending (fun job => ?_) ?_) <;> rw [hafter]
      · nofun
      · exact owed
  | rests => exact .goesOn (owes_of_rest hafter (.inr forgotten))
  | @begins text w' events going staged begins =>
      cases begins with
      | knows known =>
          rw [knowsNothing] at known
          cases known
      | fails fault =>
          refine .ends ⟨m, text, _, staged, .failed m fault⟩ (fun log => rfl) fun _ => ?_
          exact owes_of_rest hafter (.inr forgotten)
      | waits flight new about =>
          subst about
          have owes : after.Owes [(m, .checked flight.text)] := by
            refine @Owes.waiting after m { cap := m.watcher.heed.cap, flight } ?_ staged hcap ?_ <;>
              rw [hafter]
            exact forgotten
          exact .goesOn owes
      | passes flight check new about yields =>
          subst about
          have pays := pays_of_finish hafter forgotten hstopping hcap staged (yields.congr alike)
          exact pays.cons

/-- A step goes on with a debt, or pays it, or leaves it. -/
theorem Owes.pays {b : Bench} {front : List (Moment × Event)} (owes : b.Owes front) (s : Step) :
    Pays ⟨b, s⟩ front (b.step s).1 (b.step s).2.1 := by
  obtain ⟨h, alike, acts⟩ := b.step_acts s
  generalize hafter : (b.step s).1.watcher = w, (b.step s).2.1 = events at acts
  cases owes with
  | pending free owed =>
      have owed : (s.tune b.watcher).forced = true ∨ (s.tune b.watcher).memory = .empty := by
        rw [(s.tunes b.watcher).memory]
        exact owed.imp_left (s.tunes b.watcher).forced
      have free (job : Job) : (s.tune b.watcher).phase ≠ .validating job := by
        rcases (s.tunes b.watcher).phase with same | ⟨-, ended⟩
        · rw [same]
          exact free job
        · rw [ended]
          nofun
      cases acts with
      | waits =>
          refine .goesOn (.pending (fun job => ?_) ?_) <;> rw [hafter]
          · exact free job
          · exact owed
      | turns due turns => exact pays_of_turns hafter alike owed turns
      | settles hphase => exact absurd hphase (free _)
  | @waiting began job hphase staged hcap forgotten =>
      have tuned := s.tune_phase hphase nofun
      have forgotten := (s.tunes b.watcher).memory.trans forgotten
      cases acts with
      | waits =>
          refine .goesOn ?_
          rw [List.map_nil, List.append_nil]
          refine .waiting ?_ staged hcap ?_ <;> rw [hafter]
          · exact tuned
          · exact forgotten
      | turns due turns =>
          rw [tuned] at due
          rcases due with idle | ⟨deadline, asleep⟩
          · cases idle
          · cases asleep
      | @settles job' check hphase' yields =>
          cases tuned.symm.trans hphase'
          exact pays_of_finish hafter forgotten rfl hcap staged (yields.congr alike)

/-- The cycles of a bench with a debt run in full until one of them has shown its diagnostics, by
induction on the steps. -/
theorem Owes.fullUntilShown {b : Bench} {front : List (Moment × Event)} (owes : b.Owes front)
    (steps : List Step) : FullUntilShown (cycles (front ++ b.log steps)) := by
  induction steps generalizing b front with
  | nil =>
      cases owes with
      | pending => exact fullUntilShown_nil
      | waiting _ staged => exact .cons ⟨_, _, [], staged, .underway⟩ fun _ => fullUntilShown_nil
  | cons s steps ih =>
      rw [log, ← List.append_assoc]
      cases owes.pays s with
      | goesOn owes => exact ih owes
      | ends full split remains =>
          rw [split]
          exact .cons full fun unshown => ih (remains unshown)

/-- The cycle that waits for its run when a request is made does not consume the request, whatever
becomes of it. -/
theorem fullUntilShown_tail {b : Bench} {job : Job} (hphase : b.watcher.phase = .validating job)
    (forced : b.watcher.forced = true) (steps : List Step) :
    FullUntilShown (cycles (b.log steps)).tail := by
  induction steps generalizing b with
  | nil => exact fullUntilShown_nil
  | cons s steps ih =>
      have tuned := s.tune_phase hphase nofun
      have still := (s.tunes b.watcher).forced forced
      rw [log]
      rcases step_of_validating hphase s with
        ⟨-, hwatcher, hevents⟩ | ⟨-, h, check, -, hwatcher, hevents⟩
      · rw [hevents]
        exact ih (by rw [hwatcher, tuned]) (by rw [hwatcher, still])
      · rw [hevents, Watcher.cycles_finish]
        have owes : (b.step s).1.Owes [] := owes_of_rest hwatcher (.inl still)
        exact owes.fullUntilShown steps

/-- A request to run in full is never lost. Whatever state it is made in, and whatever happens after
it, the cycles that begin after it run in full until one of them has shown its diagnostics: none of
them leaves the checker out because the text is known, or its diagnostics because the output is. -/
theorem fullCycle_of_forces (b : Bench) (request : Step) (forces : request.Forces b.watcher)
    (steps : List Step) (earlier later : List (List (Moment × Event)))
    (cycle : List (Moment × Event))
    (split : (b.step request).1.cyclesBegun steps = earlier ++ cycle :: later)
    (unshown : ∀ entry ∈ earlier.flatten, entry.2.set? = none) : FullCycle cycle := by
  have hwatcher : (b.step request).1.watcher = request.tune b.watcher := by
    cases forces <;> rfl
  have forced : (b.step request).1.watcher.forced = true := by
    rw [hwatcher]
    exact forces.tune_forced
  generalize (b.step request).1 = after at split forced
  suffices full : FullUntilShown (after.cyclesBegun steps) from
    full earlier cycle later split unshown
  cases hphase : after.watcher.phase with
  | validating job =>
      rw [cyclesBegun, hphase]
      exact fullUntilShown_tail hphase forced steps
  | _ =>
      rw [cyclesBegun, hphase]
      exact Owes.fullUntilShown (.pending (fun job => by rw [hphase]; nofun) (.inl forced)) steps

/-- A bench whose watcher waits for a checker that the gate holds back. -/
def held : Bench :=
  let scratch : Scratch := { location := "/tmp".toList, next := 1 }
  let host : Host := { scratch, programs := fun _ => .studied }
  let b : Bench := { host, grace := 0, watcher := { interval := 1000, cap := 8 } }
  (b.run [.stage "x".toList, .setGate true, .start]).1

/-- The checker returns, then a run fails, and then a run succeeds. -/
def recovery : List Step :=
  [.setGate false, .setChecker { reply := fun _ _ => .error .notFound }, .advance 1000,
    .setChecker .silent, .advance 1000]

/-- A request that is made while a cycle waits for its run, and that is not met until a later cycle
has failed, is met by the cycle after that, although its text and its output have been shown. -/
theorem fullCycle_recovery :
    Step.Forces held.watcher (.stageForced "x".toList true) ∧ ∃ failed shown,
      (held.step (.stageForced "x".toList true)).1.cyclesBegun recovery = [failed] ++ shown :: [] ∧
      failed.map Prod.snd =
        [.checked "x".toList, .ended (.error (.stream .notFound))] ∧
      shown.map Prod.snd =
        [.checked "x".toList, .shown "x".toList [], .ended (.ok (.shown 0))] ∧
      FullCycle shown := by
  have forces : Step.Forces held.watcher (.stageForced "x".toList true) := .text _
  refine ⟨forces, _, _, rfl, rfl, rfl, ?_⟩
  refine fullCycle_of_forces held _ forces recovery [_] [] _ rfl ?_
  exact List.forall_mem_cons.mpr ⟨rfl, List.forall_mem_cons.mpr ⟨rfl, List.forall_mem_nil _⟩⟩

end Bench

end SyntaxWatch
