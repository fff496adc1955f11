import SyntaxWatch.Proofs.Watcher.Moves

/-!
# What a watcher can show

An act of a watcher shows at most one set of diagnostics, for a text that was staged before or for
the text of the cycle that has waited for its run, and only while nobody has told the watcher to
stop. So what a watcher may show at all is known beforehand (`Watcher.Holds`), and only its owner
adds to it.

Two states say more. A watcher that remembers nothing ends no cycle in silence, unless the cycle
fails or is discarded. A watcher that has shown its staged text (`Watcher.Sated`) has nothing more
to show until its owner stages a text or requests a cycle in full.

## Main definitions

* `Watcher.Holds`: the texts that a watcher may still show, with their caps.
* `Watcher.Displays`: what the events of an act can be, as far as sets of diagnostics go.
* `Watcher.Sated`: a watcher with nothing to show.
* `Watcher.Drives`: what a watcher does on a host that it shares with others.

## Main results

* `Watcher.Acts.holds`, `Watcher.Acts.displays`: what an act can show.
* `Watcher.Acts.outspoken`, `Watcher.Acts.of_sated`: the acts in the two special states.
-/

namespace SyntaxWatch

namespace Watcher

variable {c : Command} {h : Host} {w w' : Watcher} {events : List Event} {text : Text} {cap : Nat}

/-! ### What a watcher may still show -/

/-- A text that a watcher may still show something for, with the cap that it then uses: the text
that is staged, and the text of the cycle that waits for its run. -/
inductive Holds (w : Watcher) : Text → Nat → Prop
  | staged {text : Text} (staged : w.staged = some text) : Holds w text w.cap
  | underway {job : Job} (hphase : w.phase = .validating job) : Holds w job.flight.text job.cap

/-- No act gives a watcher anything new to show. -/
theorem Acts.holds (acts : Acts c h w w' events) (holds : w'.Holds text cap) :
    w.Holds text cap := by
  obtain ⟨staged, hcap, -⟩ := acts.frame
  cases holds with
  | staged here =>
      rw [hcap]
      exact .staged (staged.symm.trans here)
  | @underway job waits =>
      have awake (w : Watcher) (now : Nat) : (w.rest now).phase ≠ .validating job :=
        rest_phase_ne (by nofun) (by nofun) w now
      cases acts with
      | waits => exact .underway waits
      | settles => exact absurd waits (awake _ _)
      | turns due turns =>
          cases turns with
          | stops => cases waits
          | rests => exact absurd waits (awake _ _)
          | begins going here begins =>
              cases begins with
              | knows | fails | passes => exact absurd waits (awake _ _)
              | waits flight new about =>
                  cases waits
                  rw [about, w.heed_frame.2.1]
                  exact .staged here

/-- A stop touches neither the text nor what is remembered. -/
theorem halt_frame (w : Watcher) :
    w.halt.staged = w.staged ∧ w.halt.memory = w.memory ∧ w.halt.stopping = true := by
  unfold halt
  dsimp only
  split <;> exact ⟨rfl, rfl, rfl⟩

/-- A stop gives a watcher nothing new to show. -/
theorem Holds.of_halt (holds : w.halt.Holds text cap) : w.Holds text cap := by
  unfold halt at holds
  dsimp only at holds
  split at holds
  · cases holds with
    | staged staged => exact .staged staged
    | underway hphase => cases hphase
  · cases holds with
    | staged staged => exact .staged staged
    | underway hphase => exact .underway hphase

/-- Staging a text touches neither what is remembered nor a request to stop. -/
theorem stageForced_frame (w : Watcher) (text : Text) (full : Bool) :
    (w.stageForced text full).staged = some text ∧
      (w.stageForced text full).memory = w.memory ∧
      (w.stageForced text full).stopping = w.stopping := by
  cases full <;> exact ⟨rfl, rfl, rfl⟩

/-- Staging a text adds this text, with the cap that the watcher has. -/
theorem Holds.of_stageForced {full : Bool} {staged : Text}
    (holds : (w.stageForced staged full).Holds text cap) :
    text = staged ∧ cap = w.cap ∨ w.Holds text cap := by
  cases full <;> cases holds with
  | staged here =>
      cases here
      exact .inl ⟨rfl, rfl⟩
  | underway hphase => exact .inr (.underway hphase)

/-- Whether a watcher can be waited for makes no difference to what it may show. -/
theorem Holds.of_awaited {awaited : Bool} (holds : ({ w with awaited } : Watcher).Holds text cap) :
    w.Holds text cap := by
  cases holds with
  | staged staged => exact .staged staged
  | underway hphase => exact .underway hphase

/-! ### What an act shows -/

/-- The events of an act: nothing is shown, or one set is shown, as the last thing before the cycle
ends. -/
inductive Displays (c : Command) (h : Host) (w : Watcher) : List Event → Prop
  | nothing {events : List Event} (unshown : ∀ event ∈ events, event.set? = none)
      (undone : ∀ count, .ended (.ok (.shown count)) ∉ events) : Displays c h w events
  | shows {cap : Nat} {flight : Flight} {transcript : Transcript} (front : List Event)
      (before : front = [] ∨ front = [.checked flight.text]) (going : w.stopping = false)
      (holds : w.Holds flight.text cap) (yields : c.transcript h flight = .ok transcript) :
      Displays c h w (front ++ [.shown flight.text (transcript.diagnose flight.text cap),
        .ended (.ok (.shown (transcript.diagnose flight.text cap).length))])

/-- The end of a cycle, and what comes before it in the same act. -/
theorem displays_finish {job : Job} {check : Except CheckFault Transcript} {front : List Event}
    (before : front = [] ∨ front = [.checked job.flight.text])
    (hstopping : w'.stopping = w.stopping) (holds : w.Holds job.flight.text job.cap)
    (yields : c.Yields h job.flight check) (now : Nat) :
    Displays c h w (front ++ (w'.finish now job check).2) := by
  have silent {result : Except CheckFault Outcome}
      (unshown : ∀ count, result ≠ .ok (.shown count)) :
      Displays c h w (front ++ [.ended result]) := by
    rcases before with rfl | rfl <;> refine .nothing (by simp [Event.set?]) fun count mem => ?_ <;>
      simp only [List.nil_append, List.cons_append, List.mem_cons, reduceCtorEq, Event.ended.injEq,
        List.not_mem_nil, or_false, false_or] at mem <;>
      exact unshown count mem.symm
  obtain ⟨result, memory, events, closes, hfinish⟩ := w'.finish_closes now job check
  rw [hfinish]
  cases closes with
  | failed | discarded | sameOutput => exact silent (by nofun)
  | @shown transcript hcheck wanted =>
      have hyields : check = .ok transcript := hcheck
      subst hyields
      exact .shows front before (hstopping.symm.trans wanted) holds yields.eq_transcript

/-- Whatever a watcher does in an act, it shows one set at most, of a text that it was to show, and
only while nobody has told it to stop. -/
theorem Acts.displays (acts : Acts c h w w' events) : Displays c h w events := by
  cases acts with
  | waits => exact .nothing nofun nofun
  | settles hphase yields => exact displays_finish (.inl rfl) rfl (.underway hphase) yields h.clock
  | turns due turns =>
      cases turns with
      | stops | rests => exact .nothing nofun nofun
      | begins going here begins =>
          obtain ⟨-, hcap, hstopping⟩ := w.heed_frame
          cases begins with
          | knows | fails | waits => exact .nothing (by simp [Event.set?]) (by simp)
          | passes flight check new about yields =>
              subst about
              let job : Job := { cap := w.heed.cap, flight }
              have holds : w.Holds job.flight.text job.cap := by
                dsimp only [job]
                rw [hcap]
                exact .staged here
              exact displays_finish (.inr rfl) hstopping holds yields h.clock

/-! ### Watchers that remember nothing -/

/-- A watcher that ends no cycle in silence any more, unless the cycle fails or is discarded: it has
been told to stop, or remembers nothing. -/
def Outspoken (w : Watcher) : Prop :=
  w.stopping = true ∨ w.memory = .empty

/-- A cycle that ends and shows nothing leaves an outspoken watcher outspoken, and has failed or
been discarded. -/
theorem finish_outspoken {now : Nat} {job : Job} {check : Except CheckFault Transcript}
    (outspoken : w.Outspoken) (unshown : ∀ event ∈ (w.finish now job check).2, event.set? = none) :
    (w.finish now job check).1.Outspoken ∧
      ∀ outcome, .ended (.ok outcome) ∈ (w.finish now job check).2 →
        outcome = .discarded ∧ w.stopping = true := by
  obtain ⟨result, memory, events, closes, hfinish⟩ := w.finish_closes now job check
  rw [hfinish] at unshown ⊢
  cases closes with
  | failed => exact ⟨outspoken, by simp⟩
  | discarded _ unwanted => exact ⟨outspoken, by simpa [trialOf] using unwanted⟩
  | sameOutput _ wanted known =>
      have forgotten := outspoken.resolve_left (Bool.eq_false_iff.mp wanted)
      rw [forgotten] at known
      cases known
  | shown => exact nomatch unshown _ (List.mem_cons_self ..)

/-- An outspoken watcher remains outspoken until it shows something, and until then its cycles fail
or are discarded. -/
theorem Acts.outspoken (acts : Acts c h w w' events) (outspoken : w.Outspoken)
    (unshown : ∀ event ∈ events, event.set? = none) :
    w'.Outspoken ∧ ∀ outcome, .ended (.ok outcome) ∈ events →
      outcome = .discarded ∧ w.stopping = true := by
  cases acts with
  | waits => exact ⟨outspoken, nofun⟩
  | settles => exact finish_outspoken outspoken unshown
  | turns due turns =>
      cases turns with
      | stops stopping => exact ⟨.inl stopping, nofun⟩
      | rests going =>
          have forgotten := outspoken.resolve_left (Bool.eq_false_iff.mp going)
          exact ⟨.inr (heed_memory (.inr forgotten)), nofun⟩
      | begins going here begins =>
          have forgotten := outspoken.resolve_left (Bool.eq_false_iff.mp going)
          have heeded : w.heed.memory = .empty := heed_memory (.inr forgotten)
          cases begins with
          | knows known =>
              rw [heeded, Recall.knowsText_empty] at known
              cases known
          | fails | waits => exact ⟨.inr heeded, by simp⟩
          | passes flight check =>
              obtain ⟨still, silent⟩ :=
                finish_outspoken (.inr heeded) (List.forall_mem_cons.mp unshown).2
              rw [w.heed_frame.2.2] at silent
              exact ⟨still, by simpa using silent⟩

/-! ### Watchers with nothing to show -/

/-- A watcher whose staged text is known, that is not asked to run in full, and that waits for no
run. -/
structure Sated (w : Watcher) : Prop where
  unforced : w.forced = false
  free : ∀ job, w.phase ≠ .validating job
  knows : ∀ text, w.staged = some text → w.memory.knowsText text = true

/-- A sated watcher shows nothing and stays sated. -/
theorem Acts.of_sated (acts : Acts c h w w' events) (sated : w.Sated) :
    w'.Sated ∧ ∀ event ∈ events, event.set? = none := by
  obtain ⟨unforced, free, knows⟩ := sated
  cases acts with
  | waits => exact ⟨⟨unforced, free, knows⟩, nofun⟩
  | settles hphase => exact absurd hphase (free _)
  | turns due turns =>
      have asleep (now : Nat) (job : Job) : (w.rest now).phase ≠ .validating job :=
        rest_phase_ne (by nofun) (by nofun) w now
      cases turns with
      | stops => exact ⟨⟨unforced, nofun, knows⟩, nofun⟩
      | rests =>
          rw [heed_of_unforced unforced]
          exact ⟨⟨unforced, asleep _, knows⟩, nofun⟩
      | begins going here begins =>
          rw [heed_of_unforced unforced] at begins
          cases begins with
          | knows => exact ⟨⟨unforced, asleep _, knows⟩, by simp [Event.set?]⟩
          | fails _ new | waits _ new | passes _ _ new =>
              rw [knows _ here] at new
              cases new

/-- A cycle that shows something remembers its text. -/
theorem finish_knowsText {now : Nat} {job : Job} {check : Except CheckFault Transcript}
    (shown : ¬∀ event ∈ (w.finish now job check).2, event.set? = none) :
    (w.finish now job check).1.memory.knowsText job.flight.text = true := by
  obtain ⟨result, memory, events, closes, hfinish⟩ := w.finish_closes now job check
  rw [hfinish] at shown ⊢
  cases closes with
  | failed | discarded | sameOutput => exact absurd (by simp [Event.set?]) shown
  | shown => exact (Recall.knowsText_withText w.memory _ _).mpr rfl

/-- A watcher that shows something in its first act is sated. -/
theorem Acts.sated_of_idle (acts : Acts c h w w' events) (idle : w.phase = .idle)
    (shown : ¬∀ event ∈ events, event.set? = none) : w'.Sated := by
  cases acts with
  | waits => exact absurd nofun shown
  | settles hphase => cases idle.symm.trans hphase
  | turns due turns =>
      cases turns with
      | stops | rests => exact absurd nofun shown
      | begins going here begins =>
          cases begins with
          | knows | fails | waits => exact absurd (by simp [Event.set?]) shown
          | passes flight check new about yields =>
              subst about
              have knows := finish_knowsText fun unshown =>
                shown (List.forall_mem_cons.mpr ⟨rfl, unshown⟩)
              refine ⟨w.heed_forced, fun job => rest_phase_ne (by nofun) (by nofun) _ _, ?_⟩
              intro text staged
              cases (w.heed_frame.1.symm.trans staged).symm.trans here
              exact knows

/-! ### Watchers that share a host -/

/-- What is done with a watcher on a host that it shares with others: at most it begins to be waited
for, and then it acts. The host stays alike. -/
def Drives (c : Command) (f : Host → Watcher → Host × Watcher × List Event) : Prop :=
  ∀ h w, (f h w).1.Alike h ∧ ∃ awaited, Acts c h { w with awaited } (f h w).2.1 (f h w).2.2

/-- Looking after a run leaves the host alike. -/
theorem settle_alike (c : Command) (h : Host) (w : Watcher) : (settle c h w).1.Alike h := by
  unfold settle
  split
  · split <;> exact ⟨rfl, rfl, rfl⟩
  · exact .refl h

/-- A round leaves the host alike. -/
theorem turn_alike (c : Command) (h : Host) (w : Watcher) : (turn c h w).1.Alike h := by
  unfold turn
  split
  · exact .refl h
  · dsimp only
    split
    · exact .refl h
    · next text _ =>
        unfold check
        split
        · exact .refl h
        · have launched := (c.launch_alike h text).1
          generalize c.launch h text = launch at launched
          obtain ⟨h', result⟩ := launch
          cases result with
          | error fault => exact launched
          | ok flight => exact (settle_alike c h' _).trans launched

/-- Looking after a run is an act on a host that stays alike. -/
theorem settle_drives (c : Command) : Drives c (settle c) :=
  fun h w => ⟨settle_alike c h w, w.awaited, settle_acts c h w⟩

/-- Waking up is an act on a host that stays alike. -/
theorem wake_drives (c : Command) : Drives c (wake c) := by
  refine fun h w => ⟨?_, w.awaited, wake_acts c h w⟩
  unfold wake
  split
  · split
    · exact turn_alike c h w
    · exact .refl h
  · exact settle_alike c h w

/-- To start a watcher is to begin to wait for it, and an act on a host that stays alike. -/
theorem start_drives (c : Command) : Drives c (start c) := by
  intro h w
  unfold start
  split
  · next idle => exact ⟨turn_alike c h _, true, .turns (.inl idle) (turns c h _)⟩
  · exact ⟨.refl h, w.awaited, .waits⟩

end Watcher

end SyntaxWatch
