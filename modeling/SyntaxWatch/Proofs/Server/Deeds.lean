import SyntaxWatch.Proofs.Watcher.Showing
import SyntaxWatch.Server.Session

/-!
# What the workers of a session do

In the course of a step of a session its workers act, one after the other, on their common host, and
now and then one of them is told to stop (`Plays`). A worker that has acted serves the same
document, keeps what its owner has set, and has nothing new to show. Whatever a session does with
its workers comes to such a sequence of deeds (`Driven`).

## Main definitions

* `Deed`: what a worker does, or has done to it, in the course of a step.
* `Session.Plays`: workers do one thing after the other.
* `Session.Leaves`: what is left of a worker.
* `Session.Driven`: what a drive comes to.

## Main results

* `Session.Plays.worker`: what is left of a worker after it has acted.
* `Session.Plays.shown`: who shows something, and what.
* `Session.elapse_driven`, `Session.stopEach_driven`: what the drives come to.
-/

namespace SyntaxWatch

/-- What happens to a worker: it is told to stop, or it acts, with some events. -/
inductive Deed where
  | halt (number : Nat)
  | act (number : Nat) (uri : Uri) (events : List Event)

namespace Deed

/-- The number of the worker. -/
def number : Deed → Nat
  | halt number => number
  | act number _ _ => number

/-- What comes of a deed in a session. -/
def log (s : Session) : Deed → List Occurrence
  | halt _ => []
  | act number uri events => events.flatMap (s.observe number uri)

/-- What a worker shows in a deed. -/
def displays (number : Nat) : Deed → List (Text × List Diagnostic)
  | halt _ => []
  | act other _ events => if other = number then events.filterMap Event.display? else []

end Deed

namespace Session

/-! ### Workers that act one after the other -/

/-- From one session to another its workers do some deeds, one after the other. Between them, the
host may change as hosts do while time passes. -/
inductive Plays : Session → List Deed → Session → Prop
  | rests {s : Session} {host : Host} (alike : host.Alike s.host) : Plays s [] { s with host }
  | halts {s s' : Session} {deeds : List Deed} (number : Nat)
      (plays : Plays (s.modify number Watcher.halt) deeds s') : Plays s (.halt number :: deeds) s'
  | acts {s s' : Session} {deeds : List Deed} {number : Nat} {worker : Worker} {h host : Host}
      {awaited : Bool} {watcher : Watcher} {events : List Event}
      (hworker : s.workers[number]? = some worker) (alike : h.Alike s.host)
      (acts : Watcher.Acts s.settings.command h { worker.watcher with awaited } watcher events)
      (after : host.Alike s.host)
      (plays : Plays { s with host, workers := s.workers.set number { worker with watcher } } deeds
        s') :
      Plays s (.act number worker.uri events :: deeds) s'

/-- Two sessions that differ at most in what their watchers have done, and in what of their hosts
changes with time. -/
structure Alike (s s' : Session) : Prop where
  settings : s.settings = s'.settings
  lifecycle : s.lifecycle = s'.lifecycle
  documents : s.documents = s'.documents
  tracked : s.tracked = s'.tracked
  workers : s.workers.length = s'.workers.length
  host : s.host.Alike s'.host

variable {s s' s'' : Session} {deeds more : List Deed}

/-- Likeness passes on from one session to the next. -/
theorem Alike.trans (first : s''.Alike s') (second : s'.Alike s) : s''.Alike s where
  settings := first.settings.trans second.settings
  lifecycle := first.lifecycle.trans second.lifecycle
  documents := first.documents.trans second.documents
  tracked := first.tracked.trans second.tracked
  workers := first.workers.trans second.workers
  host := first.host.trans second.host

/-- To modify the watcher of a worker leaves all other workers. -/
theorem modify_workers (s : Session) (number : Nat) (f : Watcher → Watcher) (n : Nat) :
    (s.modify number f).workers[n]? =
      s.workers[n]?.map fun w => if number = n then { w with watcher := f w.watcher } else w := by
  rw [modify, List.getElem?_modify]
  rfl

/-- To modify a watcher changes nothing else in a session. -/
theorem alike_modify (s : Session) (number : Nat) (f : Watcher → Watcher) :
    (s.modify number f).Alike s :=
  ⟨rfl, rfl, rfl, rfl, List.length_modify .., .refl s.host⟩

/-- When a worker takes up its new state on a host that is alike, nothing else changes. -/
theorem alike_set (s : Session) {host : Host} (alike : host.Alike s.host) (number : Nat)
    (worker : Worker) :
    ({ s with host, workers := s.workers.set number worker } : Session).Alike s :=
  ⟨rfl, rfl, rfl, rfl, List.length_set, alike⟩

/-- Deeds of the workers leave all else in a session as it is, and their number too. -/
theorem Plays.alike (plays : s.Plays deeds s') : s'.Alike s := by
  induction plays with
  | rests alike => exact ⟨rfl, rfl, rfl, rfl, rfl, alike⟩
  | halts number _ ih => exact ih.trans (alike_modify ..)
  | acts _ _ _ after _ ih => exact ih.trans (alike_set _ after ..)

/-- A change of the host before the first deed makes no difference. -/
theorem Plays.of_host {host : Host} (alike : host.Alike s.host)
    (plays : ({ s with host } : Session).Plays deeds s') : s.Plays deeds s' := by
  generalize hfirst : ({ s with host } : Session) = first at plays
  induction plays generalizing s with
  | rests alike' =>
      subst hfirst
      exact .rests (alike'.trans alike)
  | halts number _ ih =>
      subst hfirst
      exact .halts number (ih alike rfl)
  | acts hworker alike' acts after plays =>
      subst hfirst
      exact .acts hworker (alike'.trans alike) acts (after.trans alike) plays

/-- Deeds after other deeds are deeds, all in a row. -/
theorem Plays.append (first : s.Plays deeds s') (second : s'.Plays more s'') :
    s.Plays (deeds ++ more) s'' := by
  induction first with
  | rests alike => exact second.of_host alike
  | halts number _ ih => exact .halts number (ih second)
  | acts hworker alike acts after _ ih => exact .acts hworker alike acts after (ih second)

/-- What is left of a worker: it serves the same document, keeps what its owner has set, is told to
stop only by a halt, and has nothing new to show. -/
structure Leaves (w w' : Worker) (halted : Prop) : Prop where
  uri : w'.uri = w.uri
  staged : w'.watcher.staged = w.watcher.staged
  stopping : w'.watcher.stopping = true ↔ w.watcher.stopping = true ∨ halted
  holds : ∀ text cap, w'.watcher.Holds text cap → w.watcher.Holds text cap

/-- A worker that nobody has told to stop was not told before. -/
theorem Leaves.going {w w' : Worker} {halted : Prop} (leaves : Leaves w w' halted)
    (going : w'.watcher.stopping = false) : w.watcher.stopping = false ∧ ¬halted := by
  have told : ¬(w.watcher.stopping = true ∨ halted) := by
    rw [← leaves.stopping, going]
    nofun
  exact ⟨by simpa using mt .inl told, mt .inr told⟩

/-- A worker that does nothing is left as it was. -/
theorem leaves_self (w : Worker) : Leaves w w False :=
  ⟨rfl, rfl, by simp, fun _ _ => id⟩

/-- What is left after two deeds is what the second leaves of what the first left. -/
theorem Leaves.trans {w w' w'' : Worker} {halted more : Prop} (first : Leaves w w' halted)
    (second : Leaves w' w'' more) : Leaves w w'' (halted ∨ more) where
  uri := second.uri.trans first.uri
  staged := second.staged.trans first.staged
  stopping := by rw [second.stopping, first.stopping, or_assoc]
  holds text cap holds := first.holds text cap (second.holds text cap holds)

/-- A worker that is told to stop keeps its document and what its owner has set. -/
theorem leaves_halt (w : Worker) : Leaves w { w with watcher := w.watcher.halt } True := by
  obtain ⟨staged, -, stopping⟩ := w.watcher.halt_frame
  exact ⟨rfl, staged, by simp [stopping], fun _ _ => Watcher.Holds.of_halt⟩

/-- A worker that acts is left with what its owner has set. -/
theorem leaves_acts {c : Command} {h : Host} {w : Worker} {awaited : Bool} {watcher : Watcher}
    {events : List Event}
    (acts : Watcher.Acts c h { w.watcher with awaited } watcher events) :
    Leaves w { w with watcher } False := by
  obtain ⟨staged, -, stopping⟩ := acts.frame
  exact ⟨rfl, staged, by simp [stopping], fun text cap holds => (acts.holds holds).of_awaited⟩

/-- What a sequence of deeds leaves of a worker. -/
theorem Plays.worker (plays : s.Plays deeds s') {n : Nat} {w' : Worker}
    (hworker : s'.workers[n]? = some w') :
    ∃ w, s.workers[n]? = some w ∧ Leaves w w' (.halt n ∈ deeds) := by
  induction plays with
  | rests => exact ⟨w', hworker, by simpa using leaves_self w'⟩
  | @halts s s' deeds number _ ih =>
      obtain ⟨w, hw, leaves⟩ := ih hworker
      rw [modify_workers, Option.map_eq_some_iff] at hw
      obtain ⟨w₀, hw₀, rfl⟩ := hw
      refine ⟨w₀, hw₀, ?_⟩
      by_cases same : number = n
      · subst same
        simpa using (leaves_halt w₀).trans (by simpa using leaves)
      · simpa [same, Ne.symm same] using leaves
  | @acts s s' deeds number worker h host awaited watcher events hw _ acts _ _ ih =>
      obtain ⟨w, hset, leaves⟩ := ih hworker
      dsimp only at hset
      rw [List.getElem?_set] at hset
      by_cases same : number = n
      · subst same
        have bound := (List.getElem?_eq_some_iff.mp hw).1
        simp only [if_true, bound] at hset
        cases hset
        exact ⟨worker, hw, by simpa using (leaves_acts acts).trans leaves⟩
      · rw [if_neg same] at hset
        exact ⟨w, hset, by simpa using leaves⟩

/-- A worker is never lost. -/
theorem Alike.exists_worker (alike : s'.Alike s) {n : Nat} {w : Worker}
    (hworker : s.workers[n]? = some w) : ∃ w', s'.workers[n]? = some w' := by
  have bound := (List.getElem?_eq_some_iff.mp hworker).1
  rw [← alike.workers] at bound
  exact ⟨_, List.getElem?_eq_getElem bound⟩

/-- What is shown in a sequence of deeds is shown by a worker that nobody had told to stop before.
It is what a transcript of a run has to say on a text that the worker was to show, with the cap for
it. -/
theorem Plays.shown (plays : s.Plays deeds s') {n : Nat} {uri : Uri} {events : List Event}
    (deed : .act n uri events ∈ deeds) {text : Text} {set : List Diagnostic}
    (shown : .shown text set ∈ events) :
    ∃ w, s.workers[n]? = some w ∧ w.uri = uri ∧ w.watcher.stopping = false ∧
      ∃ cap, w.watcher.Holds text cap ∧ ∃ flight transcript, flight.text = text ∧
        s.settings.command.transcript s.host flight = .ok transcript ∧
        set = transcript.diagnose text cap := by
  induction plays with
  | rests => cases deed
  | @halts s s' deeds number _ ih =>
      obtain ⟨w, hw, huri, going, cap, holds, yields⟩ := ih (by simpa using deed)
      rw [modify_workers, Option.map_eq_some_iff] at hw
      obtain ⟨w₀, hw₀, rfl⟩ := hw
      by_cases same : number = n
      · rw [if_pos same] at going
        have halted := (leaves_halt w₀).stopping.mpr (.inr trivial)
        rw [going] at halted
        cases halted
      · rw [if_neg same] at huri going holds
        exact ⟨w₀, hw₀, huri, going, cap, holds, yields⟩
  | @acts s s' deeds number worker h host awaited watcher events' hw alike acts after plays ih =>
      rcases List.mem_cons.mp deed with now | later
      · cases now
        have displays := acts.displays
        cases displays with
        | nothing unshown => cases unshown _ shown
        | @shows cap flight transcript front before going holds yields =>
            obtain ⟨rfl, rfl⟩ : text = flight.text ∧ set = transcript.diagnose flight.text cap := by
              rcases before with rfl | rfl <;> simpa using shown
            rw [Command.transcript_congr alike] at yields
            exact ⟨worker, hw, rfl, going, cap, holds.of_awaited, flight, transcript, rfl, yields,
              rfl⟩
      · obtain ⟨w, hset, huri, going, cap, holds, flight, transcript, about, yields, hset'⟩ :=
          ih later
        rw [Command.transcript_congr after] at yields
        dsimp only at hset
        rw [List.getElem?_set] at hset
        by_cases same : number = n
        · subst same
          have bound := (List.getElem?_eq_some_iff.mp hw).1
          simp only [if_true, bound] at hset
          cases hset
          have leaves := leaves_acts acts
          exact ⟨worker, hw, huri, (leaves.going going).1, cap, leaves.holds _ _ holds, flight,
            transcript, about, yields, hset'⟩
        · rw [if_neg same] at hset
          exact ⟨w, hset, huri, going, cap, holds, flight, transcript, about, yields, hset'⟩

/-! ### Driving the workers -/

/-- What is shown under a name depends on the stored texts and on how far the session is. -/
theorem Alike.present (alike : s'.Alike s) : s'.present = s.present := by
  funext resource source set
  unfold Session.present publish reachesEditor
  rw [alike.documents, alike.lifecycle]

/-- The log of a deed depends on the stored texts and on how far the session is. -/
theorem Alike.log (alike : s'.Alike s) : Deed.log s' = Deed.log s := by
  funext deed
  cases deed with
  | halt => rfl
  | act number uri events =>
      have observes : s'.observe number uri = s.observe number uri := by
        funext event
        cases event <;> simp only [observe, alike.present]
      rw [Deed.log, Deed.log, observes]

/-- The workers with some numbers act, each at most once and in this order, and nobody is told to
stop. -/
def InTurn (numbers : List Nat) (deeds : List Deed) : Prop :=
  (deeds.map Deed.number).Sublist numbers ∧ ∀ n, .halt n ∉ deeds

/-- Without deeds, the workers act in any turn. -/
theorem inTurn_nil (numbers : List Nat) : InTurn numbers [] :=
  ⟨List.nil_sublist _, nofun⟩

variable {f : Host → Watcher → Host × Watcher × List Event}

/-- What a drive comes to: deeds of some kind that lead to its session and make its log. -/
structure Driven (s : Session) (kind : List Deed → Prop) (result : Session × List Occurrence) : Prop
    where
  intro ::
  exists_deeds : ∃ deeds, kind deeds ∧ s.Plays deeds result.1 ∧
    result.2 = deeds.flatMap (Deed.log s)

/-- To drive a worker comes to one deed of it, or to none when there is no such worker. -/
theorem drive_driven (drives : Watcher.Drives s.settings.command f) (number : Nat) :
    s.Driven (InTurn [number]) (s.drive number f) := by
  rw [drive]
  split
  · exact ⟨[], inTurn_nil _, .rests (.refl s.host), rfl⟩
  · next worker hworker =>
      obtain ⟨alike, awaited, acts⟩ := drives s.host worker.watcher
      refine ⟨[.act number worker.uri _], ⟨List.Sublist.refl _, by simp⟩,
        .acts hworker (.refl s.host) acts alike (.rests (.refl _)), ?_⟩
      simp [Deed.log]

/-- To drive workers one after the other comes to deeds in this order. -/
theorem driveEach_driven (drives : Watcher.Drives s.settings.command f) (numbers : List Nat) :
    s.Driven (InTurn numbers) (s.driveEach f numbers) := by
  induction numbers generalizing s with
  | nil => exact ⟨[], inTurn_nil _, .rests (.refl s.host), rfl⟩
  | cons number rest ih =>
      obtain ⟨deeds, ⟨first, unhalted⟩, plays, hlog⟩ := drive_driven drives number
      obtain ⟨more, ⟨later, unhalted'⟩, plays', hlog'⟩ := ih (s := (s.drive number f).1)
        (by rw [plays.alike.settings]; exact drives)
      refine ⟨deeds ++ more, ⟨?_, fun n halted => ?_⟩, plays.append plays', ?_⟩
      · rw [List.map_append]
        exact first.append later
      · exact (List.mem_append.mp halted).elim (unhalted n) (unhalted' n)
      · rw [driveEach, List.flatMap_append, ← hlog, ← plays.alike.log, ← hlog']

/-- All workers are driven once. -/
def Once (deeds : List Deed) : Prop :=
  (deeds.map Deed.number).Nodup ∧ ∀ n, .halt n ∉ deeds

/-- To drive all workers comes to at most one deed of each. -/
theorem driveAll_driven (drives : Watcher.Drives s.settings.command f) :
    s.Driven Once (s.driveAll f) := by
  obtain ⟨deeds, ⟨inTurn, unhalted⟩, plays⟩ :=
    driveEach_driven drives (List.range s.workers.length)
  exact ⟨deeds, ⟨List.nodup_range.sublist inTurn, unhalted⟩, plays⟩

/-- A change of the host before a drive makes no difference. -/
theorem Driven.of_host {kind : List Deed → Prop} {host : Host} {result : Session × List Occurrence}
    (alike : host.Alike s.host) (driven : ({ s with host } : Session).Driven kind result) :
    s.Driven kind result := by
  obtain ⟨deeds, hkind, plays, hlog⟩ := driven
  exact ⟨deeds, hkind, plays.of_host alike, hlog⟩

/-- While time passes, every worker acts at most once. -/
theorem elapse_driven (s : Session) (ms : Nat) : s.Driven Once (s.elapse ms) :=
  .of_host (s.host.alike_elapse ms) (driveAll_driven (Watcher.wake_drives s.settings.command))

/-- When the checkers are held back or released, every worker acts at most once. -/
theorem setGate_driven (s : Session) (closed : Bool) : s.Driven Once (s.setGate closed) :=
  .of_host (s.host.alike_gate closed) (driveAll_driven (Watcher.settle_drives s.settings.command))

/-- When a worker has been told to stop, the others may act while it is waited for. -/
theorem stop_driven (s : Session) (number : Nat) :
    (s.modify number Watcher.halt).Driven Once (s.stop number) := by
  rw [stop]
  split
  · exact elapse_driven _ (s.patience number)
  · exact ⟨[], ⟨List.nodup_nil, nofun⟩, .rests (.refl s.host), rfl⟩

/-- To stop workers one after the other comes to deeds among which each of them is told to stop. -/
theorem stopEach_driven (s : Session) (numbers : List Nat) :
    s.Driven (fun deeds => ∀ n ∈ numbers, .halt n ∈ deeds) (s.stopEach numbers) := by
  induction numbers generalizing s with
  | nil => exact ⟨[], nofun, .rests (.refl s.host), rfl⟩
  | cons number rest ih =>
      obtain ⟨deeds, -, plays, hlog⟩ := s.stop_driven number
      obtain ⟨more, halted, plays', hlog'⟩ := ih (s.stop number).1
      have alike := plays.alike.trans (s.alike_modify number Watcher.halt)
      refine ⟨.halt number :: (deeds ++ more), ?_, .halts number (plays.append plays'), ?_⟩
      · rintro n (_ | ⟨_, hn⟩)
        · exact List.mem_cons_self
        · exact List.mem_cons_of_mem _ (List.mem_append_right _ (halted n hn))
      · rw [stopEach, List.flatMap_cons, Deed.log, List.nil_append, List.flatMap_append,
          ← (s.alike_modify number Watcher.halt).log, ← hlog,
          (s.alike_modify number Watcher.halt).log, ← alike.log, ← hlog']

end Session

end SyntaxWatch
