import SyntaxWatch.Proofs.Server.Freshness

/-!
# Nothing that is shown is lost

A watcher remembers what it has shown, and holds it back when it finds the same again. So a set that
is dropped on its way to the editor would stay hidden until the text changes. This module shows that
none is dropped. What the tracked worker of a document shows in a step is published, exactly once,
because the document is stored as long as it has a worker. And a worker that has just been started
remembers nothing, so that the first of its cycles that completes always publishes, whatever an
earlier worker has published for the document.

Once the editor has told the session to exit, nothing reaches it any more.

## Main definitions

* `Session.Uneventful`, `Session.Debuts`: no cycle of a worker has completed yet, or the first one
  has published.
* `Session.Pending`: the first one that completes will publish.
* `Session.Delivers`: nothing that is shown is lost in a run.

## Main results

* `Session.shownBy_le_one`: a tracked worker shows at most one set in a step.
* `Session.publications_of_shown`: what a worker shows in a step is published.
* `Session.run_debuts`: the first cycle of a worker that completes publishes.
* `Session.run_delivers`: nothing that is shown is lost in any run.
-/

namespace SyntaxWatch

namespace Watcher

variable {c : Command} {h : Host} {w : Watcher} {events : List Event}

/-- Events in which nothing is shown display nothing. -/
theorem displays_of_unshown (unshown : ∀ event ∈ events, event.set? = none) :
    events.filterMap Event.display? = [] := by
  refine List.filterMap_eq_nil_iff.mpr fun event mem => ?_
  cases event with
  | shown => cases unshown _ mem
  | _ => rfl

/-- An act shows at most one set. -/
theorem Displays.le_one (displays : Displays c h w events) :
    (events.filterMap Event.display?).length ≤ 1 := by
  cases displays with
  | nothing unshown =>
      rw [displays_of_unshown unshown]
      exact Nat.zero_le 1
  | shows front before =>
      rcases before with rfl | rfl <;> exact Nat.le_refl 1

end Watcher

namespace Session

variable {s r last after : Session} {st : Step} {steps : List Step} {deeds more : List Deed}
  {uri : Uri} {n : Nat} {log : List Occurrence}

/-! ### At most one set in a step -/

/-- A worker that does nothing shows nothing. -/
theorem displays_of_apart (apart : n ∉ deeds.map Deed.number) :
    deeds.flatMap (Deed.displays n) = [] := by
  refine List.flatMap_eq_nil_iff.mpr fun deed mem => ?_
  cases deed with
  | halt => rfl
  | act m uri events =>
      refine if_neg ?_
      rintro rfl
      exact apart (List.mem_map_of_mem mem)

/-- A worker that acts at most once shows at most one set. -/
theorem Plays.displays_le_one (plays : r.Plays deeds last) (once : (deeds.map Deed.number).Nodup) :
    (deeds.flatMap (Deed.displays n)).length ≤ 1 := by
  induction plays with
  | rests => exact Nat.zero_le 1
  | halts number _ ih => exact ih (List.nodup_cons.mp once).2
  | @acts _ _ deeds number _ _ _ _ _ events _ _ acts _ _ ih =>
      obtain ⟨apart, once⟩ := List.nodup_cons.mp once
      rw [List.flatMap_cons, List.length_append, Deed.displays]
      by_cases here : number = n
      · subst here
        rw [if_pos rfl, displays_of_apart (n := number) apart]
        exact acts.displays.le_one
      · rw [if_neg here, List.length_nil, Nat.zero_add]
        exact ih once

/-- A sequence of deeds may be cut in two. -/
theorem Plays.split (plays : s.Plays (deeds ++ more) last) :
    ∃ r, s.Plays deeds r ∧ r.Plays more last := by
  induction deeds generalizing s with
  | nil => exact ⟨s, .rests (.refl s.host), plays⟩
  | cons deed deeds ih =>
      cases plays with
      | halts number plays =>
          obtain ⟨r, first, rest⟩ := ih plays
          exact ⟨r, .halts number first, rest⟩
      | acts hworker alike acts after plays =>
          obtain ⟨r, first, rest⟩ := ih plays
          exact ⟨r, .acts hworker alike acts after first, rest⟩

/-- A worker with nothing to show shows nothing, unless it is told to stop. -/
theorem Plays.unshown_of_sated (plays : r.Plays deeds last) (unhalted : ∀ m, .halt m ∉ deeds)
    {worker : Worker} (hworker : r.workers[n]? = some worker) (sated : worker.watcher.Sated) :
    deeds.flatMap (Deed.displays n) = [] := by
  induction plays generalizing worker with
  | rests => rfl
  | halts number => exact absurd List.mem_cons_self (unhalted number)
  | @acts r _ deeds number other _ host _ watcher events hother _ acts _ _ ih =>
      have still (m : Nat) : .halt m ∉ deeds := fun mem => unhalted m (List.mem_cons_of_mem _ mem)
      rw [List.flatMap_cons, Deed.displays]
      by_cases here : number = n
      · subst here
        cases hworker.symm.trans hother
        obtain ⟨sated', unshown⟩ := acts.of_sated ⟨sated.unforced, sated.free, sated.knows⟩
        have bound := (List.getElem?_eq_some_iff.mp hother).1
        rw [if_pos rfl, Watcher.displays_of_unshown unshown, List.nil_append]
        exact ih still (List.getElem?_set_self bound) sated'
      · rw [if_neg here, List.nil_append]
        exact ih still ((List.getElem?_set_ne here).trans hworker) sated

/-- The worker that is started on a document that is opened. -/
theorem opening_worker (tidy : s.Tidy) (uri : Uri) (text : Text) :
    (s.opening uri text).workers[s.workers.length]? =
      some { uri, watcher := s.settings.watcher.stage text } :=
  amend_of_ne ((adding_workers ..).trans (if_pos rfl)) fun old =>
    Nat.lt_irrefl _ (tidy.valid _ _ old)

/-- A worker that shows something when it is started shows nothing more while another one is waited
for. -/
theorem displays_of_opening {text : Text} {starts wakes : List Deed} (tidy : s.Tidy)
    (first : InTurn [s.workers.length] starts) (once : Once wakes)
    (plays : (s.opening uri text).Plays (starts ++ wakes) after) :
    ((starts ++ wakes).flatMap (Deed.displays n)).length ≤ 1 := by
  obtain ⟨r, begins, rest⟩ := plays.split
  rw [List.flatMap_append, List.length_append]
  have atMost := rest.displays_le_one (n := n) once.1
  -- Only the new worker acts twice, and if it shows something at first, it is sated.
  by_cases silent : starts.flatMap (Deed.displays n) = []
  · rwa [silent, List.length_nil, Nat.zero_add]
  have single := begins.displays_le_one (n := n) (first.1.nodup (by simp))
  obtain ⟨numbered, unhalted⟩ := first
  suffices sated : ∃ worker, r.workers[n]? = some worker ∧ worker.watcher.Sated by
    obtain ⟨worker, hworker, sated⟩ := sated
    rwa [rest.unshown_of_sated once.2 hworker sated, List.length_nil, Nat.add_zero]
  cases begins with
  | rests => exact absurd rfl silent
  | halts number => exact absurd List.mem_cons_self (unhalted number)
  | @acts _ _ deeds number worker _ host _ watcher events hworker alike acts _ plays =>
      obtain ⟨rfl, rfl⟩ : number = s.workers.length ∧ deeds = [] := by
        cases numbered with
        | cons _ skipped => cases skipped
        | cons_cons _ none => exact ⟨rfl, List.map_eq_nil_iff.mp (List.eq_nil_of_sublist_nil none)⟩
      cases plays with | rests =>
      cases (opening_worker tidy uri text).symm.trans hworker
      have here : s.workers.length = n := by
        refine Decidable.not_not.mp fun apart => silent ?_
        simp [Deed.displays, apart]
      subst here
      have bound := (List.getElem?_eq_some_iff.mp hworker).1
      refine ⟨_, List.getElem?_set_self bound, acts.sated_of_idle rfl fun unshown => silent ?_⟩
      simp [Deed.displays, Watcher.displays_of_unshown unshown]

/-- A tracked worker shows at most one set in a step. -/
theorem shownBy_le_one (tidy : s.Tidy) (tracked : (s.step st).1.tracked.get? uri = some n) :
    (shownBy n (s.step st).2.1).length ≤ 1 := by
  have unfolds := step_unfolds tidy.valid st
  generalize (s.step st).1 = after, (s.step st).2.1 = log at unfolds tracked
  cases unfolds with
  | opens _ first once plays =>
      rw [shownBy_log]
      exact displays_of_opening tidy first once plays
  | @closes other _ _ _ once plays =>
      have taken : shownBy n [.sent (.diagnostics other [])] = [] := rfl
      rw [shownBy_append, shownBy_log, taken, List.append_nil]
      exact plays.displays_le_one once.1
  | stages => exact Nat.zero_le 1
  | passes _ once plays =>
      rw [shownBy_log]
      exact plays.displays_le_one once.1
  | quits _ _ _ plays =>
      rw [plays.alike.tracked] at tracked
      cases tracked
  | keeps _ _ messages =>
      rw [shownBy_of_messages fun occurrence mem => (messages occurrence mem).imp' _ fun _ => id]
      exact Nat.zero_le 1
  | presents =>
      rw [shownBy_present]
      exact Nat.zero_le 1

/-! ### What a tracked worker shows is published -/

/-- What a session notes of the event of a worker is this event alone. -/
theorem mem_observe {m : Nat} {event event' : Event}
    (mem : .worker n event ∈ r.observe m uri event') : n = m ∧ event = event' := by
  rcases List.mem_cons.mp mem with here | rest
  · cases here
    exact ⟨rfl, rfl⟩
  · cases event' with
    | shown => cases mem_present rest with | intro _ same => cases same
    | _ => cases rest

/-- An event in the log is one of a worker that acted. -/
theorem mem_log {event : Event} (mem : .worker n event ∈ deeds.flatMap (Deed.log r)) :
    ∃ uri events, .act n uri events ∈ deeds ∧ event ∈ events := by
  rw [log_eq_entries] at mem
  obtain ⟨⟨m, uri, event'⟩, hentry, mem⟩ := List.mem_flatMap.mp mem
  obtain ⟨rfl, rfl⟩ := mem_observe mem
  exact ⟨uri, mem_entries hentry⟩

/-- Every act in a sequence of deeds shows what an act can show. -/
theorem Plays.displays (plays : r.Plays deeds last) {events : List Event}
    (deed : .act n uri events ∈ deeds) : ∃ c h w, Watcher.Displays c h w events := by
  induction plays with
  | rests => cases deed
  | halts _ _ ih => exact ih (by simpa using deed)
  | acts _ _ acts _ _ ih =>
      rcases List.mem_cons.mp deed with here | later
      · cases here
        exact ⟨_, _, _, acts.displays⟩
      · exact ih later

/-- A cycle that ends as shown has shown a set of this size. -/
theorem Voices.shown_of_ended (voices : s.Voices st r deeds after log) {count : Nat}
    (ended : .worker n (.ended (.ok (.shown count))) ∈ log) :
    ∃ text set, (text, set) ∈ shownBy n log ∧ set.length = count := by
  obtain ⟨last, plays, -⟩ := voices.plays
  rw [voices.shows]
  obtain ⟨more, rfl, adds⟩ := voices.speaks
  have acted : .worker n (.ended (.ok (.shown count))) ∈ deeds.flatMap (Deed.log r) := by
    refine (List.mem_append.mp ended).resolve_right fun mem => ?_
    obtain ⟨message, same⟩ := adds.messages _ mem
    cases same
  obtain ⟨uri, events, deed, hended⟩ := mem_log acted
  obtain ⟨c, h, w, displays⟩ := plays.displays deed
  cases displays with
  | nothing _ undone => exact absurd hended (undone count)
  | @shows cap flight transcript front before =>
      refine ⟨flight.text, transcript.diagnose flight.text cap,
        List.mem_flatMap.mpr ⟨_, deed, ?_⟩, ?_⟩
      · simp [Deed.displays, Event.display?]
      · have same : count = (transcript.diagnose flight.text cap).length := by
          rcases before with rfl | rfl <;> simpa using hended
        exact same.symm

/-- When a cycle of a worker ends as shown in a step, the worker has shown a set of this size. -/
theorem shown_of_ended (tidy : s.Tidy) {count : Nat}
    (ended : .worker n (.ended (.ok (.shown count))) ∈ (s.step st).2.1) :
    ∃ text set, (text, set) ∈ shownBy n (s.step st).2.1 ∧ set.length = count := by
  have indirect : st.direct = false := by
    refine eq_false_of_ne_true fun direct => ?_
    obtain ⟨message, same⟩ := (step_of_direct direct).2 _ ended
    cases same
  obtain ⟨r, deeds, voices⟩ := step_voices tidy indirect
  exact voices.shown_of_ended ended

/-- Between its set-up and its exit a session reaches the editor. -/
theorem reachesEditor_of_stage (begun : s.lifecycle ≠ .fresh) (going : s.lifecycle ≠ .exited) :
    s.reachesEditor = true := by
  unfold reachesEditor
  cases h : s.lifecycle <;> simp_all

/-- A session that was set up stays so. -/
theorem begun_of_later (begun : s.lifecycle ≠ .fresh)
    (later : stageOf s.lifecycle ≤ stageOf after.lifecycle) : after.lifecycle ≠ .fresh := by
  cases h : s.lifecycle <;> cases h' : after.lifecycle <;> simp_all [stageOf]

/-- A session that has not exited had not exited before. -/
theorem going_of_later (going : after.lifecycle ≠ .exited)
    (later : stageOf s.lifecycle ≤ stageOf after.lifecycle) : s.lifecycle ≠ .exited := by
  cases h : s.lifecycle <;> cases h' : after.lifecycle <;> simp_all [stageOf]

/-- Only a session that has been set up tracks workers. -/
def Begun (s : Session) : Prop :=
  ∀ uri n, s.tracked.get? uri = some n → s.lifecycle ≠ .fresh

/-- A session tracks workers only once it is set up, and every step keeps this. -/
theorem step_begun (tidy : s.Tidy) (begun : s.Begun) (st : Step) : (s.step st).1.Begun := by
  intro uri n tracked
  have proceeds := step_proceeds tidy st
  refine begun_of_later ?_ proceeds.later
  rcases proceeds.tracked uri n tracked with ⟨text, report⟩ | ⟨before, -⟩
  · simp [running_of_report? report]
  · exact begun uri n before

/-- A session tracks workers only once it is set up, at any time in a run. -/
theorem run_begun (tidy : s.Tidy) (begun : s.Begun) (steps : List Step) :
    (s.run steps).1.Begun := by
  induction steps generalizing s with
  | nil => exact begun
  | cons st steps ih => exact ih (step_tidy tidy st) (step_begun tidy begun st)

/-- A session in which a worker is at work has been set up. -/
theorem Goes.begun {worker : Worker} (goes : Goes s st r n worker) (tidy : s.Tidy)
    (begun : s.Begun) : s.lifecycle ≠ .fresh := by
  cases goes with
  | new report => simp [running_of_report? report]
  | old hworker going => exact begun _ _ (tidy.tracked hworker going)

/-- What a worker shows in a step is published for its document, in the same order, and nothing else
is. -/
theorem publications_of_shown (tidy : s.Tidy) (begun : s.Begun) (unexited : s.lifecycle ≠ .exited)
    (named : (s.step st).1.Named) {worker : Worker}
    (hworker : (s.step st).1.workers[n]? = some worker) (shown : shownBy n (s.step st).2.1 ≠ []) :
    publications worker.uri (s.step st).2.1 = (shownBy n (s.step st).2.1).map notices := by
  have indirect : st.direct = false := eq_false_of_ne_true fun direct =>
    shown (shownBy_of_messages (step_of_direct direct).2 n)
  obtain ⟨r, deeds, voices⟩ := step_voices tidy indirect
  obtain ⟨⟨text, set⟩, mem⟩ := List.exists_mem_of_ne_nil _ shown
  obtain ⟨ready, hready, going, -⟩ := voices.shown mem
  obtain ⟨worker', hworker', huri, -⟩ := voices.leads n ready hready
  cases hworker.symm.trans hworker'
  have begun := (voices.readies.atWork n ready hready going).begun tidy begun
  have reaches := reachesEditor_of_stage begun unexited
  rw [huri]
  exact voices.publications_of_worker tidy named reaches hready going

/-- When a cycle of the tracked worker of a document ends as shown, what it has shown is published,
and nothing else. -/
theorem publications_of_ended (tidy : s.Tidy) (begun : s.Begun) (unexited : s.lifecycle ≠ .exited)
    (named : (s.step st).1.Named) {count : Nat}
    (tracked : (s.step st).1.tracked.get? uri = some n)
    (ended : .worker n (.ended (.ok (.shown count))) ∈ (s.step st).2.1) :
    ∃ text set, shownBy n (s.step st).2.1 = [(text, set)] ∧ set.length = count ∧
      publications uri (s.step st).2.1 = [Notice.ofDiagnostics text set] := by
  obtain ⟨text, set, mem, hcount⟩ := shown_of_ended tidy ended
  have single : shownBy n (s.step st).2.1 = [(text, set)] := by
    obtain ⟨other, single⟩ := List.length_eq_one_iff.mp
      (Nat.le_antisymm (shownBy_le_one tidy tracked) (List.length_pos_of_mem mem))
    rw [single] at mem ⊢
    rw [List.mem_singleton.mp mem]
  obtain ⟨worker, -, hworker, rfl, -⟩ := (step_tidy tidy st).serves tracked
  refine ⟨text, set, single, hcount, ?_⟩
  rw [publications_of_shown tidy begun unexited named hworker (List.ne_nil_of_mem mem), single]
  rfl

/-! ### The first cycle that completes -/

/-- No cycle of a worker has ended without a fault, unless it was discarded, and then the worker has
been told to stop. -/
def Uneventful (after : Session) (n : Nat) (log : List Occurrence) : Prop :=
  ∀ outcome, .worker n (.ended (.ok outcome)) ∈ log → outcome = .discarded ∧
    ∃ worker : Worker, after.workers[n]? = some worker ∧ worker.watcher.stopping = true

/-- The first cycle of a worker that has ended without a fault has published a set for its
document. -/
def Debuts (uri : Uri) (n : Nat) (log : List Occurrence) : Prop :=
  ∃ front back text set, log = front ++ [.worker n (.shown text set),
      .sent (.diagnostics uri (Notice.ofDiagnostics text set)),
      .worker n (.ended (.ok (.shown set.length)))] ++ back ∧
    ∀ outcome, .worker n (.ended (.ok outcome)) ∉ front

/-- A worker has not debuted, and will do so as soon as one of its cycles completes. -/
structure Pending (after : Session) (uri : Uri) (n : Nat) (log : List Occurrence) : Prop where
  intro ::
  exists_outspoken : ∃ worker : Worker, after.workers[n]? = some worker ∧ worker.uri = uri ∧
    worker.watcher.Outspoken
  uneventful : Uneventful after n log

/-- A worker that makes its debut shows something. -/
theorem Debuts.shows (debuts : Debuts uri n log) : shownBy n log ≠ [] := by
  obtain ⟨front, back, text, set, rfl, -⟩ := debuts
  simp [shownBy, Occurrence.display?, Event.display?]

/-- What has happened so far, and then a log: a worker that has debuted has debuted, and one that
has not, and goes on, may do so in the log. -/
theorem debuts_append {first rest : List Occurrence} {worker : Worker}
    (quiet : ∀ outcome, .worker n (.ended (.ok outcome)) ∈ first →
      outcome = .discarded ∧ worker.watcher.stopping = true)
    (unshown : worker.watcher.stopping = true → shownBy n rest = [])
    (stays : worker.watcher.stopping = true →
      ∃ worker : Worker, last.workers[n]? = some worker ∧ worker.watcher.stopping = true)
    (later : Debuts uri n rest ∨ last.Pending uri n rest) :
    Debuts uri n (first ++ rest) ∨ last.Pending uri n (first ++ rest) := by
  rcases later with debuts | ⟨still, uneventful⟩
  · have none (outcome : Outcome) : .worker n (.ended (.ok outcome)) ∉ first :=
      fun mem => debuts.shows (unshown (quiet outcome mem).2)
    obtain ⟨front, back, text, set, rfl, begun⟩ := debuts
    refine .inl ⟨first ++ front, back, text, set, by simp, fun outcome mem => ?_⟩
    exact (List.mem_append.mp mem).elim (none outcome) (begun outcome)
  · refine .inr ⟨still, fun outcome mem => ?_⟩
    rcases List.mem_append.mp mem with before | after
    · exact ⟨(quiet outcome before).1, stays (quiet outcome before).2⟩
    · exact uneventful outcome after

/-- What comes after its debut does not take it back. -/
theorem Debuts.append (debuts : Debuts uri n log) (more : List Occurrence) :
    Debuts uri n (log ++ more) := by
  obtain ⟨front, back, text, set, rfl, first⟩ := debuts
  exact ⟨front, back ++ more, text, set, by simp, first⟩

/-- What an act of an outspoken worker comes to: its cycle completes and publishes, or none does. -/
theorem debuts_of_acts {c : Command} {h : Host} {w w' : Watcher} {events : List Event}
    (acts : Watcher.Acts c h w w' events) (outspoken : w.Outspoken)
    (presents : w.stopping = false → ∀ text set, r.present uri.text text set =
      [.sent (.diagnostics uri (Notice.ofDiagnostics text set))]) :
    Debuts uri n (events.flatMap (r.observe n uri)) ∨
      w'.Outspoken ∧ ∀ outcome, .ended (.ok outcome) ∈ events →
        outcome = .discarded ∧ w.stopping = true := by
  have displays := acts.displays
  cases displays with
  | nothing unshown => exact .inr (acts.outspoken outspoken unshown)
  | @shows cap flight transcript front before going =>
      left
      refine ⟨front.flatMap (r.observe n uri), [], flight.text, transcript.diagnose flight.text cap,
        ?_, ?_⟩
      · simp [observe, presents going]
      · rcases before with rfl | rfl <;> simp [observe]

/-- An event in the log of an act is one of the acting worker. -/
theorem mem_act_log {m : Nat} {events : List Event} {event : Event}
    (mem : .worker n event ∈ Deed.log r (.act m uri events)) : n = m ∧ event ∈ events := by
  obtain ⟨event', hevent, mem⟩ := List.mem_flatMap.mp mem
  obtain ⟨rfl, rfl⟩ := mem_observe mem
  exact ⟨rfl, hevent⟩

/-- Deeds that end no cycle of a worker, or discard it, leave its debut to the deeds after them. -/
theorem Plays.debuts_append (plays : r.Plays deeds last) {worker : Worker}
    (hworker : r.workers[n]? = some worker) {first : List Occurrence}
    (quiet : ∀ outcome, .worker n (.ended (.ok outcome)) ∈ first →
      outcome = .discarded ∧ worker.watcher.stopping = true)
    (later : Debuts uri n (deeds.flatMap (Deed.log r)) ∨
      last.Pending uri n (deeds.flatMap (Deed.log r))) :
    Debuts uri n (first ++ deeds.flatMap (Deed.log r)) ∨
      last.Pending uri n (first ++ deeds.flatMap (Deed.log r)) := by
  refine Session.debuts_append quiet (fun stopped => ?_) (fun stopped => ?_) later
  · rw [shownBy_log]
    refine plays.unshown fun other hother => ?_
    cases hworker.symm.trans hother
    exact stopped
  · obtain ⟨final, hfinal, -, told⟩ := plays.retains n worker hworker
    exact ⟨final, hfinal, told stopped⟩

/-- An outspoken worker remains outspoken through the deeds of a session, until its first cycle that
completes has published. -/
theorem Plays.debuts (plays : r.Plays deeds last) {worker : Worker}
    (hworker : r.workers[n]? = some worker) (outspoken : worker.watcher.Outspoken)
    (presents : worker.watcher.stopping = false → ∀ text set,
      r.present worker.uri.text text set =
        [.sent (.diagnostics worker.uri (Notice.ofDiagnostics text set))]) :
    Debuts worker.uri n (deeds.flatMap (Deed.log r)) ∨
      last.Pending worker.uri n (deeds.flatMap (Deed.log r)) := by
  induction plays generalizing worker with
  | rests => exact .inr ⟨⟨worker, hworker, rfl, outspoken⟩, by simp [Uneventful]⟩
  | @halts r last deeds number plays ih =>
      have alike := r.alike_modify number Watcher.halt
      rw [List.flatMap_cons, Deed.log, List.nil_append, ← alike.log]
      rw [← alike.present] at presents
      by_cases here : number = n
      · have hnext : (r.modify number Watcher.halt).workers[n]? =
            some { worker with watcher := worker.watcher.halt } := by
          rw [modify_workers, hworker, Option.map_some, if_pos here]
        have stopped : worker.watcher.halt.stopping = true := worker.watcher.halt_frame.2.2
        have later := ih hnext (.inl stopped) fun going => by cases stopped.symm.trans going
        exact later
      · refine ih ?_ outspoken presents
        rw [modify_workers, hworker, Option.map_some, if_neg here]
  | @acts r last deeds number other _ host _ watcher events hother _ acts after plays ih =>
      have alike := r.alike_set after number { other with watcher }
      rw [List.flatMap_cons, ← alike.log]
      rw [← alike.present] at presents
      by_cases here : number = n
      · subst here
        cases hworker.symm.trans hother
        have bound := (List.getElem?_eq_some_iff.mp hother).1
        have hnext := List.getElem?_set_self (a := { other with watcher }) bound
        have same : watcher.stopping = other.watcher.stopping := acts.frame.2.2
        rcases debuts_of_acts (n := number) acts outspoken presents with debuts | ⟨still, quiet⟩
        · exact .inl (debuts.append _)
        · have later := ih hnext still fun going => presents (same.symm.trans going)
          refine plays.debuts_append hnext (fun outcome mem => ?_) later
          exact (quiet outcome (mem_act_log mem).2).imp_right same.trans
      · have hnext := (List.getElem?_set_ne (a := { other with watcher }) here).trans hworker
        refine plays.debuts_append hnext (fun outcome mem => ?_) (ih hnext outspoken presents)
        exact absurd (mem_act_log mem).1.symm here

/-- A set that is shown under its own name for a document that is stored is sent, as long as the
editor can be reached. -/
theorem present_of_stored (named : Uri.parse? uri.text = some uri)
    (stored : (r.documents.get? uri).isSome) (reaches : r.reachesEditor) (text : Text)
    (set : List Diagnostic) :
    r.present uri.text text set = [.sent (.diagnostics uri (Notice.ofDiagnostics text set))] := by
  rw [present, named]
  simp only [stored, if_true, publish, reaches]

/-- What a step comes to for an outspoken worker: its cycle completes and publishes, or none does
and it remains outspoken. -/
theorem Voices.debuts (voices : s.Voices st r deeds after log) (tidy : s.Tidy) (named : after.Named)
    (reaches : s.reachesEditor) {worker : Worker} (hworker : r.workers[n]? = some worker)
    (outspoken : worker.watcher.Outspoken) :
    Debuts worker.uri n log ∨ after.Pending worker.uri n log := by
  have legible := named.of_retains voices.leads worker (List.mem_of_getElem? hworker)
  obtain ⟨last, plays, preserves⟩ := voices.plays
  obtain ⟨more, rfl, adds⟩ := voices.speaks
  have debuts := plays.debuts hworker outspoken fun going =>
    present_of_stored legible ((voices.readies.atWork n worker hworker going).stored tidy)
      (voices.readies.reaches.trans reaches)
  rcases debuts with debuts | ⟨⟨there, hthere, huri, still⟩, uneventful⟩
  · exact .inl (debuts.append more)
  · obtain ⟨worker', hworker', huri', memory, stopping⟩ := preserves n there hthere
    refine .inr ⟨⟨worker', hworker', huri'.trans huri, still.imp stopping.trans memory.trans⟩,
      fun outcome mem => ?_⟩
    rcases List.mem_append.mp mem with acted | added
    · obtain ⟨discarded, stopped, hstopped, told⟩ := uneventful outcome acted
      cases hthere.symm.trans hstopped
      exact ⟨discarded, worker', hworker', stopping.trans told⟩
    · obtain ⟨message, same⟩ := adds.messages _ added
      cases same

/-- In a step in which a worker has something to show, it makes its debut, or keeps it for later. -/
theorem step_debuts (tidy : s.Tidy) (named : (s.step st).1.Named) (reaches : s.reachesEditor)
    {worker : Worker} (hworker : s.workers[n]? = some worker)
    (outspoken : worker.watcher.Outspoken) :
    Debuts worker.uri n (s.step st).2.1 ∨
      (s.step st).1.Pending worker.uri n (s.step st).2.1 := by
  cases direct : st.direct with
  | true =>
      obtain ⟨same, messages⟩ := step_of_direct (s := s) direct
      refine .inr ⟨⟨worker, by rw [same, hworker], rfl, outspoken⟩, fun outcome mem => ?_⟩
      obtain ⟨message, same⟩ := messages _ mem
      cases same
  | false =>
      obtain ⟨r, deeds, voices⟩ := step_voices tidy direct
      obtain ⟨ready, hready, huri, -⟩ := voices.readies.retains n worker hworker
      rw [← huri]
      refine voices.debuts tidy named reaches hready ?_
      cases going : ready.watcher.stopping with
      | true => exact .inl going
      | false =>
          cases voices.readies.atWork n ready hready going with
          | new => exact absurd (List.getElem?_eq_some_iff.mp hworker).1 (Nat.lt_irrefl _)
          | old hold =>
              cases hworker.symm.trans hold
              exact outspoken

/-- What has happened to a worker up to now, and then in a run: if it has not debuted, it has said
nothing unless it was told to stop, and then the run says nothing of it. -/
theorem debuts_of_run (tidy : s.Tidy)
    (now : Debuts uri n log ∨ s.Pending uri n log)
    (later : ∀ worker : Worker, s.workers[n]? = some worker → worker.watcher.Outspoken →
      Debuts worker.uri n (s.run steps).2 ∨ (s.run steps).1.Pending worker.uri n (s.run steps).2) :
    Debuts uri n (log ++ (s.run steps).2) ∨
      (s.run steps).1.Pending uri n (log ++ (s.run steps).2) := by
  rcases now with debuts | ⟨⟨worker, hworker, rfl, outspoken⟩, uneventful⟩
  · exact .inl (debuts.append _)
  · refine debuts_append (fun outcome mem => ?_) (shownBy_of_stopped tidy hworker · steps)
      (fun stopped => ?_) (later worker hworker outspoken)
    · obtain ⟨discarded, told, htold, stopped⟩ := uneventful outcome mem
      cases hworker.symm.trans htold
      exact ⟨discarded, stopped⟩
    · obtain ⟨final, hfinal, -, stays⟩ := run_retains tidy steps n worker hworker
      exact ⟨final, hfinal, stays stopped⟩

/-- The first cycle of an outspoken worker that completes in a run publishes, by induction on the
steps. -/
theorem run_debuts (tidy : s.Tidy) (named : (s.run steps).1.Named) (begun : s.lifecycle ≠ .fresh)
    (going : (s.run steps).1.lifecycle ≠ .exited) {worker : Worker}
    (hworker : s.workers[n]? = some worker) (outspoken : worker.watcher.Outspoken) :
    Debuts worker.uri n (s.run steps).2 ∨
      (s.run steps).1.Pending worker.uri n (s.run steps).2 := by
  induction steps generalizing s worker with
  | nil => exact .inr ⟨⟨worker, hworker, rfl, outspoken⟩, nofun⟩
  | cons st steps ih =>
      have next := step_tidy tidy st
      have later := (step_proceeds tidy st).later
      have unexited := going_of_later (going_of_later going (run_later next steps)) later
      have legible := named.of_run next
      refine debuts_of_run next ?_ fun _ => ih next named (begun_of_later begun later) going
      exact step_debuts tidy legible (reachesEditor_of_stage begun unexited) hworker outspoken

/-- The first cycle that completes after a document has been opened publishes. -/
theorem debuts_of_opened (tidy : s.Tidy) {text : Text}
    (report : s.report? st = some (.opened uri text)) (named : (s.run (st :: steps)).1.Named)
    (going : (s.run (st :: steps)).1.lifecycle ≠ .exited) :
    Debuts uri s.workers.length (s.run (st :: steps)).2 ∨
      Uneventful (s.run (st :: steps)).1 s.workers.length (s.run (st :: steps)).2 := by
  have running := running_of_report? report
  have begun : s.lifecycle ≠ .fresh := by simp [running]
  have reaches : s.reachesEditor := by
    rw [reachesEditor, running]
    rfl
  have next := step_tidy tidy st
  have legible := named.of_run next
  obtain ⟨deeds, voices⟩ := voices_of_opened tidy report
  have now := voices.debuts tidy legible reaches (opening_worker tidy uri text) (.inr rfl)
  exact (debuts_of_run next now fun _ hworker outspoken =>
    run_debuts next named (begun_of_later begun (step_proceeds tidy st).later) going hworker
      outspoken).imp_right Pending.uneventful

/-! ### Runs -/

/-- Nothing that is shown is lost in a run. -/
structure Delivers (s₀ : Session) (steps : List Step) : Prop where
  /-- What a worker shows in a step is published for its document, in the same order, and nothing
  else is. -/
  passed (past rest : List Step) (st : Step) (n : Nat) (worker : Worker) :
    steps = past ++ st :: rest → ((s₀.run past).1.step st).1.workers[n]? = some worker →
    shownBy n ((s₀.run past).1.step st).2.1 ≠ [] →
    publications worker.uri ((s₀.run past).1.step st).2.1 =
      (shownBy n ((s₀.run past).1.step st).2.1).map notices
  /-- When a cycle of the worker that is tracked for a document ends as shown, exactly one set is
  published for the document in the same step, and it is the one that the worker has shown. -/
  published (past rest : List Step) (st : Step) (uri : Uri) (n count : Nat) :
    steps = past ++ st :: rest → ((s₀.run past).1.step st).1.tracked.get? uri = some n →
    .worker n (.ended (.ok (.shown count))) ∈ ((s₀.run past).1.step st).2.1 →
    ∃ text set, shownBy n ((s₀.run past).1.step st).2.1 = [(text, set)] ∧ set.length = count ∧
      publications uri ((s₀.run past).1.step st).2.1 = [Notice.ofDiagnostics text set]
  /-- When a document is opened, the first cycle of its new worker that completes publishes. -/
  debut (past since rest : List Step) (opening : Step) (uri : Uri) (text : Text) :
    steps = past ++ opening :: since ++ rest →
    (s₀.run past).1.report? opening = some (.opened uri text) →
    let n := (s₀.run past).1.workers.length
    let later := (s₀.run past).1.run (opening :: since)
    Debuts uri n later.2 ∨ Uneventful later.1 n later.2

/-- Nothing that is shown is lost in any run in which the session does not exit, and in which no
document has a URI whose written form is read as another one. -/
theorem run_delivers (settings : Settings) (host : Host) (shuffle : Shuffle) (steps : List Step)
    (named : ((fresh settings host shuffle).run steps).1.Named)
    (going : ((fresh settings host shuffle).run steps).1.lifecycle ≠ .exited) :
    (fresh settings host shuffle).Delivers steps := by
  have tidy := tidy_fresh settings host shuffle
  have inherits (past rest : List Step) (same : steps = past ++ rest) :
      ((fresh settings host shuffle).run past).1.Named ∧
        ((fresh settings host shuffle).run past).1.lifecycle ≠ .exited := by
    have reached := run_tidy tidy past
    rw [same, run_append] at named going
    exact ⟨named.of_run reached, going_of_later going (run_later reached rest)⟩
  have begun (past : List Step) : ((fresh settings host shuffle).run past).1.Begun :=
    run_begun tidy nofun past
  have next {past rest : List Step} {st : Step} (split : steps = past ++ st :: rest) :
      ((((fresh settings host shuffle).run past).1.step st).1).Named := by
    have legible := (inherits (past ++ [st]) rest (by simp [split])).1
    rwa [run_snoc] at legible
  constructor
  · intro past rest st n worker split hworker shown
    exact publications_of_shown (run_tidy tidy past) (begun past) (inherits past _ split).2
      (next split) hworker shown
  · intro past rest st uri n count split tracked ended
    exact publications_of_ended (run_tidy tidy past) (begun past) (inherits past _ split).2
      (next split) tracked ended
  · intro past since rest opening uri text split report
    have inherited := inherits (past ++ opening :: since) rest split
    rw [run_append] at inherited
    exact debuts_of_opened (run_tidy tidy past) report inherited.1 inherited.2

/-! ### A document that is opened twice, and one that is open when the session exits -/

/-- A document is opened, and opened again with the same text. -/
def repeated : List Step :=
  [.connect, .didOpen "file:///a.pl".toList "x\n".toList,
    .didOpen "file:///a.pl".toList "x\n".toList]

/-- The second worker publishes what the first one has published. -/
theorem delivers_repeated :
    ((fresh {} faultfinder .kept).run repeated).1.Named ∧
      ((fresh {} faultfinder .kept).run repeated).1.lifecycle ≠ .exited ∧
      (∃ uri, Uri.parse? "file:///a.pl".toList = some uri ∧
        (publications uri ((fresh {} faultfinder .kept).run repeated).2).map (·.map Notice.stop) =
          [[{ line := 0, character := 1 }], [{ line := 0, character := 1 }]]) ∧
      (fresh {} faultfinder .kept).Delivers repeated := by
  have named : ((fresh {} faultfinder .kept).run repeated).1.Named := by
    unfold Named
    decide +kernel
  have going : ((fresh {} faultfinder .kept).run repeated).1.lifecycle ≠ .exited := by
    decide +kernel
  refine ⟨named, going, ⟨_, rfl, ?_⟩, run_delivers {} faultfinder .kept repeated named going⟩
  decide +kernel

/-- When the session has been told to exit, the tracked worker of a document goes on and ends a
cycle as shown, but nothing is published. -/
theorem undelivered_after_exit :
    ∃ uri, Uri.parse? "file:///a.pl".toList = some uri ∧
      let s := ((fresh {} faultfinder .kept).run [.connect, .setGate true,
        .didOpen "file:///a.pl".toList "x\n".toList, .call { method := "exit".toList }]).1
      (s.step (.setGate false)).1.tracked.get? uri = some 0 ∧
      .worker 0 (.ended (.ok (.shown 1))) ∈ (s.step (.setGate false)).2.1 ∧
      publications uri (s.step (.setGate false)).2.1 = [] := by
  refine ⟨_, rfl, ?_, List.mem_of_getElem? (i := 1) rfl, ?_⟩
  · decide +kernel
  · decide +kernel

end Session

end SyntaxWatch
