import SyntaxWatch.Proofs.Server.Deeds

/-!
# What a session can do in one step

A step of a session has up to three parts. First the session itself changes: a text is stored and
staged, a watcher is added or told to stop, a document is no longer tracked. Then watchers act, one
after the other. At the end a document may be forgotten. This module says once what a session takes
a step for, and what each of these parts then comes to; everything about runs of a session is
derived from that.

## Main definitions

* `Session.report?`, `Session.reports`: the reports of the editor that a session heeds.
* `Session.Takes`: what a session makes of a step.
* `Session.opening`, `Session.closing`, `Session.quitting`: a session once it has changed, before
  its watchers act.
* `Session.Unfolds`: what a step can come to.

## Main results

* `Session.step_takes`: a session makes one of these of every step.
* `Session.step_unfolds`: every step comes to one of these.
-/

namespace SyntaxWatch

namespace Session

variable {s : Session} {f : Host → Watcher → Host × Watcher × List Event}

/-! ### Reports -/

/-- The report of the editor that a step makes a session heed. -/
def report? (s : Session) : Step → Option Change
  | .call c =>
    if s.lifecycle = .running ∧ c.id = none then
      (Method.ofName? c.method).bind fun
        | .change kind => c.params.bind (Change.ofParams? kind)
        | _ => none
    else none
  | _ => none

/-- The reports of the editor that a session heeds in a sequence of steps. -/
def reports : Session → List Step → List Change
  | _, [] => []
  | s, st :: steps => (s.report? st).toList ++ reports (s.step st).1 steps

/-- Only a running session heeds reports. -/
theorem running_of_report? {st : Step} {change : Change} (report : s.report? st = some change) :
    s.lifecycle = .running := by
  cases st with
  | call c =>
      rw [report?] at report
      split at report
      · next running => exact running.1
      · cases report
  | _ => cases report

/-! ### Lifecycles -/

/-- How far a session is, as a number. It never goes back. -/
def stageOf : Lifecycle → Nat
  | .fresh => 0
  | .running => 1
  | .shutDown => 2
  | .exited => 3

/-! ### What a step is taken for -/

/-- What a session makes of a step, with what happens then: it heeds a report, shuts down, lets its
workers act, shows diagnostics, or changes neither its documents nor its workers. -/
inductive Takes (s : Session) (st : Step) : Session → List Occurrence → Prop
  | report {change : Change} (report : s.report? st = some change) :
      Takes s st (s.change change).1 (s.change change).2
  | shutDown {c : Call} (asked : st = .call c) (running : s.lifecycle = .running)
      (known : Method.ofName? c.method = some .shutDown) :
      Takes s st (s.shutDown c).1 (s.shutDown c).2.1
  | elapse {ms : Nat} (passes : st = .elapse ms) : Takes s st (s.elapse ms).1 (s.elapse ms).2
  | setGate {closed : Bool} (moves : st = .setGate closed) :
      Takes s st (s.setGate closed).1 (s.setGate closed).2
  | presents {resource source : Text} {set : List Diagnostic}
      (direct : st = .present resource source set) :
      Takes s st s (s.present resource source set)
  | keeps {lifecycle : Lifecycle} {checker : Checker} {log : List Occurrence}
      (unreported : s.report? st = none) (later : stageOf s.lifecycle ≤ stageOf lifecycle)
      (messages : ∀ occurrence ∈ log, ∃ message, occurrence = .sent (.log message)) :
      Takes s st { s with lifecycle, host := { s.host with checker } } log

/-- A session may make nothing of a step in which it heeds no report. -/
theorem takes_self {st : Step} (unreported : s.report? st = none) : s.Takes st s [] :=
  .keeps unreported (Nat.le_refl _) (List.forall_mem_nil _)

/-- A report that is heeded does what it does, and gets no reply. -/
theorem step_of_report {st : Step} {change : Change} (report : s.report? st = some change) :
    s.step st = ((s.change change).1, (s.change change).2, .silent) := by
  cases st with
  | call c =>
      rw [report?] at report
      split at report
      · next heeded =>
          obtain ⟨running, unasked⟩ := heeded
          obtain ⟨method, known, hchange⟩ := Option.bind_eq_some_iff.mp report
          cases method with
          | change kind => simp [step, call, running, known, perform, unasked, notify, hchange]
          | _ => cases hchange
      · cases report
  | _ => cases report

/-- A method that a running session knows is the shutdown, or changes neither documents nor workers
when no report is heeded. -/
theorem perform_takes {c : Call} {method : Method} (known : Method.ofName? c.method = some method)
    (running : s.lifecycle = .running) (unreported : s.report? (.call c) = none) :
    s.Takes (.call c) (s.perform c method).1 (s.perform c method).2.1 := by
  unfold perform
  split
  · exact .shutDown rfl running known
  · exact takes_self unreported
  · exact takes_self unreported
  · next method _ _ _ _ unasked =>
      cases method with
      | change kind =>
          have ill := unreported
          rw [report?, if_pos ⟨running, unasked⟩, known] at ill
          dsimp only [Option.bind_some] at ill
          rw [notify, ill]
          exact takes_self unreported
      | ready =>
          dsimp only [notify]
          split
          · exact .keeps unreported (Nat.le_refl _) (by simp)
          · exact takes_self unreported
      | _ => exact takes_self unreported

/-- A call in which no report is heeded is the shutdown, or moves the session on in its lifecycle at
most. -/
theorem call_takes {c : Call} (unreported : s.report? (.call c) = none) :
    s.Takes (.call c) (s.call c).1 (s.call c).2.1 := by
  have advances {lifecycle : Lifecycle} (later : stageOf s.lifecycle ≤ stageOf lifecycle) :
      s.Takes (.call c) { s with lifecycle } [] :=
    .keeps unreported later (List.forall_mem_nil _)
  unfold call setUp
  split
  · exact takes_self unreported
  · split
    · split <;> exact takes_self unreported
    · refine advances ?_
      cases s.lifecycle <;> decide
    · split
      · exact takes_self unreported
      · next fresh =>
        split
        · exact takes_self unreported
        · exact takes_self unreported
        · refine advances ?_
          rw [Decidable.not_not.mp fresh]
          decide
    · exact takes_self unreported
    · next known =>
      split
      · exact takes_self unreported
      · split
        · exact takes_self unreported
        · next running => exact perform_takes known (Decidable.not_not.mp running) unreported

/-- A session makes one of these of every step. -/
theorem step_takes (s : Session) (st : Step) : s.Takes st (s.step st).1 (s.step st).2.1 := by
  cases report : s.report? st with
  | some change =>
      rw [step_of_report report]
      exact .report report
  | none =>
      cases st with
      | call c => exact call_takes report
      | present => exact .presents rfl
      | elapse ms => exact .elapse rfl
      | setChecker checker => exact .keeps report (Nat.le_refl _) (List.forall_mem_nil _)
      | setGate closed => exact .setGate rfl

/-! ### Steps -/

/-- Whether a report opens or closes a document. -/
def turns : Change → Bool
  | .opened _ _ | .closed _ => true
  | _ => false

/-- A step in which no report is heeded that opens or closes a document. -/
def Steady (s : Session) (st : Step) : Prop :=
  ∀ change, s.report? st = some change → turns change = false

/-- A step without a report opens and closes nothing. -/
theorem steady_of_unreported {st : Step} (unreported : s.report? st = none) : s.Steady st := by
  intro change report
  cases unreported.symm.trans report

/-- In a steady step no document is opened. -/
theorem Steady.unopened {st : Step} (steady : s.Steady st) (uri : Uri) (text : Text) :
    s.report? st ≠ some (.opened uri text) :=
  fun report => nomatch steady _ report

/-- In a steady step no document is closed. -/
theorem Steady.unclosed {st : Step} (steady : s.Steady st) (uri : Uri) :
    s.report? st ≠ some (.closed uri) :=
  fun report => nomatch steady _ report

/-- Changes a worker, if there is one. -/
def amend (s : Session) (number : Option Nat) (f : Watcher → Watcher) : Session :=
  match number with
  | some number => s.modify number f
  | none => s

/-- A session that adds a worker for a document with a text that is stored and staged. -/
def adding (s : Session) (uri : Uri) (text : Text) : Session :=
  { s.store uri text with
    workers := s.workers ++ [{ uri, watcher := s.settings.watcher.stage text }]
    tracked := s.tracked.insert uri s.workers.length }

/-- A session about to serve a document that is opened: there is a new worker for it, and the old
one has been told to stop. -/
def opening (s : Session) (uri : Uri) (text : Text) : Session :=
  (s.adding uri text).amend (s.tracked.get? uri) Watcher.halt

/-- A session about to close a document: its worker is no longer tracked, and has been told to
stop. -/
def closing (s : Session) (uri : Uri) : Session :=
  ({ s with tracked := s.tracked.erase uri } : Session).amend (s.tracked.get? uri) Watcher.halt

/-- A session about to shut down. -/
def quitting (s : Session) : Session :=
  { s with lifecycle := .shutDown, tracked := {} }

/-- A session in which every tracked worker has been started. -/
def Valid (s : Session) : Prop :=
  ∀ uri n, s.tracked.get? uri = some n → n < s.workers.length

/-- What a step of a session can come to: the session after it, and what happens. -/
inductive Unfolds (s : Session) (st : Step) : Session → List Occurrence → Prop
  /-- A document is opened: its new worker starts, and all workers may act while the old one is
  waited for. -/
  | opens {uri : Uri} {text : Text} {starts wakes : List Deed} {after : Session}
      (report : s.report? st = some (.opened uri text)) (first : InTurn [s.workers.length] starts)
      (once : Once wakes) (plays : (s.opening uri text).Plays (starts ++ wakes) after) :
      Unfolds s st after ((starts ++ wakes).flatMap (Deed.log (s.opening uri text)))
  /-- A document is closed and forgotten, and its diagnostics are taken back. -/
  | closes {uri : Uri} {wakes : List Deed} {after : Session}
      (report : s.report? st = some (.closed uri)) (once : Once wakes)
      (plays : (s.closing uri).Plays wakes after) :
      Unfolds s st { after with documents := after.documents.erase uri }
        (wakes.flatMap (Deed.log (s.closing uri)) ++ [.sent (.diagnostics uri [])])
  /-- A text that is stored is staged for the worker of its document. -/
  | stages {uri : Uri} {text : Text} {full : Bool} {stored : Session}
      (steady : s.Steady st)
      (hstored : stored = s.store uri text ∨ stored = s ∧ s.documents.get? uri = some text) :
      Unfolds s st (stored.stage uri text full) []
  /-- All workers may act. -/
  | passes {wakes : List Deed} {after : Session} (unreported : s.report? st = none)
      (once : Once wakes) (plays : s.Plays wakes after) :
      Unfolds s st after (wakes.flatMap (Deed.log s))
  /-- The session is shut down: all workers of open documents are told to stop. -/
  | quits {deeds : List Deed} {after : Session} (unreported : s.report? st = none)
      (running : s.lifecycle = .running) (halted : ∀ n ∈ s.tracked.values, .halt n ∈ deeds)
      (plays : s.quitting.Plays deeds after) :
      Unfolds s st after (deeds.flatMap (Deed.log s.quitting))
  /-- Neither the documents nor the workers change, and nothing is said about a document. -/
  | keeps {lifecycle : Lifecycle} {checker : Checker} {log : List Occurrence}
      (steady : s.Steady st)
      (later : stageOf s.lifecycle ≤ stageOf lifecycle)
      (messages : ∀ occurrence ∈ log, ∃ message, occurrence = .sent (.log message)) :
      Unfolds s st { s with lifecycle, host := { s.host with checker } } log
  /-- Diagnostics are shown at the request of somebody else. -/
  | presents {resource source : Text} {set : List Diagnostic}
      (direct : st = .present resource source set) :
      Unfolds s st s (s.present resource source set)

/-- A session that hears of nothing stays as it is. -/
theorem unfolds_self {st : Step} (steady : s.Steady st) : s.Unfolds st s [] :=
  .keeps steady (Nat.le_refl _) nofun

/-- When the workers only act, all of them may. -/
theorem unfolds_of_driven {st : Step} {result : Session × List Occurrence}
    (unreported : s.report? st = none) (driven : s.Driven Once result) :
    s.Unfolds st result.1 result.2 := by
  obtain ⟨wakes, once, plays, hlog⟩ := driven
  rw [hlog]
  exact .passes unreported once plays

/-- A worker that is told to stop does not disturb another one that acts. -/
theorem drive_modify (s : Session) {number other : Nat} (apart : number ≠ other) :
    (s.modify other Watcher.halt).drive number f =
      ((s.drive number f).1.modify other Watcher.halt, (s.drive number f).2) := by
  unfold drive
  rw [modify_workers]
  cases hworker : s.workers[number]? with
  | none => rfl
  | some worker =>
      simp only [Option.map_some, if_neg apart.symm]
      refine Prod.ext ?_ rfl
      simp only [modify]
      congr 1
      refine List.ext_getElem? fun n => ?_
      simp only [List.getElem?_modify, List.getElem?_set, List.length_modify]
      by_cases here : number = n
      · subst here
        simp [apart.symm]
      · simp [here]

/-- When the old worker of a document has been told to stop, all workers may act while it is waited
for. Without an old worker nothing happens. -/
theorem stopTracked_driven (s : Session) (old : Option Nat) :
    (s.amend old Watcher.halt).Driven Once (s.stopTracked old) := by
  cases old with
  | some number => exact s.stop_driven number
  | none => exact ⟨[], ⟨List.nodup_nil, nofun⟩, .rests (.refl s.host), rfl⟩

/-- To amend a worker changes nothing else in a session. -/
theorem alike_amend (s : Session) (number : Option Nat) (f : Watcher → Watcher) :
    (s.amend number f).Alike s := by
  cases number with
  | some number => exact s.alike_modify number f
  | none => exact ⟨rfl, rfl, rfl, rfl, rfl, .refl s.host⟩

/-- To amend a worker leaves all other workers. -/
theorem amend_workers (s : Session) (number : Option Nat) (f : Watcher → Watcher) (n : Nat) :
    (s.amend number f).workers[n]? = s.workers[n]?.map fun w =>
      if number = some n then { w with watcher := f w.watcher } else w := by
  cases number with
  | some number =>
      rw [amend, modify_workers]
      simp only [Option.some.injEq]
  | none => simp [amend]

/-- To stage a text is to amend the worker of the document, if it is tracked. -/
theorem stage_eq_amend (s : Session) (uri : Uri) (text : Text) (full : Bool) :
    s.stage uri text full = s.amend (s.tracked.get? uri) fun w => w.stageForced text full := by
  unfold stage
  cases s.tracked.get? uri <;> rfl

/-- A session about to serve a document differs from the one with the new worker in the old worker
only. -/
theorem alike_opening (s : Session) (uri : Uri) (text : Text) :
    (s.opening uri text).Alike (s.adding uri text) := alike_amend ..

/-- A session about to close a document differs in the worker of the document only. -/
theorem alike_closing (s : Session) (uri : Uri) :
    (s.closing uri).Alike { s with tracked := s.tracked.erase uri } := alike_amend ..

/-- The old worker of a document does not disturb another one that acts, when there is one and it is
told to stop. -/
theorem drive_amend_halt (s : Session) {number : Nat} {old : Option Nat}
    (apart : old ≠ some number) :
    (s.amend old Watcher.halt).drive number f =
      ((s.drive number f).1.amend old Watcher.halt, (s.drive number f).2) := by
  cases old with
  | some other => exact s.drive_modify fun same => apart (same ▸ rfl)
  | none => rfl

/-! ### What each step comes to -/

/-- The new worker of a document starts before the old one is told to stop. As it is another one,
the old one may as well have been told before. -/
theorem opened_unfolds (valid : s.Valid) {st : Step} {uri : Uri} {text : Text}
    (report : s.report? st = some (.opened uri text)) :
    s.Unfolds st (s.change (.opened uri text)).1 (s.change (.opened uri text)).2 := by
  have apart : s.tracked.get? uri ≠ some s.workers.length :=
    fun tracked => Nat.lt_irrefl _ (valid uri _ tracked)
  have settings : (s.opening uri text).settings = s.settings := (alike_amend ..).settings
  have drives := Watcher.start_drives s.settings.command
  rw [← settings] at drives
  have starting :=
    drive_amend_halt (f := Watcher.start s.settings.command) (s.adding uri text) apart
  obtain ⟨starts, first, plays, hlog⟩ := drive_driven drives s.workers.length
  rw [settings] at plays hlog
  rw [opening, starting] at plays hlog
  obtain ⟨wakes, once, plays', hlog'⟩ := stopTracked_driven
    ((s.adding uri text).drive s.workers.length (Watcher.start s.settings.command)).1
    (s.tracked.get? uri)
  have hlogs : (s.change (.opened uri text)).2 =
      (starts ++ wakes).flatMap (Deed.log (s.opening uri text)) := by
    rw [List.flatMap_append, opening, ← hlog, ← plays.alike.log, ← hlog']
    rfl
  rw [hlogs]
  exact .opens report first once (plays.append plays')

/-- What a running session publishes reaches the editor. -/
theorem publish_of_running (running : s.lifecycle = .running) (uri : Uri)
    (notices : List Notice) : s.publish uri notices = [.sent (.diagnostics uri notices)] := by
  simp [publish, reachesEditor, running]

/-- What is left of a document that is closed is that its diagnostics are taken back. -/
theorem closed_unfolds {st : Step} {uri : Uri} (report : s.report? st = some (.closed uri)) :
    s.Unfolds st (s.change (.closed uri)).1 (s.change (.closed uri)).2 := by
  obtain ⟨wakes, once, plays, hlog⟩ := stopTracked_driven
    { s with tracked := s.tracked.erase uri } (s.tracked.get? uri)
  have running := (plays.alike.trans (alike_amend ..)).lifecycle.trans
    (running_of_report? report)
  have hlogs : (s.change (.closed uri)).2 =
      wakes.flatMap (Deed.log (s.closing uri)) ++ [.sent (.diagnostics uri [])] := by
    rw [closing, ← hlog, ← publish_of_running running]
    rfl
  rw [hlogs]
  exact .closes report once plays

/-- Whatever the editor reports comes to one of the steps: a document is opened, staged or closed,
or there is nothing to do. -/
theorem change_unfolds (valid : s.Valid) {st : Step} {change : Change}
    (report : s.report? st = some change) :
    s.Unfolds st (s.change change).1 (s.change change).2 := by
  have steady (calm : turns change = false) : s.Steady st := by
    intro other hother
    cases report.symm.trans hother
    exact calm
  cases change with
  | opened uri text => exact opened_unfolds valid report
  | edited uri texts =>
      cases hlast : texts.getLast? with
      | some text =>
          rw [Session.change, hlast]
          exact .stages (steady rfl) (.inl rfl)
      | none =>
          rw [Session.change, hlast]
          exact unfolds_self (steady rfl)
  | saved uri text =>
      cases text with
      | some text => exact .stages (steady rfl) (.inl rfl)
      | none =>
          cases hstored : s.documents.get? uri with
          | some text =>
              rw [Session.change, hstored]
              exact .stages (steady rfl) (.inr ⟨rfl, hstored⟩)
          | none =>
              rw [Session.change, hstored]
              exact unfolds_self (steady rfl)
  | closed uri => exact closed_unfolds report

/-- When a session is shut down, every tracked worker is told to stop, in whatever order. An
ill-formed request only ends the reports. -/
theorem shutDown_unfolds {c : Call} (running : s.lifecycle = .running)
    (hmethod : Method.ofName? c.method = some .shutDown) :
    s.Unfolds (.call c) (s.shutDown c).1 (s.shutDown c).2.1 := by
  have unreported : s.report? (.call c) = none := by simp [report?, hmethod]
  have closing : s.Unfolds (.call c) { s with lifecycle := .shutDown } [] :=
    .keeps (steady_of_unreported unreported) (by simp [running, stageOf]) (List.forall_mem_nil _)
  unfold shutDown
  dsimp only
  split
  · exact closing
  · exact closing
  · obtain ⟨deeds, halted, plays, hlog⟩ :=
      s.quitting.stopEach_driven (s.shuffle.arrange s.tracked.values)
    have all (n : Nat) (mem : n ∈ s.tracked.values) : .halt n ∈ deeds :=
      halted n ((s.shuffle.perm s.tracked.values).mem_iff.mpr mem)
    have quits := Unfolds.quits unreported running all plays
    rw [← hlog] at quits
    exact quits

/-- Every step of a session comes to one of these. -/
theorem step_unfolds (valid : s.Valid) (st : Step) :
    s.Unfolds st (s.step st).1 (s.step st).2.1 := by
  have takes := s.step_takes st
  generalize (s.step st).1 = after, (s.step st).2.1 = log at takes
  cases takes with
  | report report => exact change_unfolds valid report
  | shutDown asked running known =>
      subst asked
      exact shutDown_unfolds running known
  | @elapse ms passes =>
      subst passes
      exact unfolds_of_driven rfl (s.elapse_driven ms)
  | @setGate closed moves =>
      subst moves
      exact unfolds_of_driven rfl (s.setGate_driven closed)
  | presents direct => exact .presents direct
  | keeps unreported later messages => exact .keeps (steady_of_unreported unreported) later messages

end Session

end SyntaxWatch
