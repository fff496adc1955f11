import Mathlib.Data.List.Basic
import SyntaxWatch.Proofs.Server.Tracking

/-!
# Who publishes diagnostics

Diagnostics of a document reach the editor in two ways. A worker shows a set under the written form
of the URI of its document, and the session passes it on when this form can be read, the document is
stored and the editor can be reached. And when a document is closed, its diagnostics are taken back
with an empty set.

A worker shows something only while it goes on. So what is published in a step depends on the
workers that go on once the session has changed and before they act: for each document there is at
most one (`Voices`). Where no URI is written like another one, what is published for a document is
what this worker shows, in the same order.

## Main definitions

* `Session.publications`, `Session.shownBy`: what is published for a document, and what a worker
  shows.
* `Session.Named`: the written form of the URI of every worker is read as this URI.
* `Session.Voices`: what a step comes to, as far as publications go.

## Main results

* `Session.step_voices`: every step comes to this.
* `Session.Voices.publications_of_worker`, `Session.Voices.unpublished`: what is published for a
  document with a worker that goes on, and for one without.
-/

namespace SyntaxWatch

namespace Occurrence

/-- The notices that are sent for a document in an occurrence. -/
def notices? (uri : Uri) : Occurrence → Option (List Notice)
  | sent (.diagnostics other notices) => if other = uri then some notices else none
  | _ => none

/-- What a worker shows in an occurrence. -/
def display? (number : Nat) : Occurrence → Option (Text × List Diagnostic)
  | worker other event => if other = number then event.display? else none
  | _ => none

end Occurrence

namespace Deed

/-- The events of a deed, each with the worker and its document. -/
def entries : Deed → List (Nat × Uri × Event)
  | halt _ => []
  | act number uri events => events.map fun event => (number, uri, event)

end Deed

namespace Session

variable {s s' r : Session} {deeds : List Deed} {uri : Uri} {n : Nat} {log : List Occurrence}

/-- The sets of notices that are sent for a document, in order. -/
def publications (uri : Uri) (log : List Occurrence) : List (List Notice) :=
  log.filterMap (Occurrence.notices? uri)

/-- The sets of diagnostics that a worker shows, in order, each with its text. -/
def shownBy (n : Nat) (log : List Occurrence) : List (Text × List Diagnostic) :=
  log.filterMap (Occurrence.display? n)

/-- The notices for what a worker shows. -/
def notices (shown : Text × List Diagnostic) : List Notice :=
  Notice.ofDiagnostics shown.1 shown.2

/-- The written form of the URI of every worker is read as this URI. -/
def Named (s : Session) : Prop :=
  ∀ worker ∈ s.workers, Uri.parse? worker.uri.text = some worker.uri

/-- What is published in two logs in a row is what is published in each. -/
theorem publications_append (uri : Uri) (log more : List Occurrence) :
    publications uri (log ++ more) = publications uri log ++ publications uri more :=
  List.filterMap_append

/-- What a worker shows in two logs in a row is what it shows in each. -/
theorem shownBy_append (n : Nat) (log more : List Occurrence) :
    shownBy n (log ++ more) = shownBy n log ++ shownBy n more :=
  List.filterMap_append

/-! ### What comes of the deeds -/

/-- The log of some deeds is what comes of their events, one after the other. -/
theorem log_eq_entries (r : Session) (deeds : List Deed) :
    deeds.flatMap (Deed.log r) =
      (deeds.flatMap Deed.entries).flatMap fun entry => r.observe entry.1 entry.2.1 entry.2.2 := by
  rw [List.flatMap_assoc]
  refine List.flatMap_congr fun deed _ => ?_
  cases deed with
  | halt => rfl
  | act number uri events => rw [Deed.entries, List.flatMap_map, Deed.log]

/-- Every event of some deeds is one of a worker that acts in them. -/
theorem mem_entries {deeds : List Deed} {number : Nat} {uri : Uri} {event : Event}
    (mem : (number, uri, event) ∈ deeds.flatMap Deed.entries) :
    ∃ events, .act number uri events ∈ deeds ∧ event ∈ events := by
  obtain ⟨deed, hdeed, mem⟩ := List.mem_flatMap.mp mem
  cases deed with
  | halt => cases mem
  | act other uri' events =>
      obtain ⟨event', hevent, same⟩ := List.mem_map.mp mem
      cases same
      exact ⟨events, hdeed, hevent⟩

/-- What is published in some deeds is known when it is known for each event. -/
theorem publications_log {f : Nat × Uri × Event → List (List Notice)}
    (each : ∀ entry ∈ deeds.flatMap Deed.entries,
      publications uri (r.observe entry.1 entry.2.1 entry.2.2) = f entry) :
    publications uri (deeds.flatMap (Deed.log r)) = (deeds.flatMap Deed.entries).flatMap f := by
  rw [log_eq_entries, publications, List.filterMap_flatMap]
  exact List.flatMap_congr each

/-- No worker shows anything in messages. -/
theorem shownBy_of_messages {more : List Occurrence}
    (messages : ∀ occurrence ∈ more, ∃ message, occurrence = .sent message) (n : Nat) :
    shownBy n more = [] := by
  refine List.filterMap_eq_nil_iff.mpr fun occurrence mem => ?_
  obtain ⟨message, rfl⟩ := messages occurrence mem
  rfl

/-- What is shown under a name is at most sent to the editor. -/
theorem mem_present {resource source : Text} {set : List Diagnostic} {occurrence : Occurrence}
    (mem : occurrence ∈ r.present resource source set) : ∃ message, occurrence = .sent message := by
  unfold present publish at mem
  split at mem
  · cases mem
  · split at mem
    · split at mem
      · exact ⟨_, List.mem_singleton.mp mem⟩
      · cases mem
    · cases mem

/-- A session that passes diagnostics on is no worker that shows them. -/
theorem shownBy_present (r : Session) (n : Nat) (resource source : Text) (set : List Diagnostic) :
    shownBy n (r.present resource source set) = [] :=
  shownBy_of_messages (fun _ => mem_present) n

/-- What a worker shows in an event is shown by this worker only. -/
theorem shownBy_observe (r : Session) (n m : Nat) (uri : Uri) (event : Event) :
    shownBy n (r.observe m uri event) = if m = n then event.display?.toList else [] := by
  have rest : shownBy n (r.observe m uri event) = shownBy n [.worker m event] := by
    cases event with
    | shown text set =>
        rw [observe, ← List.singleton_append, shownBy_append, shownBy_present, List.append_nil]
    | _ => rfl
  rw [rest]
  by_cases here : m = n
  · cases event <;> simp [shownBy, Occurrence.display?, Event.display?, here]
  · simp [shownBy, Occurrence.display?, here]

/-- The log of some deeds has what a worker shows in them. -/
theorem shownBy_log (r : Session) (n : Nat) (deeds : List Deed) :
    shownBy n (deeds.flatMap (Deed.log r)) = deeds.flatMap (Deed.displays n) := by
  rw [shownBy, List.filterMap_flatMap]
  refine List.flatMap_congr fun deed _ => ?_
  cases deed with
  | halt => rfl
  | act m uri events =>
      rw [Deed.log, Deed.displays, List.filterMap_flatMap]
      refine (List.flatMap_congr fun event _ => shownBy_observe r n m uri event).trans ?_
      by_cases here : m = n
      · simp only [if_pos here, List.filterMap_eq_flatMap_toList]
      · simp [here]

/-! ### What is published for an event -/

/-- A set is published for its own document, and only while the editor can be reached. -/
theorem publications_publish (r : Session) (uri other : Uri) (set : List Notice) :
    publications uri (r.publish other set) =
      if other = uri ∧ r.reachesEditor then [set] else [] := by
  unfold publish
  by_cases reaches : r.reachesEditor = true
  · by_cases same : other = uri <;> simp [reaches, same, publications, Occurrence.notices?]
  · simp [reaches, publications]

/-- What is published for an event of a worker whose document is written in its own way. -/
theorem publications_observe {other : Uri} (named : Uri.parse? other.text = some other) (m : Nat)
    (event : Event) :
    publications uri (r.observe m other event) =
      if other = uri ∧ (r.documents.get? uri).isSome ∧ r.reachesEditor then
        event.display?.toList.map notices
      else [] := by
  cases event with
  | shown text set =>
      have sends : publications uri (r.observe m other (.shown text set)) =
          publications uri (r.present other.text text set) := rfl
      rw [sends, present, named]
      dsimp only
      split
      · next stored =>
          rw [publications_publish]
          by_cases same : other = uri
          · simp [← same, stored, Event.display?, notices]
          · simp [same]
      · next missing =>
          refine (if_neg ?_).symm
          rintro ⟨rfl, stored, -⟩
          exact missing stored
  | _ => exact (ite_self []).symm

/-! ### What the workers publish -/

/-- A worker is the only one that may be at work for a document, and for no other. -/
def Sole (r : Session) (uri : Uri) (n : Nat) : Prop :=
  ∀ (m : Nat) (worker : Worker), r.workers[m]? = some worker → worker.watcher.stopping = false →
    (worker.uri = uri ↔ m = n)

/-- No worker is at work for a document. -/
def Idle (r : Session) (uri : Uri) : Prop :=
  ∀ (m : Nat) (worker : Worker), r.workers[m]? = some worker → worker.watcher.stopping = false →
    worker.uri ≠ uri

/-- A document that is not idle has a worker at work. -/
theorem exists_worker_of_not_idle (busy : ¬r.Idle uri) :
    ∃ (n : Nat) (worker : Worker), r.workers[n]? = some worker ∧
      worker.watcher.stopping = false ∧ worker.uri = uri :=
  Classical.byContradiction fun none =>
    busy fun n worker hworker going same => none ⟨n, worker, hworker, going, same⟩

/-- What is published for an event in the deeds of a session: nothing when nothing is shown, and
otherwise a worker is at work that shows it. -/
theorem Plays.publications_entry (plays : r.Plays deeds s') (named : r.Named) (uri : Uri) {m : Nat}
    {other : Uri} {event : Event} (mem : (m, other, event) ∈ deeds.flatMap Deed.entries) :
    event.display? = none ∧ publications uri (r.observe m other event) = [] ∨
      ∃ worker, r.workers[m]? = some worker ∧ worker.watcher.stopping = false ∧
        publications uri (r.observe m other event) =
          if worker.uri = uri ∧ (r.documents.get? uri).isSome ∧ r.reachesEditor then
            event.display?.toList.map notices
          else [] := by
  obtain ⟨events, deed, hevent⟩ := mem_entries mem
  cases event with
  | shown text set =>
      obtain ⟨worker, hworker, rfl, going, -⟩ := plays.shown deed hevent
      have legible := named worker (List.mem_of_getElem? hworker)
      exact .inr ⟨worker, hworker, going, publications_observe legible m _⟩
  | _ => exact .inl ⟨rfl, rfl⟩

/-- Only the workers of a document publish for it, and only while the editor can be reached. -/
theorem Plays.unpublished (plays : r.Plays deeds s') (named : r.Named)
    (silent : r.reachesEditor = false ∨ r.Idle uri) :
    publications uri (deeds.flatMap (Deed.log r)) = [] := by
  rw [publications_log (f := fun _ => [])]
  · simp
  rintro ⟨m, other, event⟩ mem
  rcases plays.publications_entry named uri mem with
    ⟨-, unpublished⟩ | ⟨worker, hworker, going, published⟩
  · exact unpublished
  · rw [published]
    refine if_neg ?_
    rintro ⟨same, -, reaches⟩
    rcases silent with unreached | idle
    · cases unreached.symm.trans reaches
    · exact idle m worker hworker going same

/-- What workers publish for a document that has one of them at work. It is what this worker shows,
in the same order. -/
theorem Plays.publications_of_sole (plays : r.Plays deeds s') (named : r.Named)
    (sole : r.Sole uri n) (stored : (r.documents.get? uri).isSome) (reaches : r.reachesEditor) :
    publications uri (deeds.flatMap (Deed.log r)) =
      (shownBy n (deeds.flatMap (Deed.log r))).map notices := by
  have shows : (shownBy n (deeds.flatMap (Deed.log r))).map notices =
      (deeds.flatMap Deed.entries).flatMap fun entry =>
        (shownBy n (r.observe entry.1 entry.2.1 entry.2.2)).map notices := by
    rw [log_eq_entries, shownBy, List.filterMap_flatMap, List.map_flatMap]
    rfl
  rw [shows]
  refine publications_log ?_
  rintro ⟨m, other, event⟩ mem
  rw [shownBy_observe]
  rcases plays.publications_entry named uri mem with
    ⟨unshown, unpublished⟩ | ⟨worker, hworker, going, published⟩
  · rw [unpublished, unshown]
    exact (congrArg (List.map notices) (ite_self [])).symm
  · have same := sole m worker hworker going
    rw [published]
    by_cases here : m = n
    · rw [if_pos ⟨same.mpr here, stored, reaches⟩, if_pos here]
    · rw [if_neg fun told => here (same.mp told.1), if_neg here]
      rfl

/-! ### Who is at work -/

/-- A worker that is at work once a step has changed a session and before the workers act. It is the
one that is started on a document that is opened, or it was at work before, on a document that is
neither opened nor closed. -/
inductive Goes (s : Session) (st : Step) (r : Session) : Nat → Worker → Prop
  | new {uri : Uri} {text : Text} (report : s.report? st = some (.opened uri text))
      (stored : r.documents.get? uri = some text) :
      Goes s st r s.workers.length { uri, watcher := s.settings.watcher.stage text }
  | old {n : Nat} {worker : Worker} (hworker : s.workers[n]? = some worker)
      (going : worker.watcher.stopping = false)
      (unopened : ∀ text, s.report? st ≠ some (.opened worker.uri text))
      (unclosed : s.report? st ≠ some (.closed worker.uri))
      (stored : r.documents.get? worker.uri = s.documents.get? worker.uri) : Goes s st r n worker

/-- In a step that opens and closes nothing, a worker that goes on was at work before. -/
theorem goes_of_steady {st : Step} {worker : Worker} (steady : s.Steady st)
    (hworker : s.workers[n]? = some worker) (going : worker.watcher.stopping = false)
    (same : r.documents = s.documents) : Goes s st r n worker :=
  .old hworker going (steady.unopened _) (steady.unclosed _) (by rw [same])

/-- When a document is opened, its new worker is at work, and the old ones of the others are. -/
theorem goes_of_opening (tidy : s.Tidy) {st : Step} {text : Text} {worker : Worker}
    (report : s.report? st = some (.opened uri text))
    (hworker : (s.opening uri text).workers[n]? = some worker)
    (going : worker.watcher.stopping = false) : Goes s st (s.opening uri text) n worker := by
  obtain ⟨hadding, apart⟩ := of_amend_halt hworker going
  rw [adding_workers] at hadding
  have documents (other : Uri) : (s.opening uri text).documents.get? other =
      if other = uri then some text else s.documents.get? other := by
    rw [(alike_opening ..).documents]
    exact s.documents.get?_insert uri other text
  split at hadding
  · next here =>
      cases hadding
      subst here
      exact .new report (by rw [documents, if_pos rfl])
  · have different : worker.uri ≠ uri := by
      rintro rfl
      exact apart (tidy.tracked hadding going)
    refine .old hadding going (fun text report' => ?_) (fun report' => ?_) ?_
    · cases report.symm.trans report'
      exact different rfl
    · cases report.symm.trans report'
    · rw [documents, if_neg different]

/-- When a document is closed, the workers of all other documents are at work. -/
theorem goes_of_closing (tidy : s.Tidy) {st : Step} {worker : Worker}
    (report : s.report? st = some (.closed uri))
    (hworker : (s.closing uri).workers[n]? = some worker)
    (going : worker.watcher.stopping = false) : Goes s st (s.closing uri) n worker := by
  obtain ⟨hworker, apart⟩ := of_amend_halt hworker going
  refine .old hworker going (fun text report' => ?_) (fun report' => ?_) ?_
  · cases report.symm.trans report'
  · cases report.symm.trans report'
    exact apart (tidy.tracked hworker going)
  · rw [(alike_closing ..).documents]

/-- The workers that go on after a change of a session are the ones at work. -/
def AtWork (s : Session) (st : Step) (r : Session) : Prop :=
  ∀ (n : Nat) (worker : Worker), r.workers[n]? = some worker → worker.watcher.stopping = false →
    Goes s st r n worker

/-- Two workers at work serve different documents. -/
theorem AtWork.sole {st : Step} (atWork : s.AtWork st r) (tidy : s.Tidy) {worker : Worker}
    (hworker : r.workers[n]? = some worker) (going : worker.watcher.stopping = false) :
    r.Sole worker.uri n := by
  intro m other hother going'
  refine ⟨fun same => ?_, fun here => ?_⟩
  · cases atWork n worker hworker going with
    | new report =>
        cases atWork m other hother going' with
        | new => rfl
        | old _ _ unopened =>
            rw [same] at unopened
            exact absurd report (unopened _)
    | old before going unopened =>
        cases atWork m other hother going' with
        | new report =>
            rw [← same] at unopened
            exact absurd report (unopened _)
        | old before' going' =>
            have tracked := tidy.tracked before' going'
            rw [same, tidy.tracked before going, Option.some.injEq] at tracked
            exact tracked.symm
  · subst here
    cases hworker.symm.trans hother
    rfl

/-- The document of a worker at work is stored. -/
theorem Goes.stored {st : Step} {worker : Worker} (goes : Goes s st r n worker) (tidy : s.Tidy) :
    (r.documents.get? worker.uri).isSome := by
  cases goes with
  | new _ stored =>
      dsimp only
      rw [stored]
      rfl
  | old hworker going _ _ stored =>
      obtain ⟨-, text, -, -, -, hstored, -⟩ := tidy.serves (tidy.tracked hworker going)
      rw [stored, hstored]
      rfl

/-- A document without a worker has none at work, unless it is opened. -/
theorem AtWork.idle {st : Step} (atWork : s.AtWork st r) (tidy : s.Tidy)
    (untracked : s.tracked.get? uri = none)
    (unopened : ∀ text, s.report? st ≠ some (.opened uri text)) : r.Idle uri := by
  rintro n worker hworker going rfl
  cases atWork n worker hworker going with
  | new report => exact unopened _ report
  | old hworker going => cases untracked.symm.trans (tidy.tracked hworker going)

/-- A document that is closed has no worker at work. -/
theorem AtWork.idle_of_closed {st : Step} (atWork : s.AtWork st r)
    (report : s.report? st = some (.closed uri)) : r.Idle uri := by
  rintro n worker hworker going rfl
  cases atWork n worker hworker going with
  | new opened => cases report.symm.trans opened
  | old _ _ _ unclosed => exact unclosed report

/-! ### Steps -/

/-- Whether a report closes a document. -/
def closes (uri : Uri) : Change → Bool
  | .closed other => other = uri
  | _ => false

/-- A step that does not close a document takes back nothing for it. -/
theorem countP_closes_of_unclosed {st : Step} (unclosed : s.report? st ≠ some (.closed uri)) :
    (s.report? st).toList.countP (closes uri) = 0 := by
  cases report : s.report? st with
  | none => rfl
  | some change =>
      cases change with
      | closed other =>
          have different : other ≠ uri := by
            rintro rfl
            exact unclosed report
          simp [closes, different]
      | _ => rfl

/-- A session has changed in a step, and its workers are about to act. -/
structure Readies (s : Session) (st : Step) (r : Session) : Prop where
  atWork : s.AtWork st r
  retains : s.Retains r
  settings : r.settings = s.settings
  host : r.host.Alike s.host
  reaches : r.reachesEditor = s.reachesEditor

/-- What a session says at the end of a step, when its workers have acted: messages, among them an
empty set for a document that is closed. -/
structure Adds (s : Session) (st : Step) (more : List Occurrence) : Prop where
  messages : ∀ occurrence ∈ more, ∃ message, occurrence = .sent message
  takesBack (uri : Uri) : publications uri more =
    List.replicate ((s.report? st).toList.countP (closes uri)) []

/-- What a step comes to, as far as publications go: the session changes, the workers act, and the
session adds what it has to say itself. -/
structure Voices (s : Session) (st : Step) (r : Session) (deeds : List Deed) (after : Session)
    (log : List Occurrence) : Prop where
  readies : s.Readies st r
  plays : ∃ last, r.Plays deeds last ∧ last.Preserves after
  speaks : ∃ more, log = deeds.flatMap (Deed.log r) ++ more ∧ s.Adds st more

/-- A session that opens a document is ready for its workers to act. -/
theorem readies_of_opening (tidy : s.Tidy) {st : Step} {text : Text}
    (report : s.report? st = some (.opened uri text)) : s.Readies st (s.opening uri text) where
  atWork _ _ := goes_of_opening tidy report
  retains := s.retains_opening uri text
  settings := (s.alike_opening uri text).settings
  host := (s.alike_opening uri text).host
  reaches := by
    rw [reachesEditor, (s.alike_opening uri text).lifecycle]
    rfl

/-- A session that closes a document is ready for the other workers to act. -/
theorem readies_of_closing (tidy : s.Tidy) {st : Step}
    (report : s.report? st = some (.closed uri)) : s.Readies st (s.closing uri) where
  atWork _ _ := goes_of_closing tidy report
  retains := s.retains_closing uri
  settings := (s.alike_closing uri).settings
  host := (s.alike_closing uri).host
  reaches := by
    rw [reachesEditor, (s.alike_closing uri).lifecycle]
    rfl

/-- A session that shuts down leaves its workers to act once more. -/
theorem readies_of_quitting {st : Step} (unreported : s.report? st = none)
    (running : s.lifecycle = .running) : s.Readies st s.quitting where
  atWork _ _ hworker going := goes_of_steady (steady_of_unreported unreported) hworker going rfl
  retains := .of_eq rfl
  settings := rfl
  host := .refl s.host
  reaches := by
    rw [reachesEditor, reachesEditor, running]
    rfl

/-- A session that hears of nothing is ready as it is. -/
theorem readies_self {st : Step} (steady : s.Steady st) : s.Readies st s where
  atWork _ _ hworker going := goes_of_steady steady hworker going rfl
  retains := .of_eq rfl
  settings := rfl
  host := .refl s.host
  reaches := rfl

/-- A session that closes no document adds nothing that concerns a document. -/
theorem adds_of_unclosed {st : Step} {more : List Occurrence}
    (unclosed : ∀ uri, s.report? st ≠ some (.closed uri))
    (messages : ∀ occurrence ∈ more, ∃ message, occurrence = .sent (.log message)) :
    s.Adds st more where
  messages occurrence mem := by
    obtain ⟨message, same⟩ := messages occurrence mem
    exact ⟨.log message, same⟩
  takesBack uri := by
    rw [countP_closes_of_unclosed (unclosed uri)]
    refine List.filterMap_eq_nil_iff.mpr fun occurrence mem => ?_
    obtain ⟨message, rfl⟩ := messages occurrence mem
    rfl

/-- A session that closes a document adds an empty set for it. -/
theorem adds_of_closed {st : Step} (report : s.report? st = some (.closed uri)) :
    s.Adds st [.sent (.diagnostics uri [])] where
  messages _ mem := ⟨_, List.mem_singleton.mp mem⟩
  takesBack other := by
    rw [report]
    by_cases same : uri = other <;> simp [closes, same, publications, Occurrence.notices?]

/-- Whether somebody shows diagnostics to the editor past the workers. -/
def Step.direct : Step → Bool
  | .present .. => true
  | _ => false

/-- When diagnostics are shown past the workers, no worker takes part. -/
theorem step_of_direct {st : Step} (direct : st.direct = true) :
    (s.step st).1 = s ∧ ∀ occurrence ∈ (s.step st).2.1, ∃ message, occurrence = .sent message := by
  cases st with
  | present => exact ⟨rfl, fun _ => mem_present⟩
  | _ => cases direct

/-- Every step but a direct one comes to this, whatever its kind: the session changes, the workers
act, and the session adds what it has to say itself. -/
theorem step_voices (tidy : s.Tidy) {st : Step} (indirect : st.direct = false) :
    ∃ r deeds, s.Voices st r deeds (s.step st).1 (s.step st).2.1 := by
  have unfolds := step_unfolds tidy.valid st
  generalize (s.step st).1 = after, (s.step st).2.1 = log at unfolds ⊢
  cases unfolds with
  | opens report _ _ plays =>
      exact ⟨_, _, readies_of_opening tidy report, ⟨_, plays, .of_eq rfl⟩, [],
        (List.append_nil _).symm, adds_of_unclosed (by simp [report]) nofun⟩
  | closes report _ plays =>
      exact ⟨_, _, readies_of_closing tidy report, ⟨_, plays, .of_eq rfl⟩, _, rfl,
        adds_of_closed report⟩
  | stages steady hstored =>
      exact ⟨s, [], readies_self steady, ⟨s, .rests (.refl s.host), preserves_stage hstored⟩, [],
        rfl, adds_of_unclosed steady.unclosed nofun⟩
  | passes unreported _ plays =>
      exact ⟨_, _, readies_self (steady_of_unreported unreported), ⟨_, plays, .of_eq rfl⟩, [],
        (List.append_nil _).symm, adds_of_unclosed (by simp [unreported]) nofun⟩
  | quits unreported running _ plays =>
      exact ⟨_, _, readies_of_quitting unreported running, ⟨_, plays, .of_eq rfl⟩, [],
        (List.append_nil _).symm, adds_of_unclosed (by simp [unreported]) nofun⟩
  | keeps steady _ messages =>
      exact ⟨s, [], readies_self steady, ⟨s, .rests (.refl s.host), .of_eq rfl⟩, _, rfl,
        adds_of_unclosed steady.unclosed messages⟩
  | presents direct =>
      subst direct
      cases indirect

/-- When a document is opened, its new worker is there before the workers act. -/
theorem voices_of_opened (tidy : s.Tidy) {st : Step} {text : Text}
    (report : s.report? st = some (.opened uri text)) :
    ∃ deeds, s.Voices st (s.opening uri text) deeds (s.step st).1 (s.step st).2.1 := by
  have unfolds := step_unfolds tidy.valid st
  generalize (s.step st).1 = after, (s.step st).2.1 = log at unfolds ⊢
  cases unfolds with
  | opens report' _ _ plays =>
      cases report.symm.trans report'
      exact ⟨_, readies_of_opening tidy report, ⟨_, plays, .of_eq rfl⟩, [],
        (List.append_nil _).symm, adds_of_unclosed (by simp [report]) nofun⟩
  | closes report' => cases report.symm.trans report'
  | stages steady | keeps steady => exact absurd report (steady.unopened uri text)
  | passes unreported | quits unreported => cases unreported.symm.trans report
  | presents direct =>
      subst direct
      cases report

namespace Voices

variable {st : Step} {after : Session}

/-- No worker is lost from the change of the session to the end of the step. -/
theorem leads (voices : s.Voices st r deeds after log) : r.Retains after := by
  obtain ⟨last, plays, preserves⟩ := voices.plays
  exact plays.retains.trans preserves.retains

/-- What is published in a step is what its deeds publish, and then an empty set if the document is
closed. -/
theorem publishes (voices : s.Voices st r deeds after log) (uri : Uri) :
    publications uri log = publications uri (deeds.flatMap (Deed.log r)) ++
      List.replicate ((s.report? st).toList.countP (closes uri)) [] := by
  obtain ⟨more, rfl, adds⟩ := voices.speaks
  rw [publications_append, adds.takesBack]

/-- What a worker shows in a step is what it shows in its deeds. -/
theorem shows (voices : s.Voices st r deeds after log) (n : Nat) :
    shownBy n log = deeds.flatMap (Deed.displays n) := by
  obtain ⟨more, rfl, adds⟩ := voices.speaks
  rw [shownBy_append, shownBy_of_messages adds.messages, List.append_nil, shownBy_log]

end Voices

variable {st : Step} {after : Session}

/-- Names that can be read later can be read before. -/
theorem Named.of_retains (retains : s.Retains s') (named : s'.Named) : s.Named := by
  intro worker hworker
  obtain ⟨n, hn⟩ := List.getElem?_of_mem hworker
  obtain ⟨worker', hworker', huri, -⟩ := retains n worker hn
  rw [← huri]
  exact named worker' (List.mem_of_getElem? hworker')

/-- When the names can be read after a run, they can be read before it. -/
theorem Named.of_run (tidy : s.Tidy) {steps : List Step} (named : (s.run steps).1.Named) :
    s.Named :=
  named.of_retains (run_retains tidy steps)

/-- What is published for the document of a worker at work is what this worker shows. -/
theorem Voices.publications_of_worker (voices : s.Voices st r deeds after log)
    (tidy : s.Tidy) (named : after.Named) (reaches : s.reachesEditor) {worker : Worker}
    (hworker : r.workers[n]? = some worker) (going : worker.watcher.stopping = false) :
    publications worker.uri log = (shownBy n log).map notices := by
  obtain ⟨last, plays, -⟩ := voices.plays
  have goes := voices.readies.atWork n worker hworker going
  have unclosed : s.report? st ≠ some (.closed worker.uri) := by
    cases goes with
    | new report => simp [report]
    | old _ _ _ unclosed => exact unclosed
  rw [voices.publishes, voices.shows, ← shownBy_log r, countP_closes_of_unclosed unclosed,
    List.replicate_zero, List.append_nil]
  exact plays.publications_of_sole (named.of_retains voices.leads)
    (voices.readies.atWork.sole tidy hworker going) (goes.stored tidy)
    (voices.readies.reaches.trans reaches)

/-- What is published for a document without a worker at work, or when the editor cannot be reached,
takes its diagnostics back, once if it is closed. -/
theorem Voices.unpublished (voices : s.Voices st r deeds after log)
    (named : after.Named) (silent : s.reachesEditor = false ∨ r.Idle uri) :
    publications uri log = List.replicate ((s.report? st).toList.countP (closes uri)) [] := by
  obtain ⟨last, plays, -⟩ := voices.plays
  rw [← voices.readies.reaches] at silent
  rw [voices.publishes, plays.unpublished (named.of_retains voices.leads) silent, List.nil_append]

/-- What a deed displays of a worker is shown in an act of this worker. -/
theorem mem_displays {deed : Deed} {text : Text} {set : List Diagnostic}
    (mem : (text, set) ∈ deed.displays n) :
    ∃ uri events, deed = .act n uri events ∧ .shown text set ∈ events := by
  cases deed with
  | halt => cases mem
  | act m uri events =>
      rw [Deed.displays] at mem
      split at mem
      · next here =>
          subst here
          obtain ⟨event, hevent, display⟩ := List.mem_filterMap.mp mem
          cases event with
          | shown => cases display; exact ⟨uri, events, rfl, hevent⟩
          | _ => cases display
      · cases mem

/-- Only a worker at work shows something. It is what a transcript of a run has to say on a text
that this worker was to show. -/
theorem Voices.shown (voices : s.Voices st r deeds after log) {text : Text}
    {set : List Diagnostic} (mem : (text, set) ∈ shownBy n log) :
    ∃ worker, r.workers[n]? = some worker ∧ worker.watcher.stopping = false ∧
      ∃ cap, worker.watcher.Holds text cap ∧ ∃ flight transcript, flight.text = text ∧
        s.settings.command.transcript s.host flight = .ok transcript ∧
        set = transcript.diagnose text cap := by
  obtain ⟨last, plays, -⟩ := voices.plays
  rw [voices.shows] at mem
  obtain ⟨deed, hdeed, mem⟩ := List.mem_flatMap.mp mem
  obtain ⟨uri, events, rfl, hshown⟩ := mem_displays mem
  obtain ⟨worker, hworker, -, going, cap, holds, flight, transcript, about, yields, hset⟩ :=
    plays.shown hdeed hshown
  rw [voices.readies.settings, Command.transcript_congr voices.readies.host] at yields
  exact ⟨worker, hworker, going, cap, holds, flight, transcript, about, yields, hset⟩

/-- A worker that was told to stop shows nothing. -/
theorem Plays.unshown (plays : r.Plays deeds s')
    (stopped : ∀ worker, r.workers[n]? = some worker → worker.watcher.stopping = true) :
    deeds.flatMap (Deed.displays n) = [] := by
  refine List.eq_nil_iff_forall_not_mem.mpr ?_
  rintro ⟨text, set⟩ mem
  obtain ⟨deed, hdeed, mem⟩ := List.mem_flatMap.mp mem
  obtain ⟨uri, events, rfl, hshown⟩ := mem_displays mem
  obtain ⟨worker, hworker, -, going, -⟩ := plays.shown hdeed hshown
  rw [stopped worker hworker] at going
  cases going

/-- In a whole step, too, a worker that was told to stop shows nothing. -/
theorem Voices.unshown (voices : s.Voices st r deeds after log)
    (stopped : ∀ worker, r.workers[n]? = some worker → worker.watcher.stopping = true) :
    shownBy n log = [] := by
  obtain ⟨last, plays, -⟩ := voices.plays
  rw [voices.shows, plays.unshown stopped]

end Session

end SyntaxWatch
