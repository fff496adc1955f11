import Mathlib.Data.List.Induction
import SyntaxWatch.Process.Script
import SyntaxWatch.Proofs.Server.Publishing

/-!
# Nothing stale is published

A worker may be held up by its checker long after its document was closed, or opened again with
another text. What it finds then belongs to a text that nobody has in front of them any more. This
module shows that nothing of the kind reaches the editor: what is published for a document in a step
is what the worker shows that was started when the document was opened last, each time for a text
that has been stored since, or an empty set when the document is closed.

The invariant behind this speaks of the worker and not of its publications: all that a worker at
work may still show are texts that have been stored since it was started.

Two things are not to be had. A URI may be written like another one, so that a worker publishes
under a name that is not its own; and a request to shut down that is refused, because it comes with
parameters, stops no worker.

## Main definitions

* `Session.Opening`, `Session.StoredSince`: the latest opening of a document, and the texts since.
* `Session.Origin`: where the publications for a document in a step come from.
* `Session.Timely`: nothing stale is published in a run.

## Main results

* `Session.origin_of_step`: where publications come from, in any state that can be reached.
* `Session.run_timely`: nothing stale is published in any run.
-/

namespace SyntaxWatch

namespace Session

variable {s s₀ r : Session} {st : Step} {past steps : List Step} {uri : Uri} {n : Nat}

/-- The reports of two runs in a row are those of the first and then those of the second. -/
theorem reports_append (s : Session) (past rest : List Step) :
    s.reports (past ++ rest) = s.reports past ++ (s.run past).1.reports rest := by
  induction past generalizing s with
  | nil => rfl
  | cons st past ih => rw [List.cons_append, reports, reports, ih, List.append_assoc, run]

/-! ### The latest opening of a document -/

/-- A step opens a document, for which the worker with a number is started, and no step since opens
it again. -/
structure Opening (s : Session) (opening : Step) (since : List Step) (uri : Uri) (n : Nat) :
    Prop where
  heeded : ∃ text, s.report? opening = some (.opened uri text)
  started : s.workers.length = n
  latest : ∀ text, .opened uri text ∉ (s.step opening).1.reports since

/-- A text is stored for a document at some moment after a step. -/
def StoredSince (s : Session) (opening : Step) (since : List Step) (uri : Uri) (text : Text) :
    Prop :=
  ∃ seen later, since = seen ++ later ∧
    (s.run (opening :: seen)).1.documents.get? uri = some text

/-- An opening stays the latest one through a step that does not open the document. -/
theorem Opening.snoc {opening : Step} {since : List Step} (opened : s.Opening opening since uri n)
    (unopened : ∀ text, (s.run (opening :: since)).1.report? st ≠ some (.opened uri text)) :
    s.Opening opening (since ++ [st]) uri n where
  heeded := opened.heeded
  started := opened.started
  latest text := by
    rw [reports_append, List.mem_append, not_or]
    refine ⟨opened.latest text, ?_⟩
    simpa [reports, run] using unopened text

/-- A text that has been stored since an opening stays one of those that have. -/
theorem StoredSince.snoc {opening : Step} {since : List Step} {text : Text}
    (stored : s.StoredSince opening since uri text) :
    s.StoredSince opening (since ++ [st]) uri text := by
  obtain ⟨seen, later, rfl, hstored⟩ := stored
  exact ⟨seen, later ++ [st], List.append_assoc .., hstored⟩

/-- After a run a worker is the one that was started when its document was opened last, and all that
it may still show are texts that have been stored since. -/
structure Current (s₀ : Session) (past : List Step) (n : Nat) (worker : Worker) : Prop where
  intro ::
  exists_opening : ∃ earlier opening since, past = earlier ++ opening :: since ∧
    (s₀.run earlier).1.Opening opening since worker.uri n ∧
    ∀ text cap, worker.watcher.Holds text cap → cap = s₀.settings.cap ∧
      (s₀.run earlier).1.StoredSince opening since worker.uri text

/-- A worker that has acted has nothing new to show. -/
theorem Current.leaves {worker worker' : Worker} {halted : Prop}
    (current : s₀.Current past n worker) (leaves : Leaves worker worker' halted) :
    s₀.Current past n worker' := by
  obtain ⟨earlier, opening, since, split, opened, holds⟩ := current
  rw [← leaves.uri] at opened holds
  exact ⟨earlier, opening, since, split, opened, fun text cap held =>
    holds text cap (leaves.holds text cap held)⟩

/-- A step that does not open the document of a worker changes nothing for it. -/
theorem Current.snoc {worker : Worker} (current : s₀.Current past n worker)
    (unopened : ∀ text, (s₀.run past).1.report? st ≠ some (.opened worker.uri text)) :
    s₀.Current (past ++ [st]) n worker := by
  obtain ⟨earlier, opening, since, rfl, opened, holds⟩ := current
  rw [run_append] at unopened
  refine ⟨earlier, opening, since ++ [st], by simp, opened.snoc unopened, fun text cap held => ?_⟩
  exact ⟨(holds text cap held).1, (holds text cap held).2.snoc⟩

/-- A worker that has just been started may show the text with which its document was opened. -/
theorem current_of_new {text : Text} (settings : (s₀.run past).1.settings = s₀.settings)
    (report : (s₀.run past).1.report? st = some (.opened uri text))
    (stored : ((s₀.run past).1.step st).1.documents.get? uri = some text) :
    s₀.Current (past ++ [st]) (s₀.run past).1.workers.length
      { uri, watcher := (s₀.run past).1.settings.watcher.stage text } := by
  have opened : (s₀.run past).1.Opening st [] uri (s₀.run past).1.workers.length :=
    ⟨⟨text, report⟩, rfl, fun _ => List.not_mem_nil⟩
  refine ⟨past, st, [], rfl, opened, fun other cap held => ?_⟩
  cases held with
  | staged staged =>
      cases staged
      refine ⟨congrArg Settings.cap settings, [], [], rfl, ?_⟩
      rw [run_singleton]
      exact stored
  | underway hphase => cases hphase

/-- A worker for which a text is staged may show this text as well, once it is stored. -/
theorem Current.stage {worker : Worker} {before text : Text} {full : Bool}
    (current : s₀.Current past n worker)
    (unopened : ∀ text, (s₀.run past).1.report? st ≠ some (.opened worker.uri text))
    (staged : worker.watcher.staged = some before)
    (stored : ((s₀.run past).1.step st).1.documents.get? worker.uri = some text) :
    s₀.Current (past ++ [st]) n
      { worker with watcher := worker.watcher.stageForced text full } := by
  obtain ⟨earlier, opening, since, rfl, opened, holds⟩ := current
  rw [run_append] at unopened stored
  refine ⟨earlier, opening, since ++ [st], by simp, opened.snoc unopened, fun other cap held => ?_⟩
  rcases held.of_stageForced with ⟨rfl, rfl⟩ | held
  · refine ⟨(holds _ _ (.staged staged)).1, since ++ [st], [], (List.append_nil _).symm, ?_⟩
    rw [← List.cons_append, run_snoc]
    exact stored
  · exact ⟨(holds other cap held).1, (holds other cap held).2.snoc⟩

/-- All workers of a session that go on are current. -/
def UpToDate (s₀ : Session) (past : List Step) (s : Session) : Prop :=
  ∀ (n : Nat) (worker : Worker), s.workers[n]? = some worker → worker.watcher.stopping = false →
    s₀.Current past n worker

/-- A worker at work in a step is current: it has just been started, or was current before. -/
theorem Goes.current (tidy : s₀.Tidy) (upToDate : s₀.UpToDate past (s₀.run past).1)
    {worker : Worker} (goes : (s₀.run past).1.Goes st r n worker) :
    s₀.Current (past ++ [st]) n worker := by
  cases goes with
  | new report =>
      exact current_of_new (run_settings tidy past) report
        ((step_proceeds (run_tidy tidy past) st).stored _ _ report)
  | old hworker going unopened => exact (upToDate n worker hworker going).snoc unopened

/-- What a session that has changed leads to when its workers act is up to date. -/
theorem Plays.upToDate {after : Session} {deeds : List Deed} (plays : r.Plays deeds after)
    (tidy : s₀.Tidy) (upToDate : s₀.UpToDate past (s₀.run past).1)
    (goes : (s₀.run past).1.AtWork st r) : s₀.UpToDate (past ++ [st]) after := by
  intro n worker hworker going
  obtain ⟨w, hw, leaves⟩ := plays.worker hworker
  exact ((goes n w hw (leaves.going going).1).current tidy upToDate).leaves leaves

/-- A text that is staged for a worker has just been stored for its document. -/
theorem upToDate_of_stage {text : Text} {full : Bool} {stored : Session} (tidy : s₀.Tidy)
    (upToDate : s₀.UpToDate past (s₀.run past).1)
    (steady : (s₀.run past).1.Steady st)
    (hstored : stored = (s₀.run past).1.store uri text ∨
      stored = (s₀.run past).1 ∧ (s₀.run past).1.documents.get? uri = some text)
    (hafter : ((s₀.run past).1.step st).1 = stored.stage uri text full) :
    s₀.UpToDate (past ++ [st]) (stored.stage uri text full) := by
  have reached := run_tidy tidy past
  have same : stored.workers = (s₀.run past).1.workers ∧
      stored.tracked = (s₀.run past).1.tracked ∧ stored.documents.get? uri = some text := by
    rcases hstored with rfl | ⟨rfl, hstored⟩
    · exact ⟨rfl, rfl, Table.get?_insert_self _ uri text⟩
    · exact ⟨rfl, rfl, hstored⟩
  obtain ⟨workers, tracked, documents⟩ := same
  have staged : ((s₀.run past).1.step st).1.documents.get? uri = some text := by
    rw [hafter, stage_eq_amend, (alike_amend ..).documents, documents]
  intro n worker hworker going
  rw [stage_eq_amend, amend_workers, workers, tracked, Option.map_eq_some_iff] at hworker
  obtain ⟨w, hw, rfl⟩ := hworker
  have unopened := steady.unopened w.uri
  by_cases here : (s₀.run past).1.tracked.get? uri = some n
  · rw [if_pos here] at going ⊢
    obtain ⟨_, before, hw', rfl, going', -, staged'⟩ := reached.serves here
    cases hw.symm.trans hw'
    exact (upToDate n w hw going').stage unopened staged' staged
  · rw [if_neg here] at going ⊢
    exact (upToDate n w hw going).snoc unopened

/-- Every step keeps what the workers may still show up to date. -/
theorem step_upToDate (tidy : s₀.Tidy) (upToDate : s₀.UpToDate past (s₀.run past).1) (st : Step) :
    s₀.UpToDate (past ++ [st]) ((s₀.run past).1.step st).1 := by
  have reached := run_tidy tidy past
  have unfolds := step_unfolds reached.valid st
  generalize hafter : ((s₀.run past).1.step st).1 = after, ((s₀.run past).1.step st).2.1 = log
    at unfolds
  cases unfolds with
  | opens report _ _ plays =>
      exact plays.upToDate tidy upToDate fun n worker => goes_of_opening reached report
  | closes report _ plays =>
      exact plays.upToDate tidy upToDate fun n worker => goes_of_closing reached report
  | stages steady hstored => exact upToDate_of_stage tidy upToDate steady hstored hafter
  | passes unreported _ plays =>
      refine plays.upToDate tidy upToDate fun n worker hworker going => ?_
      exact goes_of_steady (steady_of_unreported unreported) hworker going rfl
  | quits unreported _ _ plays =>
      refine plays.upToDate tidy upToDate fun n worker hworker going => ?_
      exact goes_of_steady (steady_of_unreported unreported) hworker going rfl
  | keeps steady =>
      intro n worker hworker going
      exact (upToDate n worker hworker going).snoc (steady.unopened worker.uri)
  | presents direct =>
      subst direct
      intro n worker hworker going
      exact (upToDate n worker hworker going).snoc fun text report => nomatch report

/-- After any run of a fresh session, what its workers may still show is up to date, by induction on
the steps from the last one. -/
theorem run_upToDate (settings : Settings) (host : Host) (shuffle : Shuffle) (steps : List Step) :
    (fresh settings host shuffle).UpToDate steps ((fresh settings host shuffle).run steps).1 := by
  induction steps using List.reverseRecOn with
  | nil =>
      intro n worker hworker
      simp [run, fresh] at hworker
  | append_singleton past st ih =>
      rw [run_snoc]
      exact step_upToDate (tidy_fresh settings host shuffle) ih st

/-! ### Where publications come from -/

/-- Where the publications for a document in a step come from: there are none, or the document is
closed, or they are what the worker shows, in the same order, that was started when the document was
opened last. What it shows is what a transcript of the checker has to say on a text that has been
stored since. -/
inductive Origin (s₀ : Session) (past : List Step) (st : Step) (uri : Uri) (log : List Occurrence) :
    Prop
  | silent (unpublished : publications uri log = [])
  | closing (report : (s₀.run past).1.report? st = some (.closed uri))
      (takenBack : publications uri log = [[]])
  | worker {earlier : List Step} {opening : Step} {since : List Step} {n : Nat}
      (split : past ++ [st] = earlier ++ opening :: since)
      (opened : (s₀.run earlier).1.Opening opening since uri n)
      (shows : publications uri log = (shownBy n log).map notices)
      (each : ∀ text set, (text, set) ∈ shownBy n log →
        (s₀.run earlier).1.StoredSince opening since uri text ∧
          ∃ flight transcript, flight.text = text ∧
            s₀.settings.command.transcript (s₀.run past).1.host flight = .ok transcript ∧
            set = transcript.diagnose text s₀.settings.cap)

/-- What is published in a step for a document has one of these origins. This holds in every state
that is reached, since the workers that go on are up to date. -/
theorem origin_of_step (settings : Settings) (host : Host) (shuffle : Shuffle) (past : List Step)
    (indirect : st.direct = false)
    (named : (((fresh settings host shuffle).run past).1.step st).1.Named) (uri : Uri) :
    (fresh settings host shuffle).Origin past st uri
      (((fresh settings host shuffle).run past).1.step st).2.1 := by
  have tidy := tidy_fresh settings host shuffle
  have reached := run_tidy tidy past
  obtain ⟨r, deeds, voices⟩ := step_voices reached indirect
  by_cases report : ((fresh settings host shuffle).run past).1.report? st = some (.closed uri)
  · refine .closing report ?_
    rw [voices.unpublished named (.inr (voices.readies.atWork.idle_of_closed report)), report]
    simp [closes]
  have takesNothing := countP_closes_of_unclosed report
  by_cases silent : ((fresh settings host shuffle).run past).1.reachesEditor = false ∨ r.Idle uri
  · refine .silent ?_
    rw [voices.unpublished named silent, takesNothing]
    rfl
  · obtain ⟨n, worker, hworker, going, rfl⟩ := exists_worker_of_not_idle (mt .inr silent)
    have reaches := eq_true_of_ne_false (mt .inl silent)
    have goes := voices.readies.atWork n worker hworker going
    obtain ⟨earlier, opening, since, split, opened, holds⟩ :=
      goes.current tidy (run_upToDate settings host shuffle past)
    refine .worker split opened
      (voices.publications_of_worker reached named reaches hworker going) fun text set mem => ?_
    obtain ⟨worker', hworker', -, cap, held, flight, transcript, about, yields, rfl⟩ :=
      voices.shown mem
    cases hworker.symm.trans hworker'
    obtain ⟨rfl, stored⟩ := holds text cap held
    rw [run_settings tidy] at yields
    exact ⟨stored, flight, transcript, about, yields, rfl⟩

/-! ### After a document is closed, or opened again -/

/-- A document without a worker, or one that is closed, has no worker after a step that does not
open it. -/
theorem untracked_of_step (tidy : s.Tidy) {st : Step}
    (unopened : ∀ text, s.report? st ≠ some (.opened uri text))
    (ceases : s.tracked.get? uri = none ∨ s.report? st = some (.closed uri)) :
    (s.step st).1.tracked.get? uri = none := by
  refine Option.eq_none_iff_forall_ne_some.mpr fun n htracked => ?_
  rcases (step_proceeds tidy st).tracked uri n htracked with
    ⟨text, report⟩ | ⟨before, -, unclosed⟩
  · exact unopened text report
  · rcases ceases with untracked | report
    · cases untracked.symm.trans before
    · exact unclosed report

/-- What is published in a step for a document that has no worker, or ceases to have one, is an
empty set if it is closed. -/
theorem publications_of_ceased (tidy : s.Tidy) (indirect : st.direct = false)
    (unopened : ∀ text, s.report? st ≠ some (.opened uri text))
    (ceases : s.tracked.get? uri = none ∨ s.report? st = some (.closed uri))
    (named : (s.step st).1.Named) :
    publications uri (s.step st).2.1 =
      List.replicate ((s.report? st).toList.countP (closes uri)) [] := by
  obtain ⟨r, deeds, voices⟩ := step_voices tidy indirect
  refine voices.unpublished named (.inr ?_)
  rcases ceases with untracked | report
  · exact voices.readies.atWork.idle tidy untracked unopened
  · exact voices.readies.atWork.idle_of_closed report

/-- As long as a document without a worker is not opened, its diagnostics are taken back as often as
it is closed, and nothing else is published for it. -/
theorem publications_of_untracked (tidy : s.Tidy)
    (untracked : s.tracked.get? uri = none) (unopened : ∀ text, .opened uri text ∉ s.reports steps)
    (indirect : ∀ st ∈ steps, st.direct = false)
    (named : (s.run steps).1.Named) :
    publications uri (s.run steps).2 =
      List.replicate ((s.reports steps).countP (closes uri)) [] := by
  induction steps generalizing s with
  | nil => rfl
  | cons st steps ih =>
      have unreported (text : Text) : s.report? st ≠ some (.opened uri text) := by
        intro report
        exact unopened text (by simp [reports, report])
      have later (text : Text) : .opened uri text ∉ (s.step st).1.reports steps := by
        intro report
        exact unopened text (List.mem_append_right _ report)
      have next := step_tidy tidy st
      obtain ⟨here, after⟩ := List.forall_mem_cons.mp indirect
      rw [run, reports, publications_append, List.countP_append, ← List.replicate_append_replicate]
      congr 1
      · exact publications_of_ceased tidy here unreported (.inl untracked) (named.of_run next)
      · exact ih next (untracked_of_step tidy unreported (.inl untracked)) later after named

/-- From the moment a document is closed and as long as it is not opened again, nothing is published
for it but an empty set each time it is closed. -/
theorem publications_since_closed (tidy : s.Tidy) (report : s.report? st = some (.closed uri))
    (unopened : ∀ text, .opened uri text ∉ (s.step st).1.reports steps)
    (indirect : ∀ other ∈ st :: steps, other.direct = false)
    (named : (s.run (st :: steps)).1.Named) :
    publications uri (s.run (st :: steps)).2 =
      List.replicate ((s.reports (st :: steps)).countP (closes uri)) [] := by
  have next := step_tidy tidy st
  have unreported (text : Text) : s.report? st ≠ some (.opened uri text) := by simp [report]
  obtain ⟨here, after⟩ := List.forall_mem_cons.mp indirect
  rw [run, reports, publications_append, List.countP_append, ← List.replicate_append_replicate]
  congr 1
  · exact publications_of_ceased tidy here unreported (.inr report) (named.of_run next)
  · exact publications_of_untracked next (untracked_of_step tidy unreported (.inr report)) unopened
      after named

/-- A worker that was told to stop shows nothing in a step. -/
theorem step_unshown (tidy : s.Tidy) {worker : Worker} (hworker : s.workers[n]? = some worker)
    (stopped : worker.watcher.stopping = true) (st : Step) : shownBy n (s.step st).2.1 = [] := by
  cases direct : st.direct with
  | true => exact shownBy_of_messages (step_of_direct direct).2 n
  | false =>
      obtain ⟨r, deeds, voices⟩ := step_voices tidy direct
      refine voices.unshown fun other hother => ?_
      obtain ⟨ready, hready, -, stays⟩ := voices.readies.retains n worker hworker
      cases hready.symm.trans hother
      exact stays stopped

/-- A worker that was told to stop shows nothing, whatever happens. -/
theorem shownBy_of_stopped (tidy : s.Tidy) {worker : Worker} (hworker : s.workers[n]? = some worker)
    (stopped : worker.watcher.stopping = true) (steps : List Step) :
    shownBy n (s.run steps).2 = [] := by
  induction steps generalizing s worker with
  | nil => rfl
  | cons st steps ih =>
      obtain ⟨after, hafter, -, stays⟩ := step_retains tidy st n worker hworker
      rw [run, shownBy_append, step_unshown tidy hworker stopped,
        ih (step_tidy tidy st) hafter (stays stopped)]
      rfl

/-- A worker whose document is opened again shows nothing from then on. -/
theorem shownBy_of_replaced (tidy : s.Tidy) {text : Text} {worker : Worker}
    (report : s.report? st = some (.opened worker.uri text)) (hworker : s.workers[n]? = some worker)
    (steps : List Step) : shownBy n (s.run (st :: steps)).2 = [] := by
  obtain ⟨deeds, voices⟩ := voices_of_opened tidy report
  obtain ⟨replaced, hreplaced, huri, -⟩ := voices.readies.retains n worker hworker
  have stopped : replaced.watcher.stopping = true := by
    refine eq_true_of_ne_false fun going => ?_
    have older := (List.getElem?_eq_some_iff.mp hworker).1
    have goes := voices.readies.atWork n replaced hreplaced going
    cases goes with
    | new => exact Nat.lt_irrefl _ older
    | old _ _ unopened => exact unopened text (huri ▸ report)
  obtain ⟨after, hafter, -, stops⟩ := voices.leads n replaced hreplaced
  rw [run, shownBy_append, voices.unshown,
    shownBy_of_stopped (step_tidy tidy st) hafter (stops stopped)]
  · rfl
  · intro other hother
    cases hreplaced.symm.trans hother
    exact stopped

/-! ### After a session is shut down -/

/-- A session that is shut down heeds no reports any more. -/
theorem reports_of_shutDown (tidy : s.Tidy) (ended : 2 ≤ stageOf s.lifecycle) (steps : List Step) :
    s.reports steps = [] := by
  induction steps generalizing s with
  | nil => rfl
  | cons st steps ih =>
      have unreported : s.report? st = none := by
        refine Option.eq_none_iff_forall_ne_some.mpr fun change report => ?_
        rw [running_of_report? report] at ended
        exact absurd ended (by decide)
      have later := Nat.le_trans ended (step_proceeds tidy st).later
      rw [reports, unreported, ih (step_tidy tidy st) later]
      rfl

/-- An answer with a fault is no answer with a result. -/
theorem reply_ne_ok (c : Call) (fault : CallFault) (id value : Json) :
    reply c (.error fault) ≠ .response { id, result := .ok value } := by
  unfold reply
  split <;> simp

/-- A request to shut down that is answered with a result has let go of all workers. -/
theorem shutDown_ok {c : Call} {id value : Json}
    (answered : (s.shutDown c).2.2 = .response { id, result := .ok value }) :
    (s.shutDown c).1.tracked = {} ∧ (s.shutDown c).1.lifecycle = .shutDown := by
  unfold shutDown at answered ⊢
  cases hid : c.id with
  | none => simp [hid] at answered
  | some =>
      cases hparams : c.params with
      | some params =>
          simp only [hid, hparams] at answered
          exact (reply_ne_ok _ _ _ _ answered).elim
      | none =>
          obtain ⟨deeds, -, plays, -⟩ :=
            s.quitting.stopEach_driven (s.shuffle.arrange s.tracked.values)
          exact ⟨plays.alike.tracked, plays.alike.lifecycle⟩

/-- A session that answers a request to shut down with a result tracks no worker any more. -/
theorem step_shutDown_ok {c : Call} {id value : Json} (requested : c.method = "shutdown".toList)
    (answered : (s.step (.call c)).2.2 = .response { id, result := .ok value }) :
    (s.step (.call c)).1.tracked = {} ∧ (s.step (.call c)).1.lifecycle = .shutDown := by
  have known : Method.ofName? c.method = some .shutDown := by
    rw [requested]
    rfl
  rw [step, call, known] at answered ⊢
  dsimp only at answered ⊢
  split at answered
  · cases answered
  · next going =>
    rw [if_neg going]
    split at answered
    · exact (reply_ne_ok _ _ _ _ answered).elim
    · next started =>
      rw [if_neg started]
      split at answered
      · exact (reply_ne_ok _ _ _ _ answered).elim
      · next running =>
        rw [if_neg running]
        exact shutDown_ok answered

/-! ### Runs -/

/-- Nothing stale is published in a run. -/
structure Timely (s₀ : Session) (steps : List Step) : Prop where
  /-- What is published for a document in a step is an empty set, when it is closed, or what the
  worker shows that was started when it was opened last, each time for a text that was stored
  since. -/
  origin (past rest : List Step) (st : Step) (uri : Uri) : steps = past ++ st :: rest →
    s₀.Origin past st uri ((s₀.run past).1.step st).2.1
  /-- From a step that closes a document until it is opened again, empty sets are published for it,
  one each time it is closed, and nothing else. -/
  closed (past since rest : List Step) (st : Step) (uri : Uri) :
    steps = past ++ st :: since ++ rest → (s₀.run past).1.report? st = some (.closed uri) →
    (∀ text, .opened uri text ∉ ((s₀.run past).1.step st).1.reports since) →
    publications uri ((s₀.run past).1.run (st :: since)).2 =
      List.replicate (((s₀.run past).1.reports (st :: since)).countP (closes uri)) []
  /-- From a step that opens a document, no worker shows anything that was started for this document
  before. -/
  replaced (past rest : List Step) (st : Step) (n : Nat) (worker : Worker) (text : Text) :
    steps = past ++ st :: rest → (s₀.run past).1.workers[n]? = some worker →
    (s₀.run past).1.report? st = some (.opened worker.uri text) →
    shownBy n ((s₀.run past).1.run (st :: rest)).2 = []
  /-- When a request to shut down has been answered with a result, nothing is published any more. -/
  shutDown (past rest : List Step) (c : Call) (id value : Json) (uri : Uri) :
    steps = past ++ .call c :: rest → c.method = "shutdown".toList →
    ((s₀.run past).1.step (.call c)).2.2 = .response { id, result := .ok value } →
    publications uri (((s₀.run past).1.step (.call c)).1.run rest).2 = []

/-- Nothing stale is published in any run in which nobody else shows diagnostics, and in which no
document has a URI whose written form is read as another one. -/
theorem run_timely (settings : Settings) (host : Host) (shuffle : Shuffle) (steps : List Step)
    (indirect : ∀ st ∈ steps, st.direct = false)
    (named : ((fresh settings host shuffle).run steps).1.Named) :
    (fresh settings host shuffle).Timely steps := by
  have tidy := tidy_fresh settings host shuffle
  constructor
  · rintro past rest st uri rfl
    have reached := run_tidy tidy past
    refine origin_of_step settings host shuffle past (indirect st (by simp)) ?_ uri
    rw [run_append] at named
    exact named.of_run (step_tidy reached st)
  · rintro past since rest st uri rfl report unopened
    have reached := run_tidy tidy past
    refine publications_since_closed reached report unopened (fun other mem => indirect other ?_) ?_
    · rw [List.append_assoc, List.mem_append, List.mem_append]
      exact .inr (.inl mem)
    · rw [List.append_assoc, run_append, run_append] at named
      exact named.of_run (run_tidy reached _)
  · rintro past rest st n worker text rfl hworker report
    exact shownBy_of_replaced (run_tidy tidy past) report hworker rest
  · rintro past rest c id value uri rfl requested answered
    obtain ⟨tracked, lifecycle⟩ := step_shutDown_ok requested answered
    have next := step_tidy (run_tidy tidy past) (.call c)
    have unreported := reports_of_shutDown next (by rw [lifecycle]; exact Nat.le_refl 2) rest
    rw [publications_of_untracked next, unreported]
    · rfl
    · rw [tracked]
      rfl
    · simp [unreported]
    · exact fun st mem => indirect st (by simp [mem])
    · rwa [run_append] at named

/-! ### A run, and two that the names and the refusal account for -/

/-- A host whose checker finds fault with the first line of every text. -/
def faultfinder : Host where
  scratch := { location := "/tmp".toList, next := 1, lt_next := List.forall_mem_nil _ }
  programs := fun _ => .studied
  checker := Script.checker
    { stderr := Utf8.encode ("bad at ".toList ++ Script.placeholder ++ " line 1.\n".toList) }

namespace Step

/-- The editor sets the session up. -/
def connect : Step :=
  .call {
    method := "initialize".toList
    params := some (.object [("capabilities".toList, .object [])])
    id := some (.number 1) }

/-- The editor opens a document. -/
def didOpen (uri text : Text) : Step :=
  .call {
    method := "textDocument/didOpen".toList
    params := some (.object [("textDocument".toList, .object [
      ("uri".toList, .string uri), ("languageId".toList, .string []),
      ("version".toList, .number 1), ("text".toList, .string text)])]) }

/-- The editor closes a document. -/
def didClose (uri : Text) : Step :=
  .call {
    method := "textDocument/didClose".toList
    params := some (.object [("textDocument".toList, .object [("uri".toList, .string uri)])]) }

end Step

/-- A document is closed while its checker is held back, and opened again with another text before
the checker returns. -/
def reopened : List Step :=
  let name := "file:///a.pl".toList
  [.connect, .setGate true, .didOpen name "x\n".toList, .didClose name,
    .didOpen name "yy\n".toList, .setGate false]

/-- Nothing comes of the text with which the document was opened first. -/
theorem timely_reopened :
    (∀ st ∈ reopened, st.direct = false) ∧
      ((fresh {} faultfinder .kept).run reopened).1.Named ∧
      (∃ uri, Uri.parse? "file:///a.pl".toList = some uri ∧
        (publications uri ((fresh {} faultfinder .kept).run reopened).2).map (·.map Notice.stop) =
          [[], [{ line := 0, character := 2 }]]) ∧
      (fresh {} faultfinder .kept).Timely reopened := by
  have indirect : ∀ st ∈ reopened, st.direct = false := by
    simp [reopened, Step.connect, Step.didOpen, Step.didClose, Step.direct]
  have named : ((fresh {} faultfinder .kept).run reopened).1.Named := by
    unfold Named
    decide +kernel
  refine ⟨indirect, named, ⟨_, rfl, ?_⟩, run_timely {} faultfinder .kept reopened indirect named⟩
  decide +kernel

/-- A worker publishes for a document that it was not started for, when the URI of its own document
is written like a name of the other one. And publications go on after a request to shut down that
has been answered with a fault. -/
theorem stale_publications :
    (∃ uri, Uri.parse? "file:///c:/x".toList = some uri ∧
      let s := ((fresh {} faultfinder .kept).run
        [.connect, .didOpen "file:///c:/x".toList "x\n".toList]).1
      let log := (s.step (.didOpen "file://h/c:\r\nx".toList "yy\n".toList)).2.1
      s.tracked.get? uri = some 0 ∧ shownBy 0 log = [] ∧
      (publications uri log).map (·.map Notice.stop) = [[{ line := 0, character := 2 }]]) ∧
    ∃ uri, Uri.parse? "file:///a.pl".toList = some uri ∧
      let s := ((fresh {} faultfinder .kept).run
        [.connect, .setGate true, .didOpen "file:///a.pl".toList "x\n".toList]).1
      let request : Call :=
        { method := "shutdown".toList, params := some (.array []), id := some (.number 2) }
      (s.step (.call request)).2.2 =
        .response { id := .number 2, result := .error (.strayParams (.array [])) } ∧
      (publications uri ((s.step (.call request)).1.step (.setGate false)).2.1).length = 1 := by
  refine ⟨⟨_, rfl, ?_⟩, _, rfl, rfl, ?_⟩
  · decide +kernel
  · decide +kernel

end Session

end SyntaxWatch
