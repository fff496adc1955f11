import SyntaxWatch.Proofs.Server.Freshness

/-!
# Which texts a session stores

A session keeps two tables: the text of each document, and the worker of each document that is open.
A report that opens a document fills both and one that closes it clears both, but a text that is
told in between is stored without a look at the second table. So the two agree as long as an editor
tells texts only of documents that it has open. A text of any other document stays in the first
table, where nothing but an opening and a closing of this document, or the next such text, can reach
it.

What a session holds for a document depends on nothing but the reports about this document that it
has heeded. Both tables are computed from them here, and compared.

## Main definitions

* `Session.textTold`, `Session.isOpen`: the text that reports have told last, and whether they
  leave the document open.
* `Session.Stray`: a text was told while the document was not open, and nothing has opened or
  closed it since.
* `Session.Stores`: what a session holds for a document, by the reports about it.

## Main results

* `Session.stray_iff`: what `Stray` comes to for the two tables.
* `Session.run_stores`: what a session holds in any state that is reached before it is asked to
  shut down.
-/

namespace SyntaxWatch

/-! ### Reports about one document -/

namespace Change

/-- The document that a report is about. -/
def uri : Change → Uri
  | opened uri _ | edited uri _ | saved uri _ | closed uri => uri

/-- The text that a report tells. -/
def text? : Change → Option Text
  | opened _ text => some text
  | edited _ texts => texts.getLast?
  | saved _ text => text
  | closed _ => none

/-- The text that is known of a document after a report, by the one that was known before. -/
def textAfter (before : Option Text) : Change → Option Text
  | closed _ => none
  | change => change.text?.or before

/-- Whether a document is open after a report, by whether it was before. -/
def openAfter (before : Bool) : Change → Bool
  | opened _ _ => true
  | closed _ => false
  | _ => before

end Change

namespace Session

variable {s : Session} {st : Step} {change : Change} {heard : List Change} {uri : Uri}

/-- Of some reports, those about a document. -/
def about (uri : Uri) (heard : List Change) : List Change :=
  heard.filter (·.uri = uri)

/-- The text that reports about a document tell last, unless it has been closed since. -/
def textTold (heard : List Change) : Option Text :=
  heard.foldl Change.textAfter none

/-- Whether reports about a document leave it open. -/
def isOpen (heard : List Change) : Bool :=
  heard.foldl Change.openAfter false

/-- One of the reports about a document tells a text of it while it is not open, and none since
opens or closes it. -/
def Stray (heard : List Change) : Prop :=
  ∃ past change since, heard = past ++ change :: since ∧ isOpen past = false ∧
    change.text?.isSome ∧ turns change = false ∧ ∀ later ∈ since, turns later = false

/-- A report that neither opens nor closes a document replaces its text, if it tells one. -/
theorem textAfter_of_unturned (unturned : turns change = false) (before : Option Text) :
    change.textAfter before = change.text?.or before := by
  cases change with
  | closed => cases unturned
  | _ => rfl

/-- A report that neither opens nor closes a document leaves it open or not. -/
theorem openAfter_of_unturned (unturned : turns change = false) (before : Bool) :
    change.openAfter before = before := by
  cases change with
  | opened | closed => cases unturned
  | _ => rfl

/-- The text that is told last is known by the last report and the text before it. -/
theorem textTold_snoc (heard : List Change) (change : Change) :
    textTold (heard ++ [change]) = change.textAfter (textTold heard) := by
  rw [textTold, List.foldl_append]
  rfl

/-- Whether a document is left open is known by the last report and whether it was before. -/
theorem isOpen_snoc (heard : List Change) (change : Change) :
    isOpen (heard ++ [change]) = change.openAfter (isOpen heard) := by
  rw [isOpen, List.foldl_append]
  rfl

/-- After an opening or a closing no text is stray. -/
theorem Stray.turns_last (stray : Stray (heard ++ [change])) : turns change = false := by
  obtain ⟨past, other, since, hsplit, -, -, unturned, calm⟩ := stray
  rcases List.eq_nil_or_concat' since with rfl | ⟨since, last, rfl⟩
  · obtain ⟨-, same⟩ := List.append_inj' hsplit rfl
    cases same
    exact unturned
  · rw [← List.cons_append, ← List.append_assoc] at hsplit
    obtain ⟨-, same⟩ := List.append_inj' hsplit rfl
    cases same
    exact calm change (by simp)

/-- A text strays with the last report, or has strayed before. -/
theorem stray_snoc (unturned : turns change = false) :
    Stray (heard ++ [change]) ↔ Stray heard ∨ isOpen heard = false ∧ change.text?.isSome := by
  constructor
  · rintro ⟨past, other, since, hsplit, unopened, told, hother, calm⟩
    rcases List.eq_nil_or_concat' since with rfl | ⟨since, last, rfl⟩
    · obtain ⟨rfl, same⟩ := List.append_inj' hsplit rfl
      cases same
      exact .inr ⟨unopened, told⟩
    · rw [← List.cons_append, ← List.append_assoc] at hsplit
      obtain ⟨rfl, -⟩ := List.append_inj' hsplit rfl
      exact .inl ⟨past, other, since, rfl, unopened, told, hother,
        fun later mem => calm later (List.mem_append_left _ mem)⟩
  · rintro (⟨past, other, since, rfl, unopened, told, hother, calm⟩ | ⟨unopened, told⟩)
    · refine ⟨past, other, since ++ [change], by simp, unopened, told, hother, ?_⟩
      intro later mem
      rcases List.mem_append.mp mem with before | last
      · exact calm later before
      · rwa [List.mem_singleton.mp last]
    · exact ⟨heard, change, [], rfl, unopened, told, unturned, List.forall_mem_nil _⟩

/-- Without reports no text is stray. -/
theorem not_stray_nil : ¬Stray [] := by
  rintro ⟨past, change, since, hsplit, -⟩
  simp at hsplit

/-- The text of a document that is open is known. -/
theorem isSome_textTold_of_isOpen (opened : isOpen heard = true) : (textTold heard).isSome := by
  induction heard using List.reverseRecOn with
  | nil => cases opened
  | append_singleton heard change ih =>
      rw [isOpen_snoc] at opened
      rw [textTold_snoc]
      cases change with
      | opened => rfl
      | closed => cases opened
      | edited | saved => simp [Change.textAfter, ih opened]

/-- A text is known of a document that is not open exactly when it strays. -/
theorem stray_iff (heard : List Change) :
    Stray heard ↔ (textTold heard).isSome ∧ isOpen heard = false := by
  induction heard using List.reverseRecOn with
  | nil => simp [not_stray_nil, textTold]
  | append_singleton heard change ih =>
      rw [textTold_snoc, isOpen_snoc]
      have straying (unturned : turns change = false) :
          Stray (heard ++ [change]) ↔ (change.textAfter (textTold heard)).isSome ∧
            change.openAfter (isOpen heard) = false := by
        rw [stray_snoc unturned, ih, textAfter_of_unturned unturned,
          openAfter_of_unturned unturned, Option.isSome_or, Bool.or_eq_true]
        tauto
      cases change with
      | opened =>
          refine ⟨fun stray => ?_, fun ⟨_, unopened⟩ => ?_⟩
          · cases stray.turns_last
          · cases unopened
      | closed =>
          refine ⟨fun stray => ?_, fun ⟨known, _⟩ => ?_⟩
          · cases stray.turns_last
          · cases known
      | edited | saved => exact straying rfl

/-! ### What a report does to the two tables -/

/-- From one session to another, what is held for each document has become what reports about this
document make of it. -/
structure Heeds (s : Session) (heard : List Change) (s' : Session) : Prop where
  documents (uri : Uri) : s'.documents.get? uri =
    (about uri heard).foldl Change.textAfter (s.documents.get? uri)
  tracked (uri : Uri) : (s'.tracked.get? uri).isSome =
    (about uri heard).foldl Change.openAfter (s.tracked.get? uri).isSome

/-- Without reports, nothing changes that is held for a document. -/
theorem heeds_nil {s' : Session} (documents : s'.documents = s.documents)
    (tracked : s'.tracked = s.tracked) : s.Heeds [] s' where
  documents uri := by rw [documents]; rfl
  tracked uri := by rw [tracked]; rfl

/-- Reports after other reports are reports, all in a row. -/
theorem Heeds.append {s' s'' : Session} {more : List Change} (first : s.Heeds heard s')
    (second : s'.Heeds more s'') : s.Heeds (heard ++ more) s'' where
  documents uri := by
    rw [second.documents, first.documents, about, about, about, List.filter_append,
      List.foldl_append]
  tracked uri := by
    rw [second.tracked, first.tracked, about, about, about, List.filter_append, List.foldl_append]

/-- A report is about its own document and no other. -/
theorem about_singleton (uri : Uri) (change : Change) :
    about uri [change] = if uri = change.uri then [change] else [] := by
  simp [about, List.filter_singleton, eq_comm]

/-- A report changes only what is held for its own document. -/
theorem heeds_singleton {s' : Session}
    (documents : ∀ uri, s'.documents.get? uri = if uri = change.uri then
      change.textAfter (s.documents.get? uri) else s.documents.get? uri)
    (tracked : ∀ uri, (s'.tracked.get? uri).isSome = if uri = change.uri then
      change.openAfter (s.tracked.get? uri).isSome else (s.tracked.get? uri).isSome) :
    s.Heeds [change] s' where
  documents uri := by
    rw [documents, about_singleton]
    split <;> rfl
  tracked uri := by
    rw [tracked, about_singleton]
    split <;> rfl

/-- To stop a worker touches neither table, whatever the workers do meanwhile. -/
theorem stopTracked_tables (s : Session) (old : Option Nat) :
    (s.stopTracked old).1.documents = s.documents ∧ (s.stopTracked old).1.tracked = s.tracked := by
  obtain ⟨wakes, -, plays, -⟩ := s.stopTracked_driven old
  have alike := plays.alike.trans (alike_amend ..)
  exact ⟨alike.documents, alike.tracked⟩

/-- To track a new worker enters its number for the document, and touches no text. -/
theorem track_tables (s : Session) (uri : Uri) (text : Text) :
    (s.track uri text).1.documents = s.documents ∧
      (s.track uri text).1.tracked = s.tracked.insert uri s.workers.length := by
  obtain ⟨wakes, -, plays, -⟩ := drive_driven (s := { s with
    workers := s.workers ++ [{ uri, watcher := s.settings.watcher.stage text }]
    tracked := s.tracked.insert uri s.workers.length })
    (Watcher.start_drives s.settings.command) s.workers.length
  exact ⟨plays.alike.documents, plays.alike.tracked⟩

/-- To stage a text touches neither table. -/
theorem stage_tables (s : Session) (uri : Uri) (text : Text) (full : Bool) :
    (s.stage uri text full).documents = s.documents ∧
      (s.stage uri text full).tracked = s.tracked := by
  rw [stage_eq_amend]
  have alike := s.alike_amend (s.tracked.get? uri) (·.stageForced text full)
  exact ⟨alike.documents, alike.tracked⟩

/-- To open a document stores its text and tracks a worker for it. -/
theorem opened_heeds (s : Session) (uri : Uri) (text : Text) :
    s.Heeds [.opened uri text] (s.change (.opened uri text)).1 := by
  obtain ⟨stopDocuments, stopTracked⟩ :=
    ((s.store uri text).track uri text).1.stopTracked_tables (s.tracked.get? uri)
  obtain ⟨documents, tracked⟩ := (s.store uri text).track_tables uri text
  refine heeds_singleton (fun other => ?_) fun other => ?_
  · rw [Session.change, stopDocuments, documents]
    exact s.documents.get?_insert uri other text
  · rw [Session.change, stopTracked, tracked, Table.get?_insert]
    exact apply_ite Option.isSome ..

/-- A report that neither opens nor closes a document changes its text alone. -/
theorem unturned_heeds {s' : Session} (unturned : turns change = false)
    (documents : ∀ uri, s'.documents.get? uri = if uri = change.uri then
      change.text?.or (s.documents.get? uri) else s.documents.get? uri)
    (tracked : s'.tracked = s.tracked) : s.Heeds [change] s' := by
  refine heeds_singleton (fun uri => ?_) fun uri => ?_
  · rw [documents, textAfter_of_unturned unturned]
  · rw [tracked, openAfter_of_unturned unturned, ite_self]

/-- A text that is told is stored, whether the document is open or not. -/
theorem told_heeds {text : Text} {full : Bool} (told : change.text? = some text)
    (unturned : turns change = false) :
    s.Heeds [change] ((s.store change.uri text).stage change.uri text full) := by
  obtain ⟨documents, tracked⟩ := (s.store change.uri text).stage_tables change.uri text full
  refine unturned_heeds unturned (fun uri => ?_) tracked
  rw [documents, told, Option.some_or]
  exact s.documents.get?_insert change.uri uri text

/-- A report that tells no text leaves what is held as it is. -/
theorem untold_heeds {s' : Session} (untold : change.text? = none) (unturned : turns change = false)
    (documents : s'.documents = s.documents) (tracked : s'.tracked = s.tracked) :
    s.Heeds [change] s' := by
  refine unturned_heeds unturned (fun uri => ?_) tracked
  rw [documents, untold, Option.none_or, ite_self]

/-- To close a document forgets its text and its worker. -/
theorem closed_heeds (s : Session) (uri : Uri) :
    s.Heeds [.closed uri] (s.change (.closed uri)).1 := by
  obtain ⟨documents, tracked⟩ :=
    ({ s with tracked := s.tracked.erase uri } : Session).stopTracked_tables (s.tracked.get? uri)
  refine heeds_singleton (fun other => ?_) fun other => ?_
  · rw [Session.change]
    dsimp only
    rw [documents]
    exact s.documents.get?_erase uri other
  · rw [Session.change]
    dsimp only
    rw [tracked, Table.get?_erase]
    exact apply_ite Option.isSome ..

/-- Whatever the editor reports, both tables become what the report makes of them. -/
theorem change_heeds (s : Session) (change : Change) : s.Heeds [change] (s.change change).1 := by
  cases change with
  | opened uri text => exact s.opened_heeds uri text
  | edited uri texts =>
      rw [Session.change]
      cases told : texts.getLast? with
      | some text => exact told_heeds told rfl
      | none => exact untold_heeds told rfl rfl rfl
  | saved uri text =>
      cases text with
      | some text => exact told_heeds rfl rfl
      | none =>
          rw [Session.change]
          cases s.documents.get? uri with
          | some text =>
              obtain ⟨documents, tracked⟩ := s.stage_tables uri text true
              exact untold_heeds rfl rfl documents tracked
          | none => exact untold_heeds rfl rfl rfl rfl
  | closed uri => exact s.closed_heeds uri

/-- A report about a document that is not tracked does nothing but store the text that it tells,
unless it opens or closes the document. -/
theorem change_of_untracked (untracked : s.tracked.get? change.uri = none)
    (unturned : turns change = false) :
    s.change change = (change.text?.elim s (s.store change.uri), []) := by
  have idle (stored : Session) (text : Text) (full : Bool) (same : stored.tracked = s.tracked) :
      (stored.stage change.uri text full, ([] : List Occurrence)) = (stored, []) := by
    rw [stage, same, untracked]
  cases change with
  | opened => cases unturned
  | edited uri texts =>
      rw [Session.change, Change.text?]
      cases texts.getLast? with
      | some text => exact idle (s.store uri text) text false rfl
      | none => rfl
  | saved uri text =>
      cases text with
      | some text => exact idle (s.store uri text) text true rfl
      | none =>
          rw [Session.change]
          cases s.documents.get? uri with
          | some text => exact idle s text true rfl
          | none => rfl
  | closed => cases unturned

/-! ### Calls to shut down -/

/-- Whether a step is a call to shut the session down. -/
def Step.shutsDown : Step → Bool
  | .call c => c.method = "shutdown".toList
  | _ => false

/-- The method that shuts a session down has one name. -/
theorem name_of_shutDown {name : Text} (known : Method.ofName? name = some .shutDown) :
    name = "shutdown".toList := by
  obtain ⟨⟨other, method⟩, found, rfl⟩ := Option.map_eq_some_iff.mp known
  obtain rfl : other = "shutdown" := by
    simpa [Method.all, Method.served, Method.heardNames] using List.mem_of_find?_eq_some found
  have named := List.find?_some found
  exact (eq_of_beq named).symm

/-! ### Steps and runs -/

/-- Until a session is shut down, nothing but reports changes what it holds for a document. -/
theorem step_heeds (going : st.shutsDown = false) :
    s.Heeds (s.report? st).toList (s.step st).1 := by
  have takes := s.step_takes st
  generalize (s.step st).1 = after, (s.step st).2.1 = log at takes
  cases takes with
  | report report =>
      rw [report]
      exact s.change_heeds _
  | shutDown asked _ known =>
      subst asked
      exact absurd (name_of_shutDown known) (of_decide_eq_false going)
  | @elapse ms passes =>
      subst passes
      obtain ⟨_, -, plays, -⟩ := s.elapse_driven ms
      exact heeds_nil plays.alike.documents plays.alike.tracked
  | @setGate closed moves =>
      subst moves
      obtain ⟨_, -, plays, -⟩ := s.setGate_driven closed
      exact heeds_nil plays.alike.documents plays.alike.tracked
  | presents direct =>
      subst direct
      exact heeds_nil rfl rfl
  | keeps unreported =>
      rw [unreported]
      exact heeds_nil rfl rfl

/-- As long as nothing shuts the session down, both tables become what the reports make of them. -/
theorem run_heeds {steps : List Step} (going : ∀ st ∈ steps, st.shutsDown = false) :
    s.Heeds (s.reports steps) (s.run steps).1 := by
  induction steps generalizing s with
  | nil => exact heeds_nil rfl rfl
  | cons st steps ih =>
      obtain ⟨first, rest⟩ := List.forall_mem_cons.mp going
      exact (step_heeds first).append (ih rest)

/-- What a session holds for a document, by the reports about this document that it has heeded. -/
structure Stores (s : Session) (heard : List Change) (uri : Uri) : Prop where
  /-- The text that was told last is stored until the document is closed. -/
  stored : s.documents.get? uri = textTold heard
  /-- A worker is tracked for the document as long as it is open. -/
  tracked : (s.tracked.get? uri).isSome = isOpen heard
  /-- For a document for which a worker is tracked, a text is stored. -/
  texted : (s.tracked.get? uri).isSome → (s.documents.get? uri).isSome
  /-- A text is stored for a document for which no worker is tracked exactly when it strays. -/
  strays : Stray heard ↔ (s.documents.get? uri).isSome ∧ s.tracked.get? uri = none
  /-- A report that neither opens nor closes a document for which no worker is tracked does nothing
  but store the text that it tells. -/
  untracked (st : Step) (change : Change) : s.report? st = some change → change.uri = uri →
    turns change = false → s.tracked.get? uri = none →
    s.step st = (change.text?.elim s (s.store uri), [], .silent)

/-- As long as a session is not asked to shut down, the two tables hold for each document what the
reports about it say. -/
theorem run_stores (settings : Settings) (host : Host) (shuffle : Shuffle) (steps : List Step)
    (going : ∀ st ∈ steps, st.shutsDown = false) (uri : Uri) :
    ((fresh settings host shuffle).run steps).1.Stores
      (about uri ((fresh settings host shuffle).reports steps))
      uri := by
  have heeds : (fresh settings host shuffle).Heeds _ _ := run_heeds going
  have stored := heeds.documents uri
  have tracked := heeds.tracked uri
  refine ⟨stored, tracked, fun opened => ?_, ?_, ?_⟩
  · rw [stored]
    exact isSome_textTold_of_isOpen (tracked.symm.trans opened)
  · rw [stray_iff, stored, ← Option.not_isSome_iff_eq_none, tracked, Bool.not_eq_true]
    rfl
  · rintro st change report rfl unturned untracked
    rw [step_of_report report, change_of_untracked untracked unturned]

/-! ### Texts that stray -/

namespace Step

/-- The editor tells a new text of a document. -/
def didChange (uri text : Text) : Step :=
  .call {
    method := "textDocument/didChange".toList
    params := some (.object [
      ("textDocument".toList, .object [("uri".toList, .string uri), ("version".toList, .number 2)]),
      ("contentChanges".toList, .array [.object [("text".toList, .string text)]])]) }

/-- The editor saves a document and tells its text. -/
def didSave (uri text : Text) : Step :=
  .call {
    method := "textDocument/didSave".toList
    params := some (.object [
      ("textDocument".toList, .object [("uri".toList, .string uri)]),
      ("text".toList, .string text)]) }

end Step

/-- A document is opened and closed, and saved after that. -/
def savedLate : List Step :=
  let name := "file:///a.pl".toList
  [.connect, .didOpen name "x\n".toList, .didClose name, .didSave name "yy\n".toList]

/-- The text with which the closed document is saved stays. -/
theorem stores_savedLate :
    (∀ st ∈ savedLate, st.shutsDown = false) ∧
      ∃ uri, Uri.parse? "file:///a.pl".toList = some uri ∧
        textTold (about uri ((fresh {} faultfinder .kept).reports savedLate)) = some "yy\n".toList ∧
        ((fresh {} faultfinder .kept).run savedLate).1.Stores
          (about uri ((fresh {} faultfinder .kept).reports savedLate)) uri := by
  have going : ∀ st ∈ savedLate, st.shutsDown = false := by decide +kernel
  refine ⟨going, _, rfl, ?_, run_stores {} faultfinder .kept savedLate going _⟩
  decide +kernel

/-- A text is stored for a document that has never been opened, and another one for a document that
has been closed, while no worker is tracked for either. -/
theorem untracked_text_kept :
    ∃ uri, Uri.parse? "file:///a.pl".toList = some uri ∧
      (let s := ((fresh {} faultfinder .kept).run [.connect]).1
       let after := (s.step (.didChange "file:///a.pl".toList "x\n".toList)).1
       s.documents.get? uri = none ∧ after.documents.get? uri = some "x\n".toList ∧
         after.tracked.get? uri = none) ∧
      let s := ((fresh {} faultfinder .kept).run savedLate).1
      s.documents.get? uri = some "yy\n".toList ∧ s.tracked.get? uri = none := by
  refine ⟨_, rfl, ?_, ?_⟩
  · decide +kernel
  · decide +kernel

end Session

end SyntaxWatch
