import SyntaxWatch.Proofs.Cycle.History
import SyntaxWatch.Proofs.Fingerprint
import SyntaxWatch.Proofs.Reconciliation

/-!
# What stays on display

A cycle whose output is known shows nothing, so what was shown last stays on display. This module
says what that is: the diagnostics of an earlier cycle since the last forgetting whose output has
the same digest (`Displayed`). They were made for the text of that earlier cycle, and what a full
cycle on the new text would show can differ from them. `displayed_of_sameOutput` says when it
does; `stale_displays` gives three cycles for which it does.

## Main definitions

* `Showed`: a cycle since the last forgetting ended with its diagnostics shown.
* `Displayed`: what is on display stems from such a cycle.

## Main results

* `displayed_history`: where the set on display comes from, after any sequence of steps.
* `displayed_of_sameOutput`: how it compares with the diagnostics of a cycle that shows nothing
  because its output is known.
* `stale_displays`: it is not always the set of that cycle.
-/

namespace SyntaxWatch

open Entry

/-- A cycle since the last forgetting ended with its diagnostics shown. The newest entry of a
history is in front. -/
inductive Showed (q : Trial) : List Entry → Prop
  | now {events : List Event} {past : List Entry} (count : Nat)
      (shown : .ended (.ok (.shown count)) ∈ events) : Showed q (cycle q events :: past)
  | before {t : Trial} {events : List Event} {past : List Entry} (earlier : Showed q past) :
      Showed q (cycle t events :: past)

/-- A cycle that showed its diagnostics is one of the recent ones. -/
theorem Showed.mem_recent {q : Trial} {past : List Entry} (showed : Showed q past) :
    q ∈ recent past := by
  induction showed with
  | now => exact List.mem_cons_self
  | before _ ih => exact List.mem_cons_of_mem _ ih

/-- What is on display was shown by a cycle since the last forgetting, with the digest of the latest
completed one. -/
def Displayed (past : List Entry) : Prop :=
  ∀ p, latest? past = some p → ∃ q, Showed q past ∧ ∃ transcript, q.check = .ok transcript ∧
    p.digest? = some transcript.digest ∧
    lastDisplay? past = some (q.text, transcript.diagnose q.text q.cap)

/-- A cycle keeps the link between what is on display and the latest completed cycle. -/
theorem Displayed.attempt {past : List Entry} {r : Recall} (h : Displayed past)
    (remembers : Remembers (latest? past) r) (t : Trial) :
    Displayed (.cycle t (r.attempt t).2 :: past) := by
  -- A cycle that completes nothing and shows nothing leaves the link to the same earlier cycle.
  have kept (events : List Event) : ∀ p, latest? past = some p →
      ∃ q, Showed q (cycle t events :: past) ∧ ∃ transcript,
        q.check = .ok transcript ∧ p.digest? = some transcript.digest ∧
          lastDisplay? past = some (q.text, transcript.diagnose q.text q.cap) := by
    intro p hp
    obtain ⟨q, showed, found⟩ := h p hp
    exact ⟨q, .before showed, found⟩
  cases known : r.knowsText t.text with
  | true =>
      rw [Recall.attempt_of_knowsText known]
      exact kept _
  | false =>
      obtain ⟨result, after, events, closes, attempt⟩ := Recall.exists_closes_attempt known
      rw [attempt]
      cases closes with
      | failed check => exact kept _
      | discarded check unwanted => exact kept _
      | sameOutput check wanted known =>
          rintro p ⟨⟩
          obtain ⟨p', hp', same⟩ := (remembers.knowsOutput_iff _).1 known
          obtain ⟨q, showed, transcript, hcheck, hdigest, shown⟩ := kept _ p' hp'
          refine ⟨q, showed, transcript, hcheck, ?_, shown⟩
          rw [Trial.digest?_of_check check, ← same, hdigest]
      | @shown transcript check wanted new =>
          rintro p ⟨⟩
          refine ⟨t, .now (transcript.diagnose t.text t.cap).length (by simp), transcript, check,
            Trial.digest?_of_check check, rfl⟩

/-- After every sequence of steps, what is on display was shown by a recent cycle with the digest
of the latest completed one. -/
theorem displayed_history (steps : List Recall.Step) : Displayed (Recall.history steps).2 := by
  refine (Recall.history_induction (P := fun state =>
    Remembers (latest? state.2) state.1 ∧ Displayed state.2) ⟨⟨rfl, rfl⟩, nofun⟩ ?_ steps).2
  rintro state step ⟨remembers, displayed⟩
  refine ⟨remembers.record state step, ?_⟩
  cases step with
  | forget => exact nofun
  | cycle t => exact displayed.attempt remembers t

/-! ### Comparing two sets -/

/-- When a known output comes with a new text, what stays on display compares as follows with what
a full cycle would show. It equals it exactly when the complaints of both outputs agree and the
lines they name have the same spans in both texts. Tidy transcripts with one fingerprint make
the same complaints, so between them only highlights can differ. -/
theorem diagnose_eq_diagnose_iff (transcript transcript' : Transcript) (text text' : Text)
    (cap : Nat) :
    (transcript.diagnose text cap = transcript'.diagnose text' cap ↔
      (transcript.findings cap).map Diagnostic.ofFinding =
          (transcript'.findings cap).map Diagnostic.ofFinding ∧
        ∀ f ∈ transcript.findings cap, text.span? f.line = text'.span? f.line) ∧
    (transcript.Tidy → transcript'.Tidy → transcript.fingerprint = transcript'.fingerprint →
      (transcript.diagnose text cap).map Diagnostic.unlit =
          (transcript'.diagnose text' cap).map Diagnostic.unlit ∧
        (transcript.diagnose text cap = transcript'.diagnose text' cap ↔
          ∀ f ∈ transcript.findings cap, text.span? f.line = text'.span? f.line)) := by
  refine ⟨Diagnostic.reconcile_eq_reconcile_iff, fun tidy tidy' same => ?_⟩
  have findings := Transcript.findings_eq_of_fingerprint_eq tidy tidy' same cap
  simp only [Transcript.diagnose, ← findings, Diagnostic.map_unlit_reconcile,
    Diagnostic.reconcile_eq_reconcile_iff, true_and]

/-- **What stays on display when an output is known.** After any sequence of steps, take a cycle
that ends with its output known, and suppose that the cap has not changed since the last
forgetting. What is on display are the diagnostics of an earlier cycle since then, which ended with
them shown, for its own text, from an output with the same digest; and they compare with the
diagnostics of this very cycle as `diagnose_eq_diagnose_iff` says. -/
theorem displayed_of_sameOutput (steps : List Recall.Step) (t : Trial)
    (caps : ∀ q ∈ recent (Recall.history steps).2, q.cap = t.cap)
    (same : .ended (.ok .sameOutput) ∈ ((Recall.history steps).1.attempt t).2) :
    ∃ transcript, t.check = .ok transcript ∧
      ∃ q, Showed q (Recall.history steps).2 ∧ ∃ shown, q.check = .ok shown ∧
        shown.digest = transcript.digest ∧
        lastDisplay? (Recall.history steps).2 = some (q.text, shown.diagnose q.text t.cap) ∧
        (shown.diagnose q.text t.cap = transcript.diagnose t.text t.cap ↔
          (shown.findings t.cap).map Diagnostic.ofFinding =
              (transcript.findings t.cap).map Diagnostic.ofFinding ∧
            ∀ f ∈ shown.findings t.cap, q.text.span? f.line = t.text.span? f.line) ∧
        (shown.Tidy → transcript.Tidy → shown.fingerprint = transcript.fingerprint →
          (shown.diagnose q.text t.cap).map Diagnostic.unlit =
              (transcript.diagnose t.text t.cap).map Diagnostic.unlit ∧
            (shown.diagnose q.text t.cap = transcript.diagnose t.text t.cap ↔
              ∀ f ∈ shown.findings t.cap, q.text.span? f.line = t.text.span? f.line)) := by
  obtain ⟨result, follows⟩ := (Remembers.history steps).follows t
  have ended : result = .ok .sameOutput := by
    have mem : Except.ok Outcome.sameOutput ∈
        ((Recall.history steps).1.attempt t).2.filterMap Event.result? :=
      List.mem_filterMap.2 ⟨_, same, rfl⟩
    rw [follows.ends, List.mem_singleton] at mem
    exact mem.symm
  obtain ⟨-, -, transcript, check, p, hp, digest⟩ := follows.sameOutput_iff.1 ended
  obtain ⟨q, showed, shown, hcheck, hdigest, display⟩ := displayed_history steps p hp
  refine ⟨transcript, check, q, showed, shown, hcheck, ?_, ?_,
    diagnose_eq_diagnose_iff shown transcript q.text t.text t.cap⟩
  · exact Option.some.inj (hdigest.symm.trans digest)
  · rw [display, caps q showed.mem_recent]

/-! ### Displays that fall behind -/

/-- A wanted cycle on a text with a run of the checker. -/
def Trial.ofRun (text output input : String) : Trial where
  text := text.toList
  cap := 10
  unwanted := false
  check := .ok { output := output.toList, input := input.toList }

/-- If a cycle after some steps ends with its output known, and the cap has not changed since the
last forgetting, then the set on display is the one that this cycle would have shown. -/
def StaysCurrent (steps : List Recall.Step) (t : Trial) : Prop :=
  (∀ q ∈ recent (Recall.history steps).2, q.cap = t.cap) →
    .ended (.ok .sameOutput) ∈ ((Recall.history steps).1.attempt t).2 →
      ∀ transcript, t.check = .ok transcript →
        (lastDisplay? (Recall.history steps).2).map Prod.snd =
          some (transcript.diagnose t.text t.cap)

/-- After a first cycle that shows its diagnostics, a cycle on another text with the same
fingerprint finds its output known. -/
theorem sameOutput_after (t t' : Trial) {transcript transcript' : Transcript}
    (check : t.check = .ok transcript) (check' : t'.check = .ok transcript')
    (wanted : t.unwanted = false) (wanted' : t'.unwanted = false) (other : t.text ≠ t'.text)
    (same : transcript.fingerprint = transcript'.fingerprint) :
    .ended (.ok .sameOutput) ∈ ((Recall.history [.cycle t]).1.attempt t').2 ∧
      lastDisplay? (Recall.history [.cycle t]).2 =
        some (t.text, transcript.diagnose t.text t.cap) := by
  have first : Recall.empty.attempt t =
      ((Recall.empty.withText t.text).withOutput transcript.fingerprint,
        [.checked t.text, .shown t.text (transcript.diagnose t.text t.cap),
          .ended (.ok (.shown (transcript.diagnose t.text t.cap).length))]) := by
    rw [Recall.attempt, check, wanted]
    rfl
  rw [Recall.history, List.foldl_cons, List.foldl_nil, Recall.record, first]
  refine ⟨?_, rfl⟩
  have new : ((Recall.empty.withText t.text).withOutput transcript.fingerprint).knowsText
      t'.text = false := by
    rw [Recall.knowsText_withOutput, ← Bool.not_eq_true, Recall.knowsText_withText]
    exact other
  have known : ((Recall.empty.withText t.text).withOutput transcript.fingerprint).knowsOutput
      transcript'.fingerprint = true := by
    rw [Recall.knowsOutput_withOutput, same]
  simp [Recall.attempt_of_knowsOutput new check' known, wanted']

/-- A display has fallen behind when a cycle on another text with the same fingerprint would show
another set. -/
theorem not_staysCurrent {t t' : Trial} {transcript transcript' : Transcript}
    (check : t.check = .ok transcript) (check' : t'.check = .ok transcript')
    (wanted : t.unwanted = false) (wanted' : t'.unwanted = false) (other : t.text ≠ t'.text)
    (caps : t.cap = t'.cap) (same : transcript.fingerprint = transcript'.fingerprint)
    (differ : transcript.diagnose t.text t.cap ≠ transcript'.diagnose t'.text t'.cap) :
    ¬ StaysCurrent [.cycle t] t' := by
  intro current
  obtain ⟨ended, display⟩ := sameOutput_after t t' check check' wanted wanted' other same
  have recent : ∀ q ∈ recent (Recall.history [.cycle t]).2, q.cap = t'.cap := by
    intro q hq
    rw [List.mem_singleton.1 hq]
    exact caps
  have now := current recent ended transcript' check'
  rw [display] at now
  exact differ (Option.some.inj now)

/-- A cycle whose checker complains about the first line. -/
def plainRun : Trial := .ofRun "x\n" "bad at /t/1.pl line 1.\n" "/t/1.pl"

/-- The same complaint after the line was indented: its highlight is elsewhere now. -/
def indentedRun : Trial := .ofRun "  x\n" "bad at /t/2.pl line 1.\n" "/t/2.pl"

/-- A checker that writes the placeholder itself: it does not complain about its input at all. -/
def markedRun : Trial := .ofRun "y\n" "bad at <input> line 1.\n" "/t/2.pl"

/-- A complaint that goes on with a line that names the input. -/
def tracedRun : Trial :=
  .ofRun "x\n" "bad at /t/1.pl line 1.\n\tcalled at /t/1.pl line 2\n" "/t/1.pl"

/-- The same complaint about another text: its message names another file now. -/
def retracedRun : Trial :=
  .ofRun "y\n" "bad at /t/2.pl line 1.\n\tcalled at /t/2.pl line 2\n" "/t/2.pl"

/-- **A display can fall behind.** A highlight stays where it was when its line is indented. With
outputs that are not tidy, complaints can stay that are no longer made, and messages that name a
file that is gone. -/
theorem stale_displays :
    ¬ StaysCurrent [.cycle plainRun] indentedRun ∧ ¬ StaysCurrent [.cycle plainRun] markedRun ∧
      ¬ StaysCurrent [.cycle tracedRun] retracedRun := by
  refine ⟨?_, ?_, ?_⟩
  · exact not_staysCurrent rfl rfl rfl rfl (by decide) rfl (by decide +kernel) (by decide +kernel)
  · exact not_staysCurrent rfl rfl rfl rfl (by decide) rfl (by decide +kernel) (by decide +kernel)
  · exact not_staysCurrent rfl rfl rfl rfl (by decide) rfl (by decide +kernel) (by decide +kernel)

/-- When a line is indented, what stays on display is the complaint about it, with the highlight
that it had before. -/
theorem display_of_indentedRun :
    (∀ q ∈ recent (Recall.history [.cycle plainRun]).2, q.cap = indentedRun.cap) ∧
      .ended (.ok .sameOutput) ∈ ((Recall.history [.cycle plainRun]).1.attempt indentedRun).2 ∧
      ∃ transcript shown text, indentedRun.check = .ok transcript ∧
        lastDisplay? (Recall.history [.cycle plainRun]).2 = some (text, shown) ∧
        shown ≠ transcript.diagnose indentedRun.text indentedRun.cap ∧
        shown.map Diagnostic.unlit =
          (transcript.diagnose indentedRun.text indentedRun.cap).map Diagnostic.unlit := by
  have caps : ∀ q ∈ recent (Recall.history [.cycle plainRun]).2, q.cap = indentedRun.cap := by
    intro q hq
    rw [List.mem_singleton.1 hq]
    rfl
  have same := (sameOutput_after plainRun indentedRun rfl rfl rfl rfl (by decide)
    (by decide +kernel)).1
  obtain ⟨transcript, check, q, showed, shown, hshown, -, display, -, tidy⟩ :=
    displayed_of_sameOutput [.cycle plainRun] indentedRun caps same
  obtain rfl : q = plainRun := List.mem_singleton.1 showed.mem_recent
  cases check
  cases hshown
  obtain ⟨dark, agree⟩ := tidy (by decide +kernel) (by decide +kernel) (by decide +kernel)
  refine ⟨caps, same, _, _, _, rfl, display, fun equal => ?_, dark⟩
  exact absurd (agree.1 equal) (by decide +kernel)

end SyntaxWatch
