import SyntaxWatch.Cycle.Inspector

/-!
# The history of a memory

What a cycle does depends on what is remembered, and what is remembered was written by earlier
cycles, at two different points of each. This module says what a cycle does without mentioning the
memory: it is fixed by what it is asked (`Trial`) and by one earlier cycle, the latest one since
the last forgetting that came to an end with its output known or shown (`latest?`).

The link between the two is an invariant (`Remembers`): a memory is empty, or both its parts stem
from that one cycle. It says in particular that no cycle in between (a failed one, a discarded
one, or one whose text was known) leaves a trace.

## Main results

* `Remembers.record`: every step keeps the invariant.
* `Remembers.follows`: a cycle on a memory that satisfies the invariant does what history says.
* `inspections_follow_history`: every cycle of every run of an inspector does what history says,
  whatever the checker answers.
-/

namespace SyntaxWatch

/-! ### What cycles are asked and what they did -/

/-- What a cycle is asked, and what a run of the checker yields if the cycle makes one. -/
structure Trial where
  text : Text
  cap : Nat
  unwanted : Bool
  check : Except CheckFault Transcript

/-- The digest of an output without the path of its input. -/
def Transcript.digest (t : Transcript) : Digest :=
  Digest.ofText t.fingerprint

/-- The digest of the output of a trial, if there is an output. -/
def Trial.digest? (t : Trial) : Option Digest :=
  t.check.toOption.map Transcript.digest

/-- A checker that has run leaves the digest of its transcript. -/
theorem Trial.digest?_of_check {t : Trial} {transcript : Transcript}
    (check : t.check = .ok transcript) : t.digest? = some transcript.digest := by
  rw [digest?, check]
  rfl

namespace Event

/-- The text on which an event runs the checker. -/
def checked? : Event → Option Text
  | .checked text => some text
  | _ => none

/-- What an event shows: a text with its set of diagnostics. -/
def display? : Event → Option (Text × List Diagnostic)
  | .shown text set => some (text, set)
  | _ => none

/-- Whether an event ends a cycle whose output was known or shown. -/
def completes : Event → Bool
  | .ended (.ok .sameOutput) => true
  | .ended (.ok (.shown _)) => true
  | _ => false

end Event

/-- One entry of a history: everything was forgotten, or a cycle did something. -/
inductive Entry where
  | forgotten
  | cycle (trial : Trial) (events : List Event)

/-- What is done with a memory. -/
inductive Recall.Step where
  | forget
  | cycle (trial : Trial)

namespace Entry

/-- The latest cycle since the last forgetting whose output was known or shown. A history has its
newest entry in front. -/
def latest? : List Entry → Option Trial
  | [] => none
  | forgotten :: _ => none
  | cycle trial events :: past => if events.any Event.completes then some trial else latest? past

/-- The cycles since the last forgetting, the newest one in front. -/
def recent : List Entry → List Trial
  | [] => []
  | forgotten :: _ => []
  | cycle trial _ :: past => trial :: recent past

/-- What was shown last, at any time. -/
def lastDisplay? : List Entry → Option (Text × List Diagnostic)
  | [] => none
  | forgotten :: past => lastDisplay? past
  | cycle _ events :: past => (events.filterMap Event.display?).getLast?.or (lastDisplay? past)

end Entry

namespace Recall

/-- A cycle on a trial. -/
def attempt (r : Recall) (t : Trial) : Recall × List Event :=
  r.cycle t.text t.cap t.unwanted t.check

/-- A step, with its entry in the history. -/
def record (state : Recall × List Entry) : Step → Recall × List Entry
  | .forget => (.empty, .forgotten :: state.2)
  | .cycle t => ((state.1.attempt t).1, .cycle t (state.1.attempt t).2 :: state.2)

/-- The memory and the history after a sequence of steps that begins with an empty memory. -/
def history (steps : List Step) : Recall × List Entry :=
  steps.foldl record (.empty, [])

/-- What the first steps establish and every step keeps holds after all steps. -/
theorem history_induction {P : Recall × List Entry → Prop} (first : P (.empty, []))
    (keeps : ∀ state step, P state → P (record state step)) (steps : List Step) :
    P (history steps) :=
  List.foldlRecOn steps record first fun state h step _ => keeps state step h

end Recall

/-! ### What a cycle has to do -/

/-- What a cycle on a trial has to do, given the latest completed cycle before it, where `before`
and `after` are the memory around it: it ends once, with a result that history fixes, runs the
checker once unless the text was known, and shows one set of diagnostics if it ends that way. -/
structure Follows (latest : Option Trial) (t : Trial) (before after : Recall)
    (events : List Event) (result : Except CheckFault Outcome) : Prop where
  ends : events.filterMap Event.result? = [result]
  sameText_iff : result = .ok .sameText ↔ ∃ p, latest = some p ∧ p.text = t.text
  error_iff (fault : CheckFault) : result = .error fault ↔
    result ≠ .ok .sameText ∧ t.check = .error fault
  discarded_iff : result = .ok .discarded ↔
    result ≠ .ok .sameText ∧ t.unwanted = true ∧ ∃ transcript, t.check = .ok transcript
  sameOutput_iff : result = .ok .sameOutput ↔
    result ≠ .ok .sameText ∧ t.unwanted = false ∧ ∃ transcript, t.check = .ok transcript ∧
      ∃ p, latest = some p ∧ p.digest? = some transcript.digest
  shown_iff (count : Nat) : result = .ok (.shown count) ↔
    result ≠ .ok .sameText ∧ t.unwanted = false ∧ ∃ transcript, t.check = .ok transcript ∧
      (∀ p, latest = some p → p.digest? ≠ some transcript.digest) ∧
      (transcript.diagnose t.text t.cap).length = count
  unchecked : result = .ok .sameText → events.filterMap Event.checked? = []
  checked : result ≠ .ok .sameText → events.filterMap Event.checked? = [t.text]
  displays (count : Nat) : result = .ok (.shown count) → ∃ transcript, t.check = .ok transcript ∧
    events.filterMap Event.display? = [(t.text, transcript.diagnose t.text t.cap)]
  displays_nothing : (∀ count, result ≠ .ok (.shown count)) →
    events.filterMap Event.display? = []
  /-- A cycle that does not get to compare its output leaves no trace. -/
  keeps : (result = .ok .sameText ∨ result = .ok .discarded ∨ ∃ fault, result = .error fault) →
    after = before

/-! ### What a cycle does once its run is over -/

/-- The four ways in which a cycle on a trial can end once its run of the checker is over, with the
memory and the events of each. -/
inductive Closes (r : Recall) (t : Trial) :
    Except CheckFault Outcome → Recall → List Event → Prop
  | failed {fault : CheckFault} (check : t.check = .error fault) :
      Closes r t (.error fault) r [.ended (.error fault)]
  | discarded {transcript : Transcript} (check : t.check = .ok transcript)
      (unwanted : t.unwanted = true) :
      Closes r t (.ok .discarded) r [.ended (.ok .discarded)]
  | sameOutput {transcript : Transcript} (check : t.check = .ok transcript)
      (wanted : t.unwanted = false) (known : r.knowsOutput transcript.fingerprint = true) :
      Closes r t (.ok .sameOutput) (r.withText t.text) [.ended (.ok .sameOutput)]
  | shown {transcript : Transcript} (check : t.check = .ok transcript)
      (wanted : t.unwanted = false) (new : r.knowsOutput transcript.fingerprint = false) :
      Closes r t (.ok (.shown (transcript.diagnose t.text t.cap).length))
        ((r.withText t.text).withOutput transcript.fingerprint)
        [.shown t.text (transcript.diagnose t.text t.cap),
          .ended (.ok (.shown (transcript.diagnose t.text t.cap).length))]

/-- The end of a cycle is one of the four. -/
theorem exists_closes (r : Recall) (t : Trial) :
    ∃ result, Closes r t result (r.close t.text t.cap t.unwanted t.check).1
      (r.close t.text t.cap t.unwanted t.check).2 := by
  cases check : t.check with
  | error fault => exact ⟨_, .failed check⟩
  | ok transcript =>
      cases unwanted : t.unwanted with
      | true => exact ⟨_, .discarded check unwanted⟩
      | false =>
          cases known : r.knowsOutput transcript.fingerprint with
          | true =>
              simp only [Recall.close, Recall.conclude, known, Bool.false_eq_true, if_false,
                if_true, Recall.shownEvents, List.nil_append]
              exact ⟨_, .sameOutput check unwanted known⟩
          | false =>
              simp only [Recall.close, Recall.conclude, known, Bool.false_eq_true, if_false,
                Recall.shownEvents, List.singleton_append]
              exact ⟨_, .shown check unwanted known⟩

/-- A cycle on a known text ends at once. -/
theorem Recall.attempt_of_knowsText {r : Recall} {t : Trial} (known : r.knowsText t.text = true) :
    r.attempt t = (r, [.ended (.ok .sameText)]) := by
  rw [attempt, cycle, if_pos known]

/-- A cycle on a new text runs the checker, and then ends in one of the four ways. -/
theorem Recall.exists_closes_attempt {r : Recall} {t : Trial}
    (new : r.knowsText t.text = false) :
    ∃ result after events, Closes r t result after events ∧
      r.attempt t = (after, .checked t.text :: events) := by
  obtain ⟨result, closes⟩ := exists_closes r t
  refine ⟨result, _, _, closes, ?_⟩
  rw [attempt, cycle, new, if_neg Bool.false_ne_true]

/-- A cycle on a new text with a known output ends without a word, whether it is wanted or not. -/
theorem Recall.attempt_of_knowsOutput {r : Recall} {t : Trial} {transcript : Transcript}
    (new : r.knowsText t.text = false) (check : t.check = .ok transcript)
    (known : r.knowsOutput transcript.fingerprint = true) :
    (r.attempt t).2 =
      [.checked t.text, .ended (.ok (if t.unwanted then .discarded else .sameOutput))] := by
  rw [attempt, cycle, new, check, if_neg Bool.false_ne_true]
  cases unwanted : t.unwanted with
  | true => rfl
  | false => simp [close, conclude, known, shownEvents]

/-! ### What is remembered -/

/-- A memory is what the latest completed cycle left behind: its text and the digest of its
output. -/
def Remembers (latest : Option Trial) (r : Recall) : Prop :=
  r.text = latest.map Trial.text ∧ r.output = latest.bind Trial.digest?

namespace Remembers

variable {latest : Option Trial} {r : Recall} {t : Trial} {transcript : Transcript}

/-- A text is known when it is that of the latest completed cycle. -/
theorem knowsText_iff (h : Remembers latest r) (text : Text) :
    r.knowsText text = true ↔ ∃ p, latest = some p ∧ p.text = text := by
  rw [Recall.knowsText, h.1, beq_iff_eq, Option.map_eq_some_iff]

/-- An output is known when its digest is that of the latest completed cycle. -/
theorem knowsOutput_iff (h : Remembers latest r) (transcript : Transcript) :
    r.knowsOutput transcript.fingerprint = true ↔
      ∃ p, latest = some p ∧ p.digest? = some transcript.digest := by
  rw [Recall.knowsOutput, h.2, beq_iff_eq, Option.bind_eq_some_iff]
  rfl

/-- A completed cycle is remembered, whether its output was known or not. -/
theorem of_completed (check : t.check = .ok transcript)
    (text : r.text = some t.text) (output : r.output = some transcript.digest) :
    Remembers (some t) r := by
  refine ⟨text, ?_⟩
  rw [output, Option.bind_some, Trial.digest?_of_check check]

end Remembers

/-! ### History fixes what a cycle does -/

namespace Remembers

variable {latest : Option Trial} {r : Recall}

/-- **History fixes what a cycle does.** On a memory of the latest completed cycle, a cycle does
what it has to do. -/
theorem follows (h : Remembers latest r) (t : Trial) :
    ∃ result, Follows latest t r (r.attempt t).1 (r.attempt t).2 result := by
  cases known : r.knowsText t.text with
  | true =>
      obtain ⟨p, hp, same⟩ := (h.knowsText_iff t.text).1 known
      rw [Recall.attempt_of_knowsText known]
      refine ⟨.ok .sameText, ?_⟩
      constructor <;>
        simp [List.filterMap_cons, Event.result?, Event.checked?, Event.display?, hp, same]
  | false =>
      have other : ¬ ∃ p, latest = some p ∧ p.text = t.text := fun found => by
        rw [(h.knowsText_iff t.text).2 found] at known
        cases known
      obtain ⟨result, after, events, closes, attempt⟩ := Recall.exists_closes_attempt known
      rw [attempt]
      refine ⟨result, ?_⟩
      cases closes with
      | failed check =>
          constructor <;>
            simp [List.filterMap_cons, Event.result?, Event.checked?, Event.display?, other, check]
      | discarded check unwanted =>
          constructor <;>
            simp [List.filterMap_cons, Event.result?, Event.checked?, Event.display?, other, check,
              unwanted]
      | sameOutput check wanted known =>
          have same := (h.knowsOutput_iff _).1 known
          constructor <;>
            simp [List.filterMap_cons, Event.result?, Event.checked?, Event.display?, other, check,
              wanted, same]
      | shown check wanted new =>
          have fresh : ∀ p, latest = some p → ¬ p.digest? = some _ := fun p hp same => by
            rw [(h.knowsOutput_iff _).2 ⟨p, hp, same⟩] at new
            cases new
          constructor <;>
            simp [List.filterMap_cons, Event.result?, Event.checked?, Event.display?, other, check,
              wanted] <;>
            exact fresh

/-- What is remembered after a cycle is the latest completed cycle, which may be this one. -/
theorem attempt {past : List Entry} (h : Remembers (Entry.latest? past) r) (t : Trial) :
    Remembers (Entry.latest? (.cycle t (r.attempt t).2 :: past)) (r.attempt t).1 := by
  cases known : r.knowsText t.text with
  | true =>
      rw [Recall.attempt_of_knowsText known]
      exact h
  | false =>
      obtain ⟨result, after, events, closes, attempt⟩ := Recall.exists_closes_attempt known
      rw [attempt]
      cases closes with
      | failed check => exact h
      | discarded check unwanted => exact h
      | @sameOutput transcript check wanted known =>
          have output : r.output = some transcript.digest := eq_of_beq known
          exact of_completed check rfl output
      | shown check wanted new => exact of_completed check rfl rfl

/-- Every step keeps the link between what is remembered and what was done. -/
theorem record (state : Recall × List Entry) (step : Recall.Step)
    (h : Remembers (Entry.latest? state.2) state.1) :
    Remembers (Entry.latest? (Recall.record state step).2) (Recall.record state step).1 := by
  cases step with
  | forget => exact ⟨rfl, rfl⟩
  | cycle t => exact h.attempt t

/-- After every sequence of steps, what is remembered is the latest completed cycle. -/
theorem history (steps : List Recall.Step) :
    Remembers (Entry.latest? (Recall.history steps).2) (Recall.history steps).1 :=
  Recall.history_induction (P := fun state => Remembers (Entry.latest? state.2) state.1)
    ⟨rfl, rfl⟩ record steps

end Remembers

/-! ### Runs of inspectors -/

namespace Inspector

/-- What is asked of an inspector: to forget, or a cycle on a host as it is at that time. -/
inductive Request where
  | forget
  | inspect (host : Host) (text : Text) (cap : Nat) (unwanted : Bool)

/-- The trial of a cycle whose run of the checker takes place on a host. -/
def trial (i : Inspector) (h : Host) (text : Text) (cap : Nat) (unwanted : Bool) : Trial :=
  { text, cap, unwanted, check := (i.command.run h text).2 }

/-- An inspector meets a request, and an entry is made in its history. -/
def attend (state : Inspector × List Entry) : Request → Inspector × List Entry
  | .forget => (state.1.forget, .forgotten :: state.2)
  | .inspect h text cap unwanted =>
    let (_, i, events) := state.1.inspect h text cap unwanted
    (i, .cycle (state.1.trial h text cap unwanted) events :: state.2)

/-- A request as a step of the memory of an inspector. -/
def step (i : Inspector) : Request → Recall.Step
  | .forget => .forget
  | .inspect h text cap unwanted => .cycle (i.trial h text cap unwanted)

/-- A cycle of an inspector is a cycle on its memory. The host is left alone when the text is
known; otherwise the checker is run on it. -/
theorem inspect_eq (i : Inspector) (h : Host) (text : Text) (cap : Nat) (unwanted : Bool) :
    i.inspect h text cap unwanted =
      (if i.memory.knowsText text then h else (i.command.run h text).1,
        { i with memory := (i.memory.attempt (i.trial h text cap unwanted)).1 },
        (i.memory.attempt (i.trial h text cap unwanted)).2) := by
  cases known : i.memory.knowsText text with
  | true =>
      have attempt := Recall.attempt_of_knowsText (t := i.trial h text cap unwanted) known
      rw [attempt, inspect, if_pos known, if_pos rfl]
  | false =>
      rw [inspect, known, if_neg Bool.false_ne_true, if_neg Bool.false_ne_true]
      rfl

/-- Meeting a request is a step of the memory; the command stays. -/
theorem attend_eq (i : Inspector) (past : List Entry) (request : Request) :
    attend (i, past) request =
      ({ i with memory := (Recall.record (i.memory, past) (i.step request)).1 },
        (Recall.record (i.memory, past) (i.step request)).2) := by
  cases request with
  | forget => rfl
  | inspect h text cap unwanted =>
      rw [attend, inspect_eq]
      rfl

/-- Meeting requests is a history of the memory; the command stays. -/
theorem foldl_attend (command : Command) (requests : List Request) :
    requests.foldl attend ({ command }, []) =
      ({ command, memory := (Recall.history (requests.map ({ command : Inspector }).step)).1 },
        (Recall.history (requests.map ({ command : Inspector }).step)).2) := by
  suffices general : ∀ (memory : Recall) (past : List Entry),
      requests.foldl attend ({ command, memory }, past) =
        let state :=
          (requests.map ({ command : Inspector }).step).foldl Recall.record (memory, past)
        ({ command, memory := state.1 }, state.2) from general .empty []
  induction requests with
  | nil => exact fun _ _ => rfl
  | cons request rest ih =>
      intro memory past
      rw [List.foldl_cons, attend_eq, ih]
      cases request <;> rfl

end Inspector

/-- **History fixes what every cycle does.** After any sequence of forgettings and cycles, whatever
texts, caps and answers of the checker they came with, a cycle does what the latest completed
cycle since the last forgetting makes it do. This holds for memories with any answers of a checker,
and so for inspectors on any hosts; a host is touched only by a run of the checker, and a cycle on
a known text makes none. -/
theorem inspections_follow_history :
    (∀ (steps : List Recall.Step) (t : Trial),
      let (r, past) := Recall.history steps
      ∃ result, Follows (Entry.latest? past) t r (r.attempt t).1 (r.attempt t).2 result) ∧
    ∀ (command : Command) (requests : List Inspector.Request) (h : Host) (text : Text) (cap : Nat)
        (unwanted : Bool),
      let (i, past) := requests.foldl Inspector.attend ({ command }, [])
      let (h', i', events) := i.inspect h text cap unwanted
      i'.command = command ∧ ∃ result,
        Follows (Entry.latest? past) (i.trial h text cap unwanted) i.memory i'.memory events
          result ∧
        (result = .ok .sameText → h' = h) ∧
        (result ≠ .ok .sameText → h' = (command.run h text).1) := by
  refine ⟨fun steps t => (Remembers.history steps).follows t, ?_⟩
  intro command requests h text cap unwanted
  rw [Inspector.foldl_attend]
  dsimp only
  rw [Inspector.inspect_eq]
  dsimp only
  have remembers := Remembers.history (requests.map ({ command : Inspector }).step)
  obtain ⟨result, follows⟩ := remembers.follows (Inspector.trial { command } h text cap unwanted)
  refine ⟨rfl, result, follows, fun same => ?_, fun other => ?_⟩
  · rw [if_pos ((remembers.knowsText_iff text).2 (follows.sameText_iff.1 same))]
  · rw [if_neg fun known =>
      other (follows.sameText_iff.2 ((remembers.knowsText_iff text).1 known))]

end SyntaxWatch
