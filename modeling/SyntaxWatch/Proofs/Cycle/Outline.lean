import SyntaxWatch.Proofs.Cycle.History
import SyntaxWatch.Proofs.Text.Replacement

/-!
# Outputs that differ in the name of their input

Each run of the checker has an input with a name of its own. Two runs that have the same to say
write the same outline, each with its own name in the places that the outline has for it. Where the
name can be told from the rest of the output, the fingerprint puts the placeholder into exactly
these places, so that it depends on the outline alone.

Replacement is a pass over the output, which knows nothing of the places. It stops at them, and
nowhere else, because a name that fits occurs nowhere else (`Outline.Fits`).

## Main definitions

* `Outline`: an output with places for the name, which may stand next to each other or at the ends.
* `Outline.Fits`: a name that can be told from the rest of the output.

## Main results

* `Outline.fingerprint_transcript`: the fingerprint of a filled outline.
* `Outline.known_when_renamed`: an outline is shown once, whatever names it is filled with.
* `Outline.renamed_discarded`: a cycle that is not wanted any more does not get to compare outputs.
-/

namespace SyntaxWatch

/-- An output with the name of its input left open: the texts before, between and behind the places
for the name. -/
abbrev Outline := List Text

namespace Outline

/-- The output with a name in all its places. -/
def fill (name : Text) (o : Outline) : Text :=
  name.intercalate o

/-- The offsets, in characters, of the places in the output. -/
def places (name : Text) : Outline → List Nat
  | front :: next :: rest =>
    front.length :: (places name (next :: rest)).map (front.length + name.length + ·)
  | _ => []

/-- A name that can be told from the rest of the output: there is something of it, and wherever it
occurs in the output, even if only partly beside a place, there is a place. -/
structure Fits (o : Outline) (name : Text) : Prop where
  named : name ≠ []
  apart : ∀ i, name <+: (o.fill name).drop i → i ∈ o.places name

/-- What a run leaves behind that writes the outline with the name of its input. -/
def transcript (o : Outline) (name : Text) : Transcript :=
  { output := o.fill name, input := name }

variable {o : Outline} {name front next : Text}

/-! ### Filling -/

/-- Between two pieces of an outline stands the name. -/
theorem fill_cons_cons (name front next : Text) (o : Outline) :
    fill name (front :: next :: o) = front ++ (name ++ fill name (next :: o)) := by
  rw [fill, List.intercalate_cons_cons, List.append_assoc]
  rfl

/-- The places of an outline are the one behind its first text, and those of the rest. -/
theorem mem_places_cons_cons {i : Nat} :
    i ∈ places name (front :: next :: o) ↔ i = front.length ∨
      ∃ j ∈ places name (next :: o), front.length + name.length + j = i := by
  rw [places, List.mem_cons, List.mem_map]

/-- No occurrence of a name that fits begins before the first place. -/
theorem Fits.passed (fits : Fits (front :: next :: o) name) :
    ∀ i < front.length, ¬ name <+: (front ++ (name ++ fill name (next :: o))).drop i := by
  intro i inside found
  rw [← fill_cons_cons] at found
  rcases mem_places_cons_cons.1 (fits.apart i found) with rfl | ⟨j, -, rfl⟩ <;> omega

/-- A name that fits an outline fits what is behind the first place. -/
theorem Fits.tail (fits : Fits (front :: next :: o) name) : Fits (next :: o) name := by
  refine ⟨fits.named, fun i found => ?_⟩
  have later : name <+: (fill name (front :: next :: o)).drop (front.length + name.length + i) := by
    rw [fill_cons_cons, ← List.drop_drop, ← List.drop_drop, List.drop_left, List.drop_left]
    exact found
  rcases mem_places_cons_cons.1 (fits.apart _ later) with here | ⟨j, place, same⟩
  · have := List.length_pos_iff.2 fits.named
    omega
  · obtain rfl : j = i := by omega
    exact place

/-- Replacing a name that fits puts the new one into the places, by induction on the texts between
them. -/
theorem replace_fill (fits : o.Fits name) (new : Text) :
    Search.replace name new (o.fill name) = o.fill new := by
  induction o with
  | nil => exact Search.replace_nil name new
  | cons front o ih =>
      cases o with
      | nil =>
          rw [fill, fill, List.intercalate_singleton, List.intercalate_singleton]
          refine Search.replace_of_absent ?_
          rintro ⟨before, after, rfl⟩
          have place : before.length ∈ places name [before ++ name ++ after] := by
            refine fits.apart _ ?_
            rw [fill, List.intercalate_singleton, List.append_assoc, List.drop_left]
            exact List.prefix_append _ _
          cases place
      | cons next o =>
          rw [fill_cons_cons, fill_cons_cons, Search.replace_append_of_passed fits.passed,
            Search.replace_append_found fits.named, ih fits.tail]

/-- **The fingerprint of a filled outline** is the outline with the placeholder in its places. -/
theorem fingerprint_transcript (fits : o.Fits name) :
    (o.transcript name).fingerprint = o.fill Transcript.placeholder :=
  replace_fill fits _

/-- In each place there is the name. -/
theorem prefix_drop_of_mem_places {i : Nat} (place : i ∈ o.places name) :
    name <+: (o.fill name).drop i := by
  induction o generalizing i with
  | nil => cases place
  | cons front o ih =>
      cases o with
      | nil => cases place
      | cons next o =>
          rw [fill_cons_cons]
          rcases mem_places_cons_cons.1 place with rfl | ⟨j, later, rfl⟩
          · rw [List.drop_left]
            exact List.prefix_append _ _
          · rw [← List.drop_drop, ← List.drop_drop, List.drop_left, List.drop_left]
            exact ih later

/-- A name fits when it occurs exactly in the places. Beyond the output there is no occurrence. -/
theorem fits_iff : o.Fits name ↔ name ≠ [] ∧
    ∀ i < (o.fill name).length, name <+: (o.fill name).drop i ↔ i ∈ o.places name := by
  refine ⟨fun fits => ⟨fits.named, fun i _ => ⟨fits.apart i, prefix_drop_of_mem_places⟩⟩, ?_⟩
  rintro ⟨named, apart⟩
  refine ⟨named, fun i found => (apart i (Nat.lt_of_not_le fun beyond => named ?_)).1 found⟩
  rwa [List.drop_of_length_le beyond, List.prefix_nil] at found

instance (o : Outline) (name : Text) : Decidable (o.Fits name) :=
  decidable_of_iff _ fits_iff.symm

end Outline

/-! ### Cycles whose outputs have one outline -/

/-- What was shown in a history, the newest set in front. -/
def Entry.displays : List Entry → List (Text × List Diagnostic)
  | [] => []
  | forgotten :: past => displays past
  | cycle _ events :: past => events.filterMap Event.display? ++ displays past

namespace Outline

variable {o : Outline} {p q : Text} {past : List Entry} {r : Recall} {latest t : Trial}

/-- A trial whose run fails, or writes the outline with a name that fits. -/
def Repeats (o : Outline) (t : Trial) : Prop :=
  (∃ fault, t.check = .error fault) ∨ ∃ name, o.Fits name ∧ t.check = .ok (o.transcript name)

/-- After a completed cycle, the output of a run that writes the same outline is known. -/
theorem knowsOutput_of_fits (remembers : Remembers (some latest) r) (hp : o.Fits p) (hq : o.Fits q)
    (run : latest.check = .ok (o.transcript p)) :
    r.knowsOutput (o.transcript q).fingerprint = true := by
  refine (remembers.knowsOutput_iff _).2 ⟨latest, rfl, ?_⟩
  rw [Trial.digest?_of_check run, Transcript.digest, Transcript.digest, fingerprint_transcript hp,
    fingerprint_transcript hq]

/-- A cycle on another text whose run writes the same outline shows nothing. -/
theorem attempt_of_fits (remembers : Remembers (some latest) r) (hp : o.Fits p) (hq : o.Fits q)
    (run : latest.check = .ok (o.transcript p)) (rerun : t.check = .ok (o.transcript q))
    (other : t.text ≠ latest.text) :
    (r.attempt t).2 =
      [.checked t.text, .ended (.ok (if t.unwanted then .discarded else .sameOutput))] := by
  refine Recall.attempt_of_knowsOutput ?_ rerun (knowsOutput_of_fits remembers hp hq run)
  refine eq_false_of_ne_true fun known => other ?_
  obtain ⟨p, ⟨⟩, same⟩ := (remembers.knowsText_iff t.text).1 known
  exact same.symm

/-- The latest completed cycle of a history wrote the outline with a name that fits. -/
def Latest (o : Outline) (past : List Entry) : Prop :=
  ∃ latest, Entry.latest? past = some latest ∧
    ∃ name, o.Fits name ∧ latest.check = .ok (o.transcript name)

/-- A cycle that repeats the outline shows nothing, and leaves a history whose latest completed
cycle wrote it. -/
theorem Latest.attempt (remembers : Remembers (Entry.latest? past) r) (wrote : o.Latest past)
    (repeats : o.Repeats t) :
    (r.attempt t).2.filterMap Event.display? = [] ∧
      o.Latest (.cycle t (r.attempt t).2 :: past) := by
  cases known : r.knowsText t.text with
  | true =>
      rw [Recall.attempt_of_knowsText known]
      exact ⟨rfl, wrote⟩
  | false =>
      obtain ⟨result, after, events, closes, attempt⟩ := Recall.exists_closes_attempt known
      rw [attempt]
      cases closes with
      | failed | discarded => exact ⟨rfl, wrote⟩
      | sameOutput check =>
          obtain ⟨fault, failed⟩ | completed := repeats
          · cases check.symm.trans failed
          · exact ⟨rfl, t, rfl, completed⟩
      | shown check wanted new =>
          obtain ⟨fault, failed⟩ | ⟨name, fits, rerun⟩ := repeats
          · cases check.symm.trans failed
          · obtain ⟨latest, hlatest, name', fits', run⟩ := wrote
            rw [hlatest] at remembers
            cases check.symm.trans rerun
            cases new.symm.trans (knowsOutput_of_fits remembers fits' fits run)

/-- Cycles that repeat an outline show nothing after the outline was shown, by induction on the
cycles. -/
theorem displays_of_repeats (ts : List Trial) (state : Recall × List Entry)
    (remembers : Remembers (Entry.latest? state.2) state.1) (wrote : o.Latest state.2)
    (repeats : ∀ t ∈ ts, o.Repeats t) :
    Entry.displays ((ts.map Recall.Step.cycle).foldl Recall.record state).2 =
      Entry.displays state.2 := by
  induction ts generalizing state with
  | nil => rfl
  | cons t ts ih =>
      obtain ⟨first, rest⟩ := List.forall_mem_cons.1 repeats
      obtain ⟨quiet, still⟩ := Latest.attempt remembers wrote first
      rw [List.map_cons, List.foldl_cons,
        ih _ (remembers.record state (.cycle t)) still rest]
      rw [Recall.record, Entry.displays, quiet, List.nil_append]

/-- **An outline is known when it comes again with another name.** Outputs that write one outline
with names that fit have one fingerprint. So a cycle on a new text whose output is the outline of
the latest completed cycle with another name ends with its output known, or discarded when it is not
wanted any more, and in either case it shows nothing. This holds after any sequence of steps, for
memories with any answers of a checker and for inspectors on any hosts; and as long as all runs
write the same outline or fail, nothing is shown any more. -/
theorem known_when_renamed (o : Outline) {p q : Text} (hp : o.Fits p) (hq : o.Fits q) :
    (o.transcript p).fingerprint = (o.transcript q).fingerprint ∧
      (∀ (steps : List Recall.Step) (latest t : Trial),
        Entry.latest? (Recall.history steps).2 = some latest →
        latest.check = .ok (o.transcript p) → t.check = .ok (o.transcript q) →
        t.text ≠ latest.text →
        ((Recall.history steps).1.attempt t).2 =
          [.checked t.text, .ended (.ok (if t.unwanted then .discarded else .sameOutput))]) ∧
      (∀ (command : Command) (requests : List Inspector.Request) (h : Host) (text : Text)
          (cap : Nat) (unwanted : Bool) (latest : Trial),
        Entry.latest? (requests.foldl Inspector.attend ({ command }, [])).2 = some latest →
        latest.check = .ok (o.transcript p) → (command.run h text).2 = .ok (o.transcript q) →
        text ≠ latest.text →
        ((requests.foldl Inspector.attend ({ command }, [])).1.inspect h text cap unwanted).2.2 =
          [.checked text, .ended (.ok (if unwanted then .discarded else .sameOutput))]) ∧
      (∀ (steps : List Recall.Step) (latest : Trial) (ts : List Trial),
        Entry.latest? (Recall.history steps).2 = some latest →
        latest.check = .ok (o.transcript p) → (∀ t ∈ ts, o.Repeats t) →
        Entry.displays (Recall.history (steps ++ ts.map .cycle)).2 =
          Entry.displays (Recall.history steps).2) := by
  refine ⟨?_, fun steps latest t hlatest run rerun other => ?_, ?_,
    fun steps latest ts hlatest run repeats => ?_⟩
  · rw [fingerprint_transcript hp, fingerprint_transcript hq]
  · have remembers := Remembers.history steps
    rw [hlatest] at remembers
    exact attempt_of_fits remembers hp hq run rerun other
  · intro command requests h text cap unwanted latest hlatest run rerun other
    rw [Inspector.foldl_attend] at hlatest ⊢
    have remembers := Remembers.history (requests.map ({ command : Inspector }).step)
    rw [hlatest] at remembers
    rw [Inspector.inspect_eq]
    exact attempt_of_fits (t := Inspector.trial { command } h text cap unwanted) remembers hp hq
      run rerun other
  · rw [Recall.history, List.foldl_append]
    exact displays_of_repeats ts _ (Remembers.history steps) ⟨latest, hlatest, p, hp, run⟩ repeats

/-- A wanted cycle whose run writes an outline with a name. -/
def written (o : Outline) (name : Text) (text : String) : Trial where
  text := text.toList
  cap := 10
  unwanted := false
  check := .ok (o.transcript name)

/-- An output that begins with the name of its input, and has it twice in a row further on. -/
def doubled : Outline :=
  ["", " is bad at ", "", " line 1.\n"].map String.toList

/-- The same complaint about another text, from a run whose input has a longer name. -/
theorem known_when_renamed_doubled :
    let state := Recall.history [.cycle (doubled.written "/t/1.pl".toList "x\n")]
    let again := doubled.written "/t/22.pl".toList "y\n"
    doubled.Fits "/t/1.pl".toList ∧ doubled.Fits "/t/22.pl".toList ∧
      (state.1.attempt again).2 = [.checked again.text, .ended (.ok .sameOutput)] := by
  intro state again
  have fits : doubled.Fits "/t/1.pl".toList := by decide +kernel
  have fits' : doubled.Fits "/t/22.pl".toList := by decide +kernel
  exact ⟨fits, fits', (known_when_renamed doubled fits fits').2.1
    [.cycle (doubled.written "/t/1.pl".toList "x\n")] _ again rfl rfl rfl (by decide)⟩

/-- **A cycle that is not wanted any more is discarded**, although its output is the outline of the
latest completed cycle with another name: it does not get to compare outputs. -/
theorem renamed_discarded :
    let first := doubled.written "/t/1.pl".toList "x\n"
    let state := Recall.history [.cycle first]
    let again := { doubled.written "/t/22.pl".toList "y\n" with unwanted := true }
    doubled.Fits "/t/1.pl".toList ∧ doubled.Fits "/t/22.pl".toList ∧
      Entry.latest? state.2 = some first ∧
      first.check = .ok (doubled.transcript "/t/1.pl".toList) ∧
      again.check = .ok (doubled.transcript "/t/22.pl".toList) ∧ again.text ≠ first.text ∧
      (state.1.attempt again).2 = [.checked again.text, .ended (.ok .discarded)] ∧
      .ended (.ok .sameOutput) ∉ (state.1.attempt again).2 := by
  intro first state again
  have discarded : (state.1.attempt again).2 = [.checked again.text, .ended (.ok .discarded)] := rfl
  refine ⟨by decide +kernel, by decide +kernel, rfl, rfl, rfl, by decide, discarded, ?_⟩
  rw [discarded]
  simp

end Outline

end SyntaxWatch
