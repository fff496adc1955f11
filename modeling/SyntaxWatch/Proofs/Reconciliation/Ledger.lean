import SyntaxWatch.Proofs.Reconciliation.Holder
import SyntaxWatch.Table

/-!
# The pass by index

The pass over the complaints does not search what it placed: it keeps a ledger, with the severity
that was last admitted to the highlight of each line and the index of the diagnostic that holds it,
and it takes a highlight away at that index. This module writes the pass with these two tables,
where an index past the end is a fault, and shows that it never faults and places the same
diagnostics as `Diagnostic.place` does.

The invariant is `Ledger.Keeps`. Its core is `PointsAt`: the table of holders knows the index of
every highlighted diagnostic, under its line, and no other index.

## Main results

* `Ledger.enter_keeps`: one complaint keeps the invariant, and its index is in bounds.
* `reconcile_closed_form`: the pass ends, with the only reconciled set.
-/

namespace SyntaxWatch

open Diagnostic

/-- An index at which a list has no element. -/
structure OutOfBounds where
  index : Nat
  length : Nat

/-- What the pass remembers: the severity last admitted to the highlight of a line, the index of
the diagnostic that holds the highlight of a line, and the diagnostics in the order in which they
were placed. -/
structure Ledger where
  admitted : Table Nat Severity := .empty
  holders : Table Nat Nat := .empty
  placed : List Diagnostic := []

namespace Ledger

/-- Takes the highlight away from the diagnostic at an index. -/
def unlitAtIndex (placed : List Diagnostic) (index : Nat) : Except OutOfBounds (List Diagnostic) :=
  if index < placed.length then
    .ok (placed.modify index unlit)
  else
    .error { index, length := placed.length }

/-- The span of a line for a new holder. The holder before it, if there is one, loses its highlight.
A line that the text does not have has no span, and nothing changes. -/
def takeSpan (text : Text) (ledger : Ledger) (line : Nat) :
    Except OutOfBounds (Ledger × Option Span) :=
  match text.highlight line with
  | .error _ => .ok (ledger, none)
  | .ok span =>
    match ledger.holders.get? line with
    | none => .ok (ledger, some span)
    | some index => do
      let placed ← unlitAtIndex ledger.placed index
      return ({ ledger with holders := ledger.holders.erase line, placed }, some span)

/-- Places a diagnostic at the end, with or without a highlight. -/
def push (ledger : Ledger) (d : Diagnostic) (span : Option Span) : Ledger :=
  { ledger with
    holders :=
      if span.isSome then ledger.holders.insert d.line ledger.placed.length else ledger.holders
    placed := ledger.placed ++ [{ d with span }] }

/-- Takes up one complaint. Its line is highlighted anew unless an error was admitted there. -/
def enter (text : Text) (ledger : Ledger) (f : Finding) : Except OutOfBounds Ledger := do
  let d := ofFinding f
  if ledger.admitted.get? d.line = some .error then
    return ledger.push d none
  else
    let (ledger, span) ← takeSpan text
      { ledger with admitted := ledger.admitted.insert d.line d.severity } d.line
    return ledger.push d span

/-- The diagnostics of a list of complaints, the last complaint first. -/
def reconcile (text : Text) (fs : List Finding) : Except OutOfBounds (List Diagnostic) := do
  let ledger ← fs.reverse.foldlM (enter text) {}
  return ledger.placed

end Ledger

/-! ### The table of holders -/

/-- A table of holders gives an index for a line exactly when the diagnostic at that index is on
the line and highlighted. -/
def PointsAt (holders : Table Nat Nat) (placed : List Diagnostic) : Prop :=
  ∀ line index, holders.get? line = some index ↔
    ∃ d, placed[index]? = some d ∧ d.line = line ∧ d.span.isSome = true

namespace PointsAt

variable {holders : Table Nat Nat} {placed : List Diagnostic} {line index : Nat}

/-- The highlight of a line is at the index in the table only. -/
theorem span_eq_none (h : PointsAt holders placed) {i : Nat} {d : Diagnostic}
    (hd : placed[i]? = some d) (other : holders.get? d.line ≠ some i) : d.span = none := by
  cases hs : d.span with
  | none => rfl
  | some span => exact absurd ((h d.line i).2 ⟨d, hd, rfl, by rw [hs]; rfl⟩) other

/-- An index in the table is in bounds. -/
theorem lt_length (h : PointsAt holders placed) (held : holders.get? line = some index) :
    index < placed.length := by
  obtain ⟨d, hd, -, -⟩ := (h line index).1 held
  exact (List.getElem?_eq_some_iff.1 hd).1

/-- No diagnostic is moved when a line loses its highlight. -/
theorem getElem?_unlitAt (line i : Nat) (placed : List Diagnostic) :
    (unlitAt line placed)[i]? =
      placed[i]?.map fun d => if d.line = line then d.unlit else d := by
  rw [unlitAt, List.getElem?_map]

/-- Where the table has no index for a line, no highlight is to be taken away. -/
theorem unlitAt_of_none (h : PointsAt holders placed) (held : holders.get? line = none) :
    unlitAt line placed = placed := by
  refine List.ext_getElem? fun i => ?_
  rw [getElem?_unlitAt]
  cases hd : placed[i]? with
  | none => rfl
  | some d =>
      rw [Option.map_some]
      split
      · next on =>
          have dark := h.span_eq_none hd (by rw [on, held]; simp)
          rw [unlit, ← dark]
      · rfl

/-- Taking the highlight away at the index in the table takes it away from the line. -/
theorem modify_eq_unlitAt (h : PointsAt holders placed) (held : holders.get? line = some index) :
    placed.modify index unlit = unlitAt line placed := by
  refine List.ext_getElem? fun i => ?_
  rw [getElem?_unlitAt, List.getElem?_modify]
  cases hd : placed[i]? with
  | none => rfl
  | some d =>
      rw [Option.map_eq_map, Option.map_some, Option.map_some]
      obtain ⟨holder, hholder, on, -⟩ := (h line index).1 held
      by_cases at_ : index = i
      · subst at_
        cases hd.symm.trans hholder
        rw [if_pos rfl, if_pos on]
      · rw [if_neg at_]
        split
        · next on =>
            have dark := h.span_eq_none hd (by rw [on, held]; simpa using at_)
            rw [unlit, ← dark]
        · rfl

/-- When the highlight of a line is taken away, its index leaves the table. -/
theorem unlitAt (h : PointsAt holders placed) (line : Nat) :
    PointsAt (holders.erase line) (Diagnostic.unlitAt line placed) := by
  intro line' index
  rw [Table.get?_erase, getElem?_unlitAt]
  by_cases same : line' = line
  · rw [if_pos same]
    constructor
    · rintro ⟨⟩
    · rintro ⟨d, hd, on, lit⟩
      obtain ⟨old, -, rfl⟩ := Option.map_eq_some_iff.1 hd
      split at lit
      · cases lit
      · next other =>
          rw [if_neg other, same] at on
          exact absurd on other
  · rw [if_neg same, h line' index]
    constructor
    · rintro ⟨d, hd, on, lit⟩
      exact ⟨d, by rw [hd, Option.map_some, if_neg (by rw [on]; exact same)], on, lit⟩
    · rintro ⟨d, hd, on, lit⟩
      obtain ⟨old, hold, rfl⟩ := Option.map_eq_some_iff.1 hd
      split at lit
      · cases lit
      · next other => exact ⟨old, hold, by rwa [if_neg other] at on, lit⟩

/-- A new diagnostic at the end takes the first index that was free, and moves no other. -/
theorem getElem?_concat_eq_some_iff {i : Nat} {d new : Diagnostic} :
    (placed ++ [new])[i]? = some d ↔ placed[i]? = some d ∨ i = placed.length ∧ d = new := by
  rw [List.getElem?_append]
  split
  · next inside => simp [Nat.ne_of_lt inside]
  · next outside =>
      have past : placed[i]? = none := List.getElem?_eq_none (Nat.le_of_not_lt outside)
      have last : i - placed.length = 0 ↔ i = placed.length := by omega
      simp [past, List.getElem?_singleton, last, eq_comm]

/-- A dark diagnostic at the end has no index in the table. -/
theorem concat_dark (h : PointsAt holders placed) {new : Diagnostic} (dark : new.span = none) :
    PointsAt holders (placed ++ [new]) := by
  intro line index
  rw [h line index]
  constructor
  · rintro ⟨d, hd, facts⟩
    exact ⟨d, getElem?_concat_eq_some_iff.2 (.inl hd), facts⟩
  · rintro ⟨d, hd, on, lit⟩
    rcases getElem?_concat_eq_some_iff.1 hd with hd | ⟨-, rfl⟩
    · exact ⟨d, hd, on, lit⟩
    · rw [dark] at lit
      cases lit

/-- A highlighted diagnostic at the end goes into the table, when its line had no holder. -/
theorem concat_lit (h : PointsAt holders placed) {new : Diagnostic} (lit : new.span.isSome = true)
    (free : holders.get? new.line = none) :
    PointsAt (holders.insert new.line placed.length) (placed ++ [new]) := by
  intro line index
  rw [Table.get?_insert]
  by_cases same : line = new.line
  · rw [if_pos same, Option.some.injEq]
    constructor
    · rintro rfl
      exact ⟨new, getElem?_concat_eq_some_iff.2 (.inr ⟨rfl, rfl⟩), same.symm, lit⟩
    · rintro ⟨d, hd, on, bright⟩
      rcases getElem?_concat_eq_some_iff.1 hd with hd | ⟨at_, -⟩
      · have held := (h line index).2 ⟨d, hd, on, bright⟩
        rw [same, free] at held
        cases held
      · exact at_.symm
  · rw [if_neg same, h line index]
    constructor
    · rintro ⟨d, hd, facts⟩
      exact ⟨d, getElem?_concat_eq_some_iff.2 (.inl hd), facts⟩
    · rintro ⟨d, hd, on, bright⟩
      rcases getElem?_concat_eq_some_iff.1 hd with hd | ⟨-, rfl⟩
      · exact ⟨d, hd, on, bright⟩
      · exact absurd on.symm same

end PointsAt

/-! ### The pass keeps its ledger -/

namespace Ledger

/-- A ledger is kept for diagnostics, the last one first, when it has them in the order in which
they were placed, admitted errors exactly where they have one, and points at their highlights. -/
structure Keeps (ledger : Ledger) (placed : List Diagnostic) : Prop where
  placed_eq : ledger.placed = placed.reverse
  admitted_iff : ∀ line, ledger.admitted.get? line = some .error ↔ errorAt line placed = true
  points : PointsAt ledger.holders ledger.placed

/-- An error on a line is the new one or one that was there. -/
theorem errorAt_cons (line : Nat) (d : Diagnostic) (placed : List Diagnostic) :
    errorAt line (d :: placed) = true ↔
      (d.line = line ∧ d.severity = .error) ∨ errorAt line placed = true := by
  simp [errorAt]

/-- An error stays one when a line loses its highlight. -/
theorem errorAt_unlitAt (line other : Nat) (placed : List Diagnostic) :
    errorAt line (unlitAt other placed) = errorAt line placed := by
  rw [errorAt, errorAt, unlitAt, List.any_map]
  congr 1
  funext d
  rw [Function.comp_apply]
  split <;> rfl

variable {ledger : Ledger} {placed : List Diagnostic} {text : Text} {line : Nat}

/-- The span of a line can be taken: the index of its holder is in bounds. Afterwards the line has
no holder and no highlight. -/
theorem takeSpan_eq (points : PointsAt ledger.holders ledger.placed) {span : Span}
    (found : text.highlight line = .ok span) :
    ∃ holders, takeSpan text ledger line =
        .ok ({ ledger with holders, placed := unlitAt line ledger.placed }, some span) ∧
      PointsAt holders (unlitAt line ledger.placed) ∧ holders.get? line = none := by
  rw [takeSpan, found]
  cases held : ledger.holders.get? line with
  | none =>
      have same := points.unlitAt_of_none held
      exact ⟨ledger.holders, by rw [same], by rwa [same], held⟩
  | some index =>
      refine ⟨ledger.holders.erase line, ?_, points.unlitAt line, Table.get?_erase_self _ _⟩
      simp only [unlitAtIndex, if_pos (points.lt_length held), points.modify_eq_unlitAt held]
      rfl

/-- Where an error is on the line already, the table of admitted severities stays right. -/
theorem Keeps.admitted_of_errorAt (keeps : Keeps ledger placed) {d : Diagnostic}
    (error : errorAt d.line placed = true) (line : Nat) :
    ledger.admitted.get? line = some .error ↔ errorAt line (d :: placed) = true := by
  rw [errorAt_cons, keeps.admitted_iff]
  exact ⟨.inr, fun h => h.elim (fun new => new.1 ▸ error) id⟩

/-- Where no error is on the line, the severity of the new diagnostic makes the table right. -/
theorem Keeps.admitted_insert (keeps : Keeps ledger placed) {d : Diagnostic}
    (clear : errorAt d.line placed = false) (line : Nat) :
    (ledger.admitted.insert d.line d.severity).get? line = some .error ↔
      errorAt line (d :: placed) = true := by
  rw [errorAt_cons, Table.get?_insert]
  by_cases same : line = d.line
  · subst same
    simp [clear]
  · simp [same, Ne.symm same, keeps.admitted_iff]

/-- Placing a dark diagnostic keeps the ledger. -/
theorem Keeps.push_dark (keeps : Keeps ledger placed) {d : Diagnostic} (dark : d.span = none)
    {admitted : Table Nat Severity}
    (admits : ∀ line, admitted.get? line = some .error ↔ errorAt line (d :: placed) = true) :
    Keeps ({ ledger with admitted }.push d none) (d :: placed) where
  placed_eq := by
    have same : ({ d with span := none } : Diagnostic) = d := by rw [← dark]
    rw [push, same, keeps.placed_eq, List.reverse_cons]
  admitted_iff := admits
  points := keeps.points.concat_dark rfl

/-- Placing a highlighted diagnostic keeps the ledger, when the line has lost its highlight. -/
theorem Keeps.push_lit (keeps : Keeps ledger placed) {d : Diagnostic} {span : Span}
    {admitted : Table Nat Severity} {holders : Table Nat Nat}
    (admits : ∀ line, admitted.get? line = some .error ↔ errorAt line (d :: placed) = true)
    (points : PointsAt holders (unlitAt d.line ledger.placed))
    (free : holders.get? d.line = none) :
    Keeps (push { admitted, holders, placed := unlitAt d.line ledger.placed } d (some span))
      ({ d with span := some span } :: unlitAt d.line placed) where
  placed_eq := by
    rw [push, keeps.placed_eq, List.reverse_cons, unlitAt, unlitAt, List.map_reverse]
  admitted_iff line := by
    rw [errorAt_cons, errorAt_unlitAt, ← errorAt_cons line d]
    exact admits line
  points := by
    have lit : ({ d with span := some span } : Diagnostic).span.isSome = true := rfl
    exact points.concat_lit lit free

/-- Taking up a complaint finds every index in bounds and places what the search would place. -/
theorem enter_keeps (keeps : Keeps ledger placed) (text : Text) (f : Finding) :
    ∃ ledger', enter text ledger f = .ok ledger' ∧ Keeps ledger' (place text placed f) := by
  rw [place_eq_light, light]
  generalize made : ofFinding f = d
  have dark : d.span = none := by rw [← made]; rfl
  rw [enter, made]
  cases error : errorAt d.line placed with
  | true =>
      rw [if_pos ((keeps.admitted_iff d.line).2 error)]
      exact ⟨_, rfl, keeps.push_dark dark (keeps.admitted_of_errorAt error)⟩
  | false =>
      have clear : ledger.admitted.get? d.line ≠ some .error := fun h => by
        rw [(keeps.admitted_iff d.line).1 h] at error
        cases error
      have admits := keeps.admitted_insert error
      rw [if_neg clear]
      cases found : text.highlight d.line with
      | error fault =>
          have none : text.span? d.line = Option.none := by rw [Text.span?, found]; rfl
          refine ⟨_, ?_, by rw [none]; exact keeps.push_dark dark admits⟩
          rw [takeSpan, found]
          rfl
      | ok span =>
          have some : text.span? d.line = Option.some span := span?_eq_some_iff.2 found
          have admitting :
              PointsAt { ledger with admitted := ledger.admitted.insert d.line d.severity }.holders
                ledger.placed := keeps.points
          obtain ⟨holders, taken, points, free⟩ := takeSpan_eq admitting found
          refine ⟨_, ?_, by rw [some]; exact keeps.push_lit admits points free⟩
          rw [taken]
          rfl

/-- Taking up complaints one after the other keeps the ledger. -/
theorem foldlM_keeps (keeps : Keeps ledger placed) (text : Text) (fs : List Finding) :
    ∃ ledger', fs.foldlM (enter text) ledger = .ok ledger' ∧
      Keeps ledger' (fs.foldl (place text) placed) := by
  induction fs generalizing ledger placed with
  | nil => exact ⟨ledger, rfl, keeps⟩
  | cons f fs ih =>
      obtain ⟨next, entered, kept⟩ := enter_keeps keeps text f
      obtain ⟨last, ended, keptLast⟩ := ih kept
      refine ⟨last, ?_, keptLast⟩
      rw [List.foldlM_cons, entered]
      exact ended

/-- The empty ledger is kept for no diagnostics. -/
theorem keeps_nil : Keeps {} [] where
  placed_eq := rfl
  admitted_iff line := by simp [errorAt]
  points line index := by simp

/-- The pass by index ends with the diagnostics of the complaints. -/
theorem reconcile_eq (text : Text) (fs : List Finding) :
    Ledger.reconcile text fs = .ok (Diagnostic.reconcile text fs) := by
  obtain ⟨last, ended, keeps⟩ := foldlM_keeps keeps_nil text fs.reverse
  rw [Ledger.reconcile, ended, Diagnostic.reconcile, ← keeps.placed_eq]
  rfl

end Ledger

namespace Diagnostic

/-- **Reconciliation in closed form.** The pass by index is never out of bounds. It ends with the
diagnostics of the complaints, and these are the one set in which every complaint has its
diagnostic, the last complaint first, and in which a line that the text has is highlighted in its
first error or, without an error, in its last warning. -/
theorem reconcile_closed_form (text : Text) (fs : List Finding) :
    Ledger.reconcile text fs = .ok (reconcile text fs) ∧
      ∀ set, set = reconcile text fs ↔ Reconciled text fs set :=
  ⟨Ledger.reconcile_eq text fs, fun _ =>
    ⟨fun same => same ▸ reconciled_reconcile text fs,
      fun reconciled => reconciled.unique (reconciled_reconcile text fs)⟩⟩

end Diagnostic

end SyntaxWatch
