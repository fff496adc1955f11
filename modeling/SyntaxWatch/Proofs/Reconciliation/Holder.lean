import SyntaxWatch.Proofs.Reconciliation

/-!
# Which diagnostic is highlighted

At most one diagnostic of a source line is highlighted. `Holds` says which one: the first error of
the line, and without an error the last warning. `Reconciled` says the whole set of diagnostics
without the pass that computes it: one diagnostic for each complaint, the last complaint first, and
for each line that can be found one that holds its highlight.

## Main results

* `reconciled_reconcile`: the diagnostics of a list of complaints are as `Reconciled` says. The
  induction is on the complaints that were placed, and `Holding` is what it carries for one line.
* `Reconciled.unique`: there is only one such set, so `Reconciled` is a closed form.
-/

namespace SyntaxWatch.Diagnostic

/-- Between those before and behind it, a diagnostic holds the highlight of its line: it alone is
highlighted, and it is the first error of the line or, when there is none, its last warning. -/
structure Holds (line : Nat) (span : Span) (before : List Diagnostic) (d : Diagnostic)
    (after : List Diagnostic) : Prop where
  on_line : d.line = line
  lit : d.span = some span
  alone : ∀ e ∈ before ++ after, e.line = line → e.span = none
  chosen :
    (d.severity = .error ∧ ∀ e ∈ before, e.line = line → e.severity = .warning) ∨
      (d.severity = .warning ∧ (∀ e ∈ before ++ after, e.line = line → e.severity = .warning) ∧
        ∀ e ∈ after, e.line ≠ line)

/-- The diagnostics of a list of complaints about a text, said without the pass that places them. -/
structure Reconciled (text : Text) (fs : List Finding) (set : List Diagnostic) : Prop where
  /-- There is one diagnostic for each complaint, and the last complaint comes first. -/
  each : set.map unlit = (fs.map ofFinding).reverse
  /-- A line that the text does not have is not highlighted. -/
  dark : ∀ d ∈ set, ∀ fault, text.highlight d.line = .error fault → d.span = none
  /-- A line that the text has is highlighted in one diagnostic, when there is any. -/
  held : ∀ f ∈ fs, ∀ span, text.highlight f.line = .ok span →
    ∃ before d after, set = before ++ d :: after ∧ Holds f.line span before d after

/-- A line has a span exactly when the text has a highlight for it. -/
theorem span?_eq_some_iff {text : Text} {line : Nat} {span : Span} :
    text.span? line = some span ↔ text.highlight line = .ok span := by
  rw [Text.span?]
  cases text.highlight line <;> simp [Except.toOption]

/-! ### The holder while diagnostics are placed -/

/-- The placed diagnostics, the last one first, have a holder for the highlight of a line if any of
them is on the line. -/
def Holding (line : Nat) (span : Span) (placed : List Diagnostic) : Prop :=
  (∃ d ∈ placed, d.line = line) →
    ∃ later d earlier, placed = later ++ d :: earlier ∧ Holds line span earlier d later

/-- Every diagnostic comes from one of the same line and severity, and is dark only when it was or
when its line has lost the highlight. -/
theorem exists_of_mem_unlitAt {line : Nat} {e : Diagnostic} {placed : List Diagnostic}
    (h : e ∈ unlitAt line placed) :
    ∃ old ∈ placed, old.line = e.line ∧ old.severity = e.severity ∧
      e.span = if e.line = line then none else old.span := by
  obtain ⟨old, hold, rfl⟩ := List.mem_map.1 h
  by_cases same : old.line = line
  · exact ⟨old, hold, by simp [same, unlit]⟩
  · exact ⟨old, hold, by simp [same]⟩

/-- An error that is found on a line is one of the placed diagnostics. -/
theorem mem_of_errorAt {line : Nat} {placed : List Diagnostic} (h : errorAt line placed = true) :
    ∃ d ∈ placed, d.line = line ∧ d.severity = .error := by
  obtain ⟨d, hd, facts⟩ := List.any_eq_true.1 h
  rw [Bool.and_eq_true, beq_iff_eq, beq_iff_eq] at facts
  exact ⟨d, hd, facts⟩

/-- On a line without errors there are only warnings. -/
theorem severity_of_not_errorAt {line : Nat} {placed : List Diagnostic}
    (h : errorAt line placed = false) {e : Diagnostic} (he : e ∈ placed) (on : e.line = line) :
    e.severity = .warning := by
  have none := List.any_eq_false.1 h e he
  cases hs : e.severity with
  | warning => rfl
  | error => simp [on, hs] at none

variable {line : Nat} {span : Span} {d : Diagnostic} {before after : List Diagnostic}

/-- A diagnostic put between two lists is the only one that is new. -/
theorem mem_append_cons {e new : Diagnostic} :
    e ∈ before ++ new :: after ↔ e = new ∨ e ∈ before ++ after := by
  rw [List.mem_append, List.mem_cons, List.mem_append, or_left_comm]

/-- A holder that is an error stays when a dark diagnostic is placed. -/
theorem Holds.cons_dark (h : Holds line span before d after) (error : d.severity = .error)
    {new : Diagnostic} (dark : new.span = none) : Holds line span before d (new :: after) where
  on_line := h.on_line
  lit := h.lit
  alone e he on := by
    rcases mem_append_cons.1 he with rfl | he
    · exact dark
    · exact h.alone e he on
  chosen := by
    rcases h.chosen with first | ⟨warning, -⟩
    · exact .inl first
    · rw [error] at warning
      cases warning

/-- A holder stays when a diagnostic of another line is placed. -/
theorem Holds.cons_other (h : Holds line span before d after) {new : Diagnostic}
    (other : new.line ≠ line) : Holds line span before d (new :: after) where
  on_line := h.on_line
  lit := h.lit
  alone e he on := by
    rcases mem_append_cons.1 he with rfl | he
    · exact absurd on other
    · exact h.alone e he on
  chosen := by
    refine h.chosen.imp id fun ⟨warning, all, last⟩ => ⟨warning, fun e he on => ?_, fun e he => ?_⟩
    · rcases mem_append_cons.1 he with rfl | he
      · exact absurd on other
      · exact all e he on
    · rcases List.mem_cons.1 he with rfl | he
      · exact other
      · exact last e he

/-- A holder stays when the highlight is taken from another line. -/
theorem Holds.unlitAt_other (h : Holds line span before d after) {other : Nat}
    (ne : line ≠ other) : Holds line span (unlitAt other before) d (unlitAt other after) where
  on_line := h.on_line
  lit := h.lit
  alone e he on := by
    rw [unlitAt, unlitAt, ← List.map_append] at he
    obtain ⟨old, hold, same, -, span⟩ := exists_of_mem_unlitAt he
    rw [span, if_neg (by rw [on]; exact ne)]
    exact h.alone old hold (same.trans on)
  chosen := by
    rcases h.chosen with ⟨error, first⟩ | ⟨warning, all, last⟩
    · refine .inl ⟨error, fun e he on => ?_⟩
      obtain ⟨old, hold, same, severity, -⟩ := exists_of_mem_unlitAt he
      exact severity ▸ first old hold (same.trans on)
    · refine .inr ⟨warning, fun e he on => ?_, fun e he on => ?_⟩
      · rw [unlitAt, unlitAt, ← List.map_append] at he
        obtain ⟨old, hold, same, severity, -⟩ := exists_of_mem_unlitAt he
        exact severity ▸ all old hold (same.trans on)
      · obtain ⟨old, hold, same, -, -⟩ := exists_of_mem_unlitAt he
        exact last old hold (same.trans on)

/-- A diagnostic of another line stays where it is when a line loses its highlight. -/
theorem unlitAt_append_cons (other : Nat) (later : List Diagnostic) (d : Diagnostic)
    (earlier : List Diagnostic) (ne : d.line ≠ other) :
    unlitAt other (later ++ d :: earlier) = unlitAt other later ++ d :: unlitAt other earlier := by
  rw [unlitAt, List.map_append, List.map_cons, if_neg ne]
  rfl

namespace Holding

variable {placed : List Diagnostic}

/-- A diagnostic of another line changes nothing. -/
theorem cons_other (h : Holding line span placed) {new : Diagnostic} (other : new.line ≠ line) :
    Holding line span (new :: placed) := by
  rintro ⟨e, he, on⟩
  have old : e ∈ placed := (List.mem_cons.1 he).resolve_left fun same => other (same ▸ on)
  obtain ⟨later, holder, earlier, rfl, holds⟩ := h ⟨e, old, on⟩
  exact ⟨new :: later, holder, earlier, rfl, holds.cons_other other⟩

/-- Taking the highlight from another line changes nothing. -/
theorem unlitAt_other (h : Holding line span placed) {other : Nat} (ne : line ≠ other) :
    Holding line span (unlitAt other placed) := by
  rintro ⟨e, he, on⟩
  obtain ⟨old, hold, same, -⟩ := exists_of_mem_unlitAt he
  obtain ⟨later, holder, earlier, rfl, holds⟩ := h ⟨old, hold, same.trans on⟩
  have stays : holder.line ≠ other := by rw [holds.on_line]; exact ne
  exact ⟨_, _, _, unlitAt_append_cons other later holder earlier stays, holds.unlitAt_other ne⟩

/-- Once an error is on the line, what is placed there stays dark and the holder remains. -/
theorem cons_dark (h : Holding line span placed) (error : errorAt line placed = true)
    {new : Diagnostic} (dark : new.span = none) : Holding line span (new :: placed) := by
  intro _
  obtain ⟨e, he, on, severe⟩ := mem_of_errorAt error
  obtain ⟨later, holder, earlier, rfl, holds⟩ := h ⟨e, he, on⟩
  have first : holder.severity = .error := by
    rcases holds.chosen with ⟨first, -⟩ | ⟨warning, all, -⟩
    · exact first
    · rcases mem_append_cons.1 he with rfl | he
      · exact severe
      · rw [all e (List.mem_append.2 (List.mem_append.1 he).symm) on] at severe
        cases severe
  exact ⟨new :: later, holder, earlier, rfl, holds.cons_dark first dark⟩

/-- Without an error on the line, what is placed there takes the highlight over. -/
theorem take_over (error : errorAt line placed = false) {new : Diagnostic} (on : new.line = line)
    (lit : new.span = some span) : Holding line span (new :: unlitAt line placed) := by
  intro _
  have warning : ∀ e ∈ unlitAt line placed, e.line = line → e.severity = .warning := by
    intro e he on
    obtain ⟨old, hold, same, severity, -⟩ := exists_of_mem_unlitAt he
    exact severity ▸ severity_of_not_errorAt error hold (same.trans on)
  refine ⟨[], new, unlitAt line placed, rfl, on, lit, fun e he on => ?_, ?_⟩
  · rw [List.append_nil] at he
    obtain ⟨old, -, -, -, span⟩ := exists_of_mem_unlitAt he
    rw [span, if_pos on]
  · cases hs : new.severity with
    | error => exact .inl ⟨rfl, warning⟩
    | warning => exact .inr ⟨rfl, by rwa [List.append_nil], by simp⟩

/-- Placing a dark diagnostic keeps the holder of each line that has a span. -/
theorem light (span? : Nat → Option Span) (found : span? line = some span)
    (h : Holding line span placed) {new : Diagnostic} (dark : new.span = none) :
    Holding line span (Diagnostic.light span? placed new) := by
  rw [Diagnostic.light]
  by_cases on : new.line = line
  · subst on
    rw [found]
    split
    · next error => exact h.cons_dark error dark
    · next error => exact take_over (Bool.eq_false_iff.2 error) rfl rfl
  · split
    · exact h.cons_other on
    · split
      · next taken _ =>
          have other : ({ new with span := some taken } : Diagnostic).line ≠ line := on
          exact (h.unlitAt_other (Ne.symm on)).cons_other other
      · exact h.cons_other on

/-- Placing dark diagnostics one after the other keeps the holder of each line that has a span. -/
theorem foldl (span? : Nat → Option Span) (found : span? line = some span) {ds : List Diagnostic}
    (h : Holding line span placed) (dark : ∀ d ∈ ds, d.span = none) :
    Holding line span (ds.foldl (Diagnostic.light span?) placed) := by
  induction ds generalizing placed with
  | nil => exact h
  | cons d ds ih =>
      obtain ⟨first, rest⟩ := List.forall_mem_cons.1 dark
      exact ih (h.light span? found first) rest

end Holding

/-- The order of those before and of those behind a holder does not matter. -/
theorem Holds.reverse (h : Holds line span before d after) :
    Holds line span before.reverse d after.reverse where
  on_line := h.on_line
  lit := h.lit
  alone e he on := h.alone e (by simpa using he) on
  chosen := by simpa using h.chosen

/-- The diagnostics of a list of complaints are the reconciled ones. -/
theorem reconciled_reconcile (text : Text) (fs : List Finding) :
    Reconciled text fs (reconcile text fs) where
  each := map_unlit_reconcile text fs
  dark d hd fault failed := by
    cases hs : d.span with
    | none => rfl
    | some span =>
        have found := span?_eq_some_iff.1 ((lit_reconcile text fs).sound d hd span hs)
        rw [found] at failed
        cases failed
  held f hf span found := by
    have dark : ∀ d ∈ (fs.map ofFinding).reverse, d.span = none := by
      intro d hd
      obtain ⟨g, -, rfl⟩ := List.mem_map.1 (List.mem_reverse.1 hd)
      rfl
    have nothing : Holding f.line span [] := by simp [Holding]
    have holding := nothing.foldl text.span? (span?_eq_some_iff.2 found) dark
    obtain ⟨d, hd, on⟩ := exists_mem_reconcile text hf
    rw [reconcile_eq_light, List.mem_reverse] at hd
    obtain ⟨later, holder, earlier, placed, holds⟩ := holding ⟨d, hd, on⟩
    refine ⟨earlier.reverse, holder, later.reverse, ?_, holds.reverse⟩
    rw [reconcile_eq_light, placed, List.reverse_append, List.reverse_cons, List.append_assoc,
      List.singleton_append]

/-! ### One set only -/

/-- Diagnostics that differ in their highlights at most are on one line. -/
theorem line_of_unlit {e : Diagnostic} (h : d.unlit = e.unlit) : d.line = e.line := by
  show d.unlit.line = e.unlit.line
  rw [h]

/-- Diagnostics that differ in their highlights at most are of one severity. -/
theorem severity_of_unlit {e : Diagnostic} (h : d.unlit = e.unlit) : d.severity = e.severity := by
  show d.unlit.severity = e.unlit.severity
  rw [h]

/-- Diagnostics that differ in their highlights at most are equal when these agree. -/
theorem eq_of_unlit {e : Diagnostic} (h : d.unlit = e.unlit) (hs : d.span = e.span) : d = e := by
  cases d
  cases e
  simp_all [unlit]

namespace Holds

variable {span' : Span} {d' : Diagnostic} {before' after' : List Diagnostic}

/-- Two holders of a line do not stand at different places: the one further to the left would be
a warning with a diagnostic of its line behind it. -/
theorem not_ahead (h : Holds line span before d after) (h' : Holds line span' before' d' after')
    {e x : Diagnostic} (he : e ∈ before') (twin : d.unlit = e.unlit) (hx : x ∈ after)
    (twin' : x.unlit = d'.unlit) : False := by
  have on : e.line = line := (line_of_unlit twin).symm.trans h.on_line
  have on' : x.line = line := (line_of_unlit twin').trans h'.on_line
  have warning : e.severity = .warning := by
    rcases h'.chosen with ⟨-, first⟩ | ⟨-, all, -⟩
    · exact first e he on
    · exact all e (List.mem_append_left _ he) on
  rcases h.chosen with ⟨error, -⟩ | ⟨-, -, last⟩
  · have severity := severity_of_unlit twin
    rw [error, warning] at severity
    cases severity
  · exact last x hx on'

/-- Where the holder of a line stands follows from the lines and severities alone. -/
theorem length_eq (h : Holds line span before d after) (h' : Holds line span' before' d' after')
    (same : (before ++ d :: after).map unlit = (before' ++ d' :: after').map unlit) :
    before.length = before'.length := by
  rw [List.map_append, List.map_append, List.map_cons, List.map_cons] at same
  rcases List.append_eq_append_iff.1 same with ⟨more, front, back⟩ | ⟨more, front, back⟩
  · cases more with
    | nil => simpa using (congrArg List.length front).symm
    | cons twin more =>
        obtain ⟨rfl, later⟩ := List.cons_eq_cons.1 back
        obtain ⟨e, he, twin⟩ := List.mem_map.1 (front ▸ by simp : d.unlit ∈ before'.map unlit)
        obtain ⟨x, hx, twin'⟩ := List.mem_map.1 (later ▸ by simp : d'.unlit ∈ after.map unlit)
        exact (h.not_ahead h' he twin.symm hx twin').elim
  · cases more with
    | nil => simpa using congrArg List.length front
    | cons twin more =>
        obtain ⟨rfl, later⟩ := List.cons_eq_cons.1 back
        obtain ⟨e, he, twin⟩ := List.mem_map.1 (front ▸ by simp : d'.unlit ∈ before.map unlit)
        obtain ⟨x, hx, twin'⟩ := List.mem_map.1 (later ▸ by simp : d.unlit ∈ after'.map unlit)
        exact (h'.not_ahead h he twin.symm hx twin').elim

/-- On the line of a holder, the place of a diagnostic tells its highlight. -/
theorem span_eq (h : Holds line span before d after) {i : Nat} {e : Diagnostic}
    (he : (before ++ d :: after)[i]? = some e) (on : e.line = line) :
    e.span = if i = before.length then some span else none := by
  split
  · next at_ =>
      rw [at_, List.getElem?_append_right (Nat.le_refl _), Nat.sub_self,
        List.getElem?_cons_zero] at he
      cases he
      exact h.lit
  · next elsewhere =>
      refine h.alone e (List.mem_append.2 ?_) on
      rcases Nat.lt_or_ge i before.length with left | right
      · rw [List.getElem?_append_left left] at he
        exact .inl (List.mem_of_getElem? he)
      · obtain ⟨k, hk⟩ : ∃ k, i - before.length = k + 1 :=
          Nat.exists_eq_succ_of_ne_zero (by omega)
        rw [List.getElem?_append_right right, hk, List.getElem?_cons_succ] at he
        exact .inr (List.mem_of_getElem? he)

end Holds

/-- There is only one set of reconciled diagnostics. -/
theorem Reconciled.unique {text : Text} {fs : List Finding} {set set' : List Diagnostic}
    (h : Reconciled text fs set) (h' : Reconciled text fs set') : set = set' := by
  have same : set.map unlit = set'.map unlit := h.each.trans h'.each.symm
  have length : set.length = set'.length := by simpa using congrArg List.length same
  refine List.ext_getElem length fun i hi hi' => ?_
  have twin : set[i].unlit = set'[i].unlit := by
    have at_ := List.getElem_of_eq same (by simpa using hi : i < (set.map unlit).length)
    rwa [List.getElem_map, List.getElem_map] at at_
  have line : set'[i].line = set[i].line := (line_of_unlit twin).symm
  refine eq_of_unlit twin ?_
  cases found : text.highlight set[i].line with
  | error fault =>
      rw [h.dark _ (List.getElem_mem hi) fault found,
        h'.dark _ (List.getElem_mem hi') fault (line ▸ found)]
  | ok span =>
      have mem : set[i].unlit ∈ (fs.map ofFinding).reverse :=
        h.each ▸ List.mem_map_of_mem (List.getElem_mem hi)
      obtain ⟨f, hf, made⟩ := List.mem_map.1 (List.mem_reverse.1 mem)
      have on : f.line = set[i].line := congrArg Diagnostic.line made
      obtain ⟨before, d, after, split, holds⟩ := h.held f hf span (on ▸ found)
      obtain ⟨before', d', after', split', holds'⟩ := h'.held f hf span (on ▸ found)
      have place := holds.length_eq holds' (by rw [← split, ← split', same])
      have here : (before ++ d :: after)[i]? = some set[i] := by
        rw [← split, List.getElem?_eq_getElem hi]
      have here' : (before' ++ d' :: after')[i]? = some set'[i] := by
        rw [← split', List.getElem?_eq_getElem hi']
      rw [holds.span_eq here on.symm, holds'.span_eq here' (line.trans on.symm), place]

end SyntaxWatch.Diagnostic
