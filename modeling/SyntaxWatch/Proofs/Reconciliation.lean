import SyntaxWatch.Reconciliation

/-!
# What reconciled diagnostics depend on

A set of diagnostics is made from the complaints of the checker and from the text under check. The
complaints give all of it but the highlights (`map_unlit_reconcile`), their messages have no part in
anything else (`map_unworded_reconcile`), and of the text only the spans of the lines that are
complained about matter. Conversely the set tells these spans: a line that is complained about and
can be found is highlighted in one of its diagnostics, with its span (`Lit`). So two sets are equal
exactly when the complaints and these spans agree (`reconcile_eq_reconcile_iff`).
-/

namespace SyntaxWatch

/-- The span of a line, if the text has that line. -/
def Text.span? (text : Text) (line : Nat) : Option Span :=
  (text.highlight line).toOption

namespace Diagnostic

/-- The diagnostic of a complaint without its highlight. -/
def ofFinding (f : Finding) : Diagnostic :=
  { line := f.line, message := f.message, severity := Severity.ofSummary f.summary, span := none }

/-- Adds a diagnostic at the front of those placed before it, where `span?` tells the spans of
lines. -/
def light (span? : Nat → Option Span) (placed : List Diagnostic) (d : Diagnostic) :
    List Diagnostic :=
  if errorAt d.line placed then
    d :: placed
  else
    match span? d.line with
    | some span => { d with span := some span } :: unlitAt d.line placed
    | none => d :: placed

/-- Placing a complaint only looks at its diagnostic and at the span of its line. -/
theorem place_eq_light (text : Text) (placed : List Diagnostic) (f : Finding) :
    place text placed f = light text.span? placed (ofFinding f) := by
  rw [place, light, Text.span?]
  show (if errorAt f.line placed then _ else _) = if errorAt f.line placed then _ else _
  split
  · rfl
  · show _ = match (text.highlight f.line).toOption with
      | some span => _
      | none => _
    cases text.highlight f.line with
    | error e => rfl
    | ok span => rfl

/-- The diagnostics of complaints are placed one by one, the last complaint first. -/
theorem reconcile_eq_light (text : Text) (fs : List Finding) :
    reconcile text fs = (((fs.map ofFinding).reverse).foldl (light text.span?) []).reverse := by
  have same : place text = fun placed f => light text.span? placed (ofFinding f) :=
    funext fun placed => funext fun f => place_eq_light text placed f
  rw [reconcile, same, ← List.map_reverse, List.foldl_map]

/-! ### What complaints give -/

/-- Taking highlights away changes nothing else. -/
theorem map_unlit_unlitAt (line : Nat) (placed : List Diagnostic) :
    (unlitAt line placed).map unlit = placed.map unlit := by
  rw [unlitAt, List.map_map]
  refine List.map_congr_left fun d _ => ?_
  rw [Function.comp_apply]
  split <;> rfl

/-- Placing a diagnostic adds it to those that were placed, apart from the highlights. -/
theorem map_unlit_light (span? : Nat → Option Span) (placed : List Diagnostic) (d : Diagnostic) :
    (light span? placed d).map unlit = d.unlit :: placed.map unlit := by
  rw [light]
  split
  · rfl
  · split
    · rw [List.map_cons, map_unlit_unlitAt]
      rfl
    · rfl

/-- Without their highlights, the diagnostics are those of the complaints, the last one first. -/
theorem map_unlit_reconcile (text : Text) (fs : List Finding) :
    (reconcile text fs).map unlit = (fs.map ofFinding).reverse := by
  have fold : ∀ (ds placed : List Diagnostic),
      (ds.foldl (light text.span?) placed).map unlit =
        (ds.map unlit).reverse ++ placed.map unlit := by
    intro ds
    induction ds with
    | nil => intro placed; rfl
    | cons d ds ih =>
        intro placed
        rw [List.foldl_cons, ih, map_unlit_light, List.map_cons, List.reverse_cons,
          List.append_assoc, List.singleton_append]
  have dark : (fs.map ofFinding).map unlit = fs.map ofFinding := by
    rw [List.map_map]
    rfl
  rw [reconcile_eq_light, List.map_reverse, fold, List.map_reverse, dark, List.map_nil,
    List.append_nil, List.reverse_reverse]

/-! ### What messages do not give -/

/-- The diagnostic without its message. -/
def unworded (d : Diagnostic) : Diagnostic :=
  { d with message := [] }

/-- Whether there is an error on a line does not depend on messages. -/
theorem errorAt_map_unworded (line : Nat) (placed : List Diagnostic) :
    errorAt line (placed.map unworded) = errorAt line placed := by
  rw [errorAt, errorAt, List.any_map]
  rfl

/-- Which highlights are taken away does not depend on messages. -/
theorem unlitAt_map_unworded (line : Nat) (placed : List Diagnostic) :
    unlitAt line (placed.map unworded) = (unlitAt line placed).map unworded := by
  rw [unlitAt, unlitAt, List.map_map, List.map_map]
  refine List.map_congr_left fun d _ => ?_
  simp only [Function.comp_apply, apply_ite unworded]
  rfl

/-- No message is looked at when a diagnostic is added. -/
theorem map_unworded_light (span? : Nat → Option Span) (placed : List Diagnostic) (d : Diagnostic) :
    (light span? placed d).map unworded = light span? (placed.map unworded) d.unworded := by
  have line : d.unworded.line = d.line := rfl
  rw [light, light, line, errorAt_map_unworded, unlitAt_map_unworded]
  split
  · rfl
  · split <;> rfl

/-- Without their messages, the diagnostics are those of complaints without messages. -/
theorem map_unworded_reconcile (text : Text) (fs : List Finding) :
    (reconcile text fs).map unworded =
      ((((fs.map ofFinding).map unworded).reverse).foldl (light text.span?) []).reverse := by
  have fold : ∀ (ds placed : List Diagnostic),
      (ds.foldl (light text.span?) placed).map unworded =
        (ds.map unworded).foldl (light text.span?) (placed.map unworded) := by
    intro ds
    induction ds with
    | nil => intro placed; rfl
    | cons d ds ih =>
        intro placed
        rw [List.foldl_cons, ih, map_unworded_light, List.map_cons, List.foldl_cons]
  rw [reconcile_eq_light, List.map_reverse, fold, List.map_reverse, List.map_nil]

/-! ### What the text gives -/

/-- The spans of lines matter only for the lines that are complained about. -/
theorem foldl_light_congr {span? span?' : Nat → Option Span} {ds : List Diagnostic}
    (h : ∀ d ∈ ds, span? d.line = span?' d.line) (placed : List Diagnostic) :
    ds.foldl (light span?) placed = ds.foldl (light span?') placed := by
  induction ds generalizing placed with
  | nil => rfl
  | cons d ds ih =>
      obtain ⟨first, rest⟩ := List.forall_mem_cons.1 h
      rw [List.foldl_cons, List.foldl_cons, ih rest]
      rw [light, light, first]

/-- Placed diagnostics are lit when every highlight is the span of its line, and every line with
a span has its highlight on one of its diagnostics. -/
structure Lit (span? : Nat → Option Span) (placed : List Diagnostic) : Prop where
  sound : ∀ d ∈ placed, ∀ span, d.span = some span → span? d.line = some span
  complete : ∀ d ∈ placed, ∀ span, span? d.line = some span →
    ∃ holder ∈ placed, holder.line = d.line ∧ holder.span = some span

namespace Lit

variable {span? : Nat → Option Span} {placed : List Diagnostic}

/-- Taking the highlight from the diagnostics of a line leaves the other lines as they are. -/
theorem mem_unlitAt {line : Nat} {d : Diagnostic} (h : d ∈ unlitAt line placed) :
    (d.line = line ∧ d.span = none) ∨ (d.line ≠ line ∧ d ∈ placed) := by
  obtain ⟨old, hold, rfl⟩ := List.mem_map.1 h
  by_cases same : old.line = line
  · rw [if_pos same]
    exact .inl ⟨same, rfl⟩
  · rw [if_neg same]
    exact .inr ⟨same, hold⟩

/-- A diagnostic of another line stays as it is when a line loses its highlight. -/
theorem mem_unlitAt_of_ne {line : Nat} {d : Diagnostic} (h : d ∈ placed) (other : d.line ≠ line) :
    d ∈ unlitAt line placed :=
  List.mem_map.2 ⟨d, h, if_neg other⟩

/-- Adding a dark diagnostic keeps the placed ones lit. -/
theorem light (h : Lit span? placed) {d : Diagnostic} (dark : d.span = none) :
    Lit span? (Diagnostic.light span? placed d) := by
  -- A dark diagnostic may be added where its line has no span or has a holder already.
  have added (held : ∀ span, span? d.line = some span →
      ∃ holder ∈ placed, holder.line = d.line ∧ holder.span = some span) :
      Lit span? (d :: placed) := by
    refine ⟨fun e he span hspan => ?_, fun e he span hspan => ?_⟩
    · rcases List.mem_cons.1 he with rfl | he
      · rw [dark] at hspan
        cases hspan
      · exact h.sound e he span hspan
    · obtain ⟨holder, hholder, facts⟩ : ∃ holder ∈ placed, holder.line = e.line ∧
          holder.span = some span := by
        rcases List.mem_cons.1 he with rfl | he
        · exact held span hspan
        · exact h.complete e he span hspan
      exact ⟨holder, List.mem_cons_of_mem _ hholder, facts⟩
  rw [Diagnostic.light]
  split
  · next error =>
      refine added fun span hspan => ?_
      obtain ⟨old, hold, facts⟩ := List.any_eq_true.1 error
      rw [Bool.and_eq_true, beq_iff_eq] at facts
      obtain ⟨holder, hholder, line, held⟩ := h.complete old hold span (by rw [facts.1, hspan])
      exact ⟨holder, hholder, line.trans facts.1, held⟩
  · split
    · next span hd =>
        refine ⟨fun e he span' hspan => ?_, fun e he span' hspan => ?_⟩
        · rcases List.mem_cons.1 he with rfl | he
          · exact hd.trans hspan
          · rcases mem_unlitAt he with ⟨-, none⟩ | ⟨-, old⟩
            · rw [none] at hspan
              cases hspan
            · exact h.sound e old span' hspan
        · by_cases same : e.line = d.line
          · refine ⟨{ d with span := some span }, List.mem_cons_self, same.symm, ?_⟩
            rw [same, hd] at hspan
            exact hspan
          · have old : e ∈ placed := by
              rcases List.mem_cons.1 he with rfl | he
              · exact absurd rfl same
              · rcases mem_unlitAt he with ⟨equal, -⟩ | ⟨-, old⟩
                · exact absurd equal same
                · exact old
            obtain ⟨holder, hholder, line, held⟩ := h.complete e old span' hspan
            exact ⟨holder, List.mem_cons_of_mem _
              (mem_unlitAt_of_ne hholder (by rw [line]; exact same)), line, held⟩
    · next none => exact added fun span hspan => by rw [none] at hspan; cases hspan

/-- Adding dark diagnostics one after the other keeps the placed ones lit. -/
theorem foldl {ds : List Diagnostic} (h : Lit span? placed) (dark : ∀ d ∈ ds, d.span = none) :
    Lit span? (ds.foldl (Diagnostic.light span?) placed) := by
  induction ds generalizing placed with
  | nil => exact h
  | cons d ds ih =>
      obtain ⟨first, rest⟩ := List.forall_mem_cons.1 dark
      exact ih (h.light first) rest

end Lit

/-- A reconciled set is lit by the spans of its text. -/
theorem lit_reconcile (text : Text) (fs : List Finding) : Lit text.span? (reconcile text fs) := by
  have dark : ∀ d ∈ (fs.map ofFinding).reverse, d.span = none := by
    intro d hd
    obtain ⟨f, -, rfl⟩ := List.mem_map.1 (List.mem_reverse.1 hd)
    rfl
  have nothing : Lit text.span? [] := ⟨by simp, by simp⟩
  have lit := nothing.foldl dark
  rw [reconcile_eq_light]
  exact ⟨fun d hd => lit.sound d (List.mem_reverse.1 hd), fun d hd span hspan => by
    simpa only [List.mem_reverse] using lit.complete d (List.mem_reverse.1 hd) span hspan⟩

/-- Every complaint has a diagnostic on its line. -/
theorem exists_mem_reconcile (text : Text) {fs : List Finding} {f : Finding} (hf : f ∈ fs) :
    ∃ d ∈ reconcile text fs, d.line = f.line := by
  have mem : ofFinding f ∈ (reconcile text fs).map unlit := by
    rw [map_unlit_reconcile, List.mem_reverse]
    exact List.mem_map_of_mem hf
  obtain ⟨d, hd, same⟩ := List.mem_map.1 mem
  exact ⟨d, hd, congrArg Diagnostic.line same⟩

/-- **What a set of diagnostics depends on.** Two sets are equal exactly when the complaints give
the same lines, messages and severities, and the spans of these lines are the same in both
texts. -/
theorem reconcile_eq_reconcile_iff {text text' : Text} {fs fs' : List Finding} :
    reconcile text fs = reconcile text' fs' ↔
      fs.map ofFinding = fs'.map ofFinding ∧
        ∀ f ∈ fs, text.span? f.line = text'.span? f.line := by
  constructor
  · intro same
    refine ⟨?_, fun f hf => ?_⟩
    · have dark := congrArg (List.map unlit) same
      rw [map_unlit_reconcile, map_unlit_reconcile, List.reverse_inj] at dark
      exact dark
    · obtain ⟨d, hd, line⟩ := exists_mem_reconcile text hf
      have lit := lit_reconcile text fs
      have lit' := lit_reconcile text' fs'
      rw [← same] at lit'
      refine Option.ext fun span => ?_
      rw [← line]
      constructor
      · intro found
        obtain ⟨holder, mem, at_, held⟩ := lit.complete d hd span found
        rw [← at_]
        exact lit'.sound holder mem span held
      · intro found
        obtain ⟨holder, mem, at_, held⟩ := lit'.complete d hd span found
        rw [← at_]
        exact lit.sound holder mem span held
  · rintro ⟨same, spans⟩
    rw [reconcile_eq_light, reconcile_eq_light, ← same]
    refine congrArg List.reverse (foldl_light_congr (fun d hd => ?_) [])
    obtain ⟨f, hf, rfl⟩ := List.mem_map.1 (List.mem_reverse.1 hd)
    exact spans f hf

end Diagnostic

end SyntaxWatch
