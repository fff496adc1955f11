import Mathlib.Data.List.Forall2
import SyntaxWatch.Proofs.Json.Written
import SyntaxWatch.Report.Json

/-!
# Reports for programs, read back

A report for programs is one line with a JSON value on it, and this value says all that was to be
reported, in fields of fixed names (`Report.SaidBy`). It is said by no other diagnostics, so the
report can be read back, and no two reports are written alike.

## Main definitions

* `Diagnostic.SaidBy`, `Report.SaidBy`: what the fields of a value say.
* `Report.RoundTrip`: what is written of a report, and what is read of it.

## Main results

* `Report.roundTrip`: every report is read back.
-/

namespace SyntaxWatch

open Json

/-! ### Diagnostics -/

/-- A value says what a diagnostic is. -/
structure Diagnostic.SaidBy (d : Diagnostic) (value : Json) : Prop where
  line : value.field? "line" = some (number d.line)
  message : value.field? "message" = some (string d.message)
  severity : value.field? "severity" =
    some (string (if d.severity = .error then "error".toList else "warning".toList))
  /-- The range is null when nothing is highlighted. -/
  dark : d.span = none → value.field? "range" = some null
  lit : ∀ span, d.span = some span → value.field? "range" =
    some (object [("start".toList, number span.start), ("end".toList, number span.stop)])

namespace Diagnostic

variable {value : Json} {d d' : Diagnostic}

/-- What is written of a diagnostic says what the diagnostic is. -/
theorem saidBy_toJson (d : Diagnostic) : d.SaidBy d.toJson where
  line := rfl
  message := rfl
  severity := by
    rw [toJson]
    cases d.severity <;> rfl
  dark none := by
    rw [toJson, none]
    rfl
  lit span some := by
    rw [toJson, some]
    rfl

/-- A value says one span, or that there is none. -/
theorem SaidBy.span_eq (said : d.SaidBy value) (said' : d'.SaidBy value) : d.span = d'.span := by
  cases h : d.span with
  | none =>
      cases h' : d'.span with
      | none => rfl
      | some span' =>
          have clash := (said.dark h).symm.trans (said'.lit span' h')
          simp at clash
  | some span =>
      cases h' : d'.span with
      | none =>
          have clash := (said'.dark h').symm.trans (said.lit span h)
          simp at clash
      | some span' =>
          have same := (said.lit span h).symm.trans (said'.lit span' h')
          simp only [Option.some.injEq, object.injEq, List.cons.injEq, Prod.mk.injEq, number.injEq,
            Int.natCast_inj, true_and, and_true] at same
          cases span
          cases span'
          simpa using same

/-- The names of the severities differ. -/
theorem severity_eq_of_names {a b : Severity}
    (same : (if a = .error then "error".toList else "warning".toList) =
      if b = .error then "error".toList else "warning".toList) : a = b := by
  cases a <;> cases b <;> first | rfl | (revert same; decide)

/-- A value says one diagnostic. -/
theorem SaidBy.unique (said : d.SaidBy value) (said' : d'.SaidBy value) : d = d' := by
  have line : d.line = d'.line := by
    have same := said.line.symm.trans said'.line
    rw [Option.some.injEq, number.injEq] at same
    exact Int.ofNat.inj same
  have message : d.message = d'.message := by simpa using said.message.symm.trans said'.message
  have severity : d.severity = d'.severity := by
    have same := said.severity.symm.trans said'.severity
    rw [Option.some.injEq, string.injEq] at same
    exact severity_eq_of_names same
  have span := said.span_eq said'
  cases d
  cases d'
  simp only at line message severity span
  subst line message severity span
  rfl

end Diagnostic

/-! ### Reports -/

namespace Report

variable {resource resource' : Text} {set set' : List Diagnostic} {value : Json}

/-- A value says what the report on a resource is. -/
structure SaidBy (resource : Text) (set : List Diagnostic) (value : Json) : Prop where
  resource : value.field? "resource" = some (string resource)
  diagnostics : ∃ items, value.field? "diagnostics" = some (array items) ∧
    List.Forall₂ Diagnostic.SaidBy set items

/-- What is written of a report, and what is read of it. -/
structure RoundTrip (resource : Text) (set : List Diagnostic) : Prop where
  /-- The report is one line. -/
  line : ∃ line, json resource set = line ++ ['\n'] ∧ '\n' ∉ line
  /-- It is read as a value that says what it is. -/
  read : ∃ value, read? (json resource set) = some value ∧ SaidBy resource set value
  /-- What is read says nothing else. -/
  unambiguous : ∀ value resource' set', read? (json resource set) = some value →
    SaidBy resource' set' value → resource' = resource ∧ set' = set
  /-- No other report is written alike. -/
  injective : ∀ resource' set', json resource' set' = json resource set →
    resource' = resource ∧ set' = set

/-- What is written of a report says what the report is. -/
theorem saidBy_toJson (resource : Text) (set : List Diagnostic) :
    SaidBy resource set (toJson resource set) where
  resource := rfl
  diagnostics := by
    refine ⟨set.map Diagnostic.toJson, rfl, List.forall₂_map_right_iff.2 ?_⟩
    exact List.forall₂_same.2 fun d _ => d.saidBy_toJson

/-- A value says one report. -/
theorem SaidBy.unique (said : SaidBy resource set value) (said' : SaidBy resource' set' value) :
    resource = resource' ∧ set = set' := by
  obtain ⟨items, found, each⟩ := said.diagnostics
  obtain ⟨items', found', each'⟩ := said'.diagnostics
  have same := found.symm.trans found'
  rw [Option.some.injEq, array.injEq] at same
  subst same
  refine ⟨by simpa using said.resource.symm.trans said'.resource, ?_⟩
  have functional : Relator.RightUnique (flip Diagnostic.SaidBy) :=
    fun _ _ _ said said' => Diagnostic.SaidBy.unique said said'
  exact List.right_unique_forall₂' functional each.flip each'.flip

/-- A report is read back as the value that was written. -/
theorem read?_json (resource : Text) (set : List Diagnostic) :
    read? (json resource set) = some (toJson resource set) :=
  read?_print _ fun c mem => by rw [List.mem_singleton.1 mem]; rfl

/-- **Reports for programs are read back.** The report is one line, and the value on it says the
resource and all its diagnostics, and nothing else. -/
theorem roundTrip (resource : Text) (set : List Diagnostic) : RoundTrip resource set where
  line := ⟨_, rfl, newline_notMem_print _⟩
  read := ⟨_, read?_json resource set, saidBy_toJson resource set⟩
  unambiguous value resource' set' found said := by
    rw [read?_json, Option.some.injEq] at found
    exact said.unique (found ▸ saidBy_toJson resource set)
  injective resource' set' same := by
    have values : some (toJson resource' set') = some (toJson resource set) := by
      rw [← read?_json, ← read?_json, same]
    rw [Option.some.injEq] at values
    exact (saidBy_toJson resource' set').unique (values ▸ saidBy_toJson resource set)

end Report

end SyntaxWatch
