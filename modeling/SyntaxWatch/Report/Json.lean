import SyntaxWatch.Json.Basic
import SyntaxWatch.Report.Human

/-!
# Reports for programs

A report on one resource as one line of JSON, with the diagnostics in the order in which they were
found.

## Main definitions

* `Diagnostic.toJson`: the object for one diagnostic.
* `Report.json`: the whole report.
-/

namespace SyntaxWatch

/-- The object for a span. -/
def Span.toJson (span : Span) : Json :=
  .object [("start".toList, .number span.start), ("end".toList, .number span.stop)]

/-- The object for a diagnostic. A diagnostic without a highlight has null for its range. -/
def Diagnostic.toJson (d : Diagnostic) : Json :=
  .object [
    ("line".toList, .number d.line),
    ("message".toList, .string d.message),
    ("severity".toList, .string d.severity.name),
    ("range".toList, (d.span.map Span.toJson).getD .null)]

namespace Report

/-- The object for a report. -/
def toJson (resource : Text) (set : List Diagnostic) : Json :=
  .object [
    ("resource".toList, .string resource),
    ("diagnostics".toList, .array (set.map Diagnostic.toJson))]

/-- The report on a resource: one object on one line. -/
def json (resource : Text) (set : List Diagnostic) : Text :=
  (toJson resource set).print ++ ['\n']

/-- The form of a report. -/
inductive Format where
  | human
  | json
  deriving DecidableEq, Repr

/-- The report on a resource in a form. -/
def render : Format → Text → List Diagnostic → Text
  | .human => human
  | .json => json

end Report

end SyntaxWatch
