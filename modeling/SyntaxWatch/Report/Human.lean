import SyntaxWatch.Diagnostic
import SyntaxWatch.Text.Decimal

/-!
# Reports for readers

A report on one resource with a line for each diagnostic, in the order of the source lines.
Diagnostics of one source line keep their order.

## Main definitions

* `Diagnostic.report`: the line for one diagnostic, without its newline.
* `Report.human`: the whole report.
-/

namespace SyntaxWatch

/-- The name of a severity in a report. -/
def Severity.name : Severity → Text
  | .error => "error".toList
  | .warning => "warning".toList

/-- The line for one diagnostic: resource, line, severity and message. -/
def Diagnostic.report (resource : Text) (d : Diagnostic) : Text :=
  resource ++ ':' :: Decimal.print d.line ++ ": ".toList ++ d.severity.name ++ ": ".toList ++
    d.message

namespace Report

/-- Diagnostics in the order of their source lines. Those of one line keep their order. -/
def byLine (set : List Diagnostic) : List Diagnostic :=
  set.mergeSort fun first second => first.line ≤ second.line

/-- The report on a resource: one line for each diagnostic, or one that says that all is well. -/
def human (resource : Text) (set : List Diagnostic) : Text :=
  if set.isEmpty then
    resource ++ ": syntax OK\n".toList
  else
    (byLine set).flatMap fun d => d.report resource ++ ['\n']

end Report

end SyntaxWatch
