import SyntaxWatch.Duration
import SyntaxWatch.Files.Fault

/-!
# Faults of a run

Why a run of the checker yields no transcript, and how each cause is worded.

## Main definitions

* `CheckFault`: the causes, one for each stage of a run.
* `CheckFault.message`: their wording.
-/

namespace SyntaxWatch

/-- Why a run of the checker yields no transcript. -/
inductive CheckFault where
  /-- The input could not be written to a file. -/
  | input (path : Text) (cause : SystemFault)
  /-- The checker could not be started. -/
  | start (program : Text) (cause : SystemFault)
  /-- The error stream broke off. -/
  | stream (cause : SystemFault)
  /-- The checker did not end within its time. -/
  | overdue (limit : Nat)
  deriving DecidableEq, Repr

/-- The wording of a fault. -/
def CheckFault.message : CheckFault → Text
  | .input path cause =>
    "failed to write transient input: ".toList ++ cause.message ++ " at path \"".toList ++ path ++
      ['"']
  | .start program cause =>
    "failed to spawn checker '".toList ++ program ++ "': ".toList ++ cause.message
  | .stream cause => "failed to read checker output: ".toList ++ cause.message
  | .overdue limit => "checker did not finish within ".toList ++ Duration.print limit

end SyntaxWatch
