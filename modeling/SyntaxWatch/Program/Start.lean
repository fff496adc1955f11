import SyntaxWatch.Release
import SyntaxWatch.Settings.Discovery

/-!
# Starting a program

What the two programs do before their work begins: they read their command line and their settings.
Either may put an end to the program.

## Main definitions

* `Ending`: how a program ends.
* `ArgumentFault.ending`, `Ending.failure`: the ends before the work begins.
* `Surroundings.start`: the arguments and the settings of a program.
-/

namespace SyntaxWatch

/-- How a program ends: its exit status, what it printed, and its complaint, if it has one. -/
structure Ending where
  status : Nat
  output : Text := []
  complaint : Option Text := none
  deriving DecidableEq, Repr

namespace Ending

/-- The end of a program that could not do its work. -/
def failure (cause : Text) : Ending where
  status := 1
  complaint := some ("Error: ".toList ++ cause)

end Ending

/-- What a program says about its use. -/
def usage (name : Text) (g : Grammar) : Text :=
  let file := if g.takesFile then " <FILE>".toList else []
  "Usage: ".toList ++ name ++ " [OPTIONS]".toList ++ file ++ ['\n']

/-- The end that a command line brings about. Asking for help or for the version is no fault. -/
def ArgumentFault.ending (name : Text) (g : Grammar) : ArgumentFault → Ending
  | .help => { status := 0, output := usage name g }
  | .version => { status := 0, output := Release.line name }
  | _ => { status := 2, complaint := some (usage name g) }

/-- The arguments and the settings of a program. -/
def Surroundings.start (s : Surroundings) (name : Text) (g : Grammar) (arguments : List Text) :
    Except Ending (Arguments × Settings) :=
  match Arguments.parse g arguments with
  | .error fault => .error (fault.ending name g)
  | .ok read =>
    match s.settings read.options with
    | .error fault => .error (.failure fault.message)
    | .ok settings => .ok (read, settings)

end SyntaxWatch
