import SyntaxWatch.Bench
import SyntaxWatch.Program.Start
import SyntaxWatch.Report.Json

/-!
# The console program

Checks one file and prints a report on it, once or each time that the file has changed. The exit
status tells whether the file has errors.

## Main definitions

* `Task`: what a command line asks for.
* `Task.check`: a single check.
* `Task.watch`, `Task.printed`: the watcher of a file, and what is printed for what it does.
* `Surroundings.console`: the whole program, for a single check.
-/

namespace SyntaxWatch

/-- What a command line asks for. -/
structure Task where
  file : Text
  format : Report.Format
  watches : Bool
  settings : Settings
  deriving DecidableEq, Repr

namespace Task

/-- The task of a command line. -/
def ofArguments (s : Surroundings) (arguments : List Text) : Except Ending Task := do
  let (read, settings) ← s.start Release.consoleName .console arguments
  return {
    file := read.file.getD []
    format := if read.json then .json else .human
    watches := read.watch
    settings }

/-- The text of the file. -/
def source (t : Task) (s : Surroundings) : Except Ending Text :=
  match s.read? t.file with
  | some text => .ok text
  | none => .error (.failure ("Failed to read ".toList ++ t.file))

/-- The end of a check that found a set of diagnostics. -/
def report (t : Task) (set : List Diagnostic) : Ending where
  status := if Diagnostic.hasErrors set then 1 else 0
  output := Report.render t.format t.file set

/-- A single check of a text. -/
def check (t : Task) (h : Host) (text : Text) : Host × Ending :=
  match Inspector.once t.settings.command h text t.settings.cap with
  | (h', .ok set) => (h', t.report set)
  | (h', .error _) => (h', .failure ("Failed to check ".toList ++ t.file))

/-- The watcher of the file, with a text staged and not yet started. -/
def watch (t : Task) (h : Host) (text : Text) : Bench where
  host := h
  command := t.settings.command
  grace := t.settings.grace
  watcher := t.settings.watcher.stage text

/-- What is printed for what the watcher does. -/
def printed (t : Task) (events : List Event) : List Text :=
  events.filterMap fun event => event.set?.map (Report.render t.format t.file)

end Task

/-- A single run of the program. -/
def Surroundings.console (s : Surroundings) (h : Host) (arguments : List Text) : Host × Ending :=
  match Task.ofArguments s arguments with
  | .error ending => (h, ending)
  | .ok task =>
    match task.source s with
    | .error ending => (h, ending)
    | .ok text => task.check h text

end SyntaxWatch
