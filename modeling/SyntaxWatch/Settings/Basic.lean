import SyntaxWatch.Process.Command
import SyntaxWatch.Settings.Arguments
import SyntaxWatch.Settings.Layer
import SyntaxWatch.Watcher

/-!
# Settings

What the program works with, once the command line and the settings files are taken together. The
command line wins over the files, and what nobody says has a default.

Two keys differ from the rest. The flags of the command line replace those of the files only when
there are any, and a switch cannot say that there shall be no warnings.

## Main definitions

* `Settings`: what the program works with.
* `Settings.resolve`: the settings of a command line and a file.
* `Settings.command`, `Settings.watcher`: what is set up with them.
-/

namespace SyntaxWatch

/-- What the program works with. Times are in milliseconds; `cap` is the number of output lines that
count, and `project` is the settings file of the project, where there is one. -/
structure Settings where
  interpreter : Text := "perl".toList
  flags : List Text := []
  interval : Nat := 2000
  grace : Nat := 400
  cap : Nat := 10
  warnings : Bool := false
  limit : Option Nat := none
  logLevel : Text := Options.defaultLogLevel
  project : Option Text := none
  deriving DecidableEq, Repr

namespace Settings

/-- The settings when nobody says anything. -/
def default : Settings := {}

/-- The settings of a command line and of the files taken together. -/
def resolve (o : Options) (file : Layer) (project : Option Text) : Settings where
  interpreter := (o.interpreter <|> file.interpreter).getD default.interpreter
  flags := if o.flags = [] then file.flags.getD default.flags else o.flags
  interval := (o.interval <|> file.interval).getD default.interval
  grace := (o.grace <|> file.grace).getD default.grace
  cap := (o.cap <|> file.cap).getD default.cap
  warnings := o.warnings || file.warnings.getD default.warnings
  limit := o.limit <|> file.limit
  logLevel := o.logLevel.getD default.logLevel
  project := project

/-- The command that checks texts. -/
def command (s : Settings) : Command where
  program := s.interpreter
  flags := s.flags
  warnings := s.warnings
  limit := s.limit
  grace := s.grace

/-- A watcher that has not been started. -/
def watcher (s : Settings) : Watcher where
  interval := s.interval
  cap := s.cap

end Settings

end SyntaxWatch
