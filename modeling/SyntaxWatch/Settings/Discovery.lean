import SyntaxWatch.Files.Tree
import SyntaxWatch.Settings.Sources

/-!
# Finding the settings files

The settings file of a project is the nearest one on the way up from the working directory, unless
the command line names a file. The way up is read off the text of the path, and something of the
right name that is no plain file is passed over. The settings file of the user has a fixed place
below the directory for such files, and it need not be there.

## Main definitions

* `Surroundings`: where a program runs.
* `Surroundings.projectFile?`: the nearest settings file.
* `Surroundings.userPath`: the place of the user's settings file.
* `Surroundings.settings`: the settings of a command line.
-/

namespace SyntaxWatch

/-- Where a program runs: the files, the working directory, the user's home, and the directory for
settings files, where one is named. -/
structure Surroundings where
  tree : Tree
  working : Place := []
  home : Text := []
  settingsHome : Option Text := none
  deriving DecidableEq, Repr

namespace Surroundings

/-- The name of a project's settings file. -/
def projectName : Text := ".perl-syntax.toml".toList

/-- The home of a user who names none. -/
def fallbackHome : Text := "/root".toList

/-- Whether a path leads to a file. -/
def isFile (s : Surroundings) (path : Text) : Bool :=
  s.tree.isFile s.working path

/-- The text of a file. -/
def read? (s : Surroundings) (path : Text) : Option Text :=
  s.tree.text? s.working path

/-- The nearest settings file of a project on the way up from a path. -/
def projectFile? (s : Surroundings) (start : Text) : Option Text :=
  ((Path.ancestors start).map (Path.join · projectName)).find? s.isFile

/-- The directory for settings files: the one that is named by an absolute path, or one in the
user's home. -/
def settingsDirectory (s : Surroundings) : Text :=
  match s.settingsHome.filter Path.isAbsolute with
  | some directory => directory
  | none => Path.join (if s.home = [] then fallbackHome else s.home) ".config".toList

/-- The place of the user's settings file. -/
def userPath (s : Surroundings) : Text :=
  Path.join (Path.join s.settingsDirectory "perl-syntax-validator".toList) "config.toml".toList

/-- The settings file of the project: the one that the command line names, or the nearest one. -/
def projectPath? (s : Surroundings) (o : Options) : Option Text :=
  match o.config with
  | some path => some path
  | none => s.projectFile? s.working.path

/-- The settings of a command line. -/
def settings (s : Surroundings) (o : Options) : Except SettingsFault Settings :=
  let user := if s.isFile s.userPath then some s.userPath else none
  Settings.ofSources s.read? o user (s.projectPath? o)

end Surroundings

end SyntaxWatch
