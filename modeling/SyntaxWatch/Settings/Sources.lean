import SyntaxWatch.Settings.Basic

/-!
# Sources of settings

Settings come from the command line, from a settings file of the user and from one of the project,
which wins over the one of the user. A file that is named has to be readable and to hold known keys
only.

## Main definitions

* `SettingsFault`: why there are no settings.
* `Layer.load`: what a file says.
* `Settings.ofSources`: the settings of a command line and up to two files.
-/

namespace SyntaxWatch

/-- Why a settings file cannot be used. -/
inductive SettingsFault where
  /-- There is no such file, or its bytes are no text. -/
  | unreadable (path : Text)
  /-- The text of the file spells no settings. -/
  | malformed (path : Text)
  deriving DecidableEq, Repr

/-- The wording of a fault. -/
def SettingsFault.message : SettingsFault → Text
  | .unreadable path => "Failed to read config file: ".toList ++ path
  | .malformed path => "Failed to parse config file: ".toList ++ path

/-- What a settings file says, given how the texts of files are read. -/
def Layer.load (read? : Text → Option Text) (path : Text) : Except SettingsFault Layer :=
  match read? path with
  | none => .error (.unreadable path)
  | some text =>
    match Layer.ofToml? text with
    | none => .error (.malformed path)
    | some layer => .ok layer

/-- What a settings file says that need not be named. A file that is not named says nothing. -/
def Layer.loadNamed (read? : Text → Option Text) (path : Option Text) :
    Except SettingsFault Layer :=
  match path with
  | none => .ok {}
  | some path => Layer.load read? path

/-- The settings of a command line, of the user's file and of the project's file. The user's file is
read first. -/
def Settings.ofSources (read? : Text → Option Text) (o : Options) (user project : Option Text) :
    Except SettingsFault Settings := do
  let lower ← Layer.loadNamed read? user
  let higher ← Layer.loadNamed read? project
  return Settings.resolve o (higher.above lower) project

end SyntaxWatch
