import SyntaxWatch.Process.Script
import SyntaxWatch.Program.Console

/-!
# The command line

The console program at work on the files of the machine. The interpreter is not started from here:
what it wrote about the file is read from standard input, so that
`perl -c FILE 2>&1 | perl-syntax-validator FILE` prints the report on `FILE`.
-/

namespace SyntaxWatch.Main

/-- The place of an absolute path. -/
def place (path : Text) : Place :=
  (path.splitOn '/').foldl Tree.enter []

/-- Adds a file of the machine to a tree, if there is one at the path. -/
def load (working : Text) (tree : Tree) (path : Text) : IO Tree := do
  try
    let bytes ← IO.FS.readBinFile (String.ofList (Path.join working path))
    return tree.insert (place (Path.join working path)) (.file bytes.toList)
  catch _ =>
    return tree

/-- The machine, as far as a command line may look at it. -/
def surroundings (arguments : List Text) : IO Surroundings := do
  let working := (← IO.currentDir).toString.toList
  let bare : Surroundings := {
    tree := ({} : Tree).insert (place working) .directory
    working := place working
    home := ((← IO.getEnv "HOME").getD "").toList
    settingsHome := (← IO.getEnv "XDG_CONFIG_HOME").map String.toList }
  let named := match Arguments.parse .console arguments with
    | .ok read => read.file.toList ++ read.options.config.toList
    | .error _ => []
  let found := (Path.ancestors working).map (Path.join · Surroundings.projectName)
  let tree ← (bare.userPath :: found ++ named).foldlM (load working) bare.tree
  return { bare with tree }

/-- A host whose only checker has written some bytes about a file. -/
def host (file : Text) (bytes : List UInt8) : Host where
  scratch := { location := "/tmp".toList }
  programs := fun _ => .studied
  checker := Script.checker {
    stderr := Search.replace (Utf8.encode file) (Utf8.encode Script.placeholder) bytes }

/-- Everything that can be read from a stream. -/
partial def readAll (stream : IO.FS.Stream) (before : List UInt8) : IO (List UInt8) := do
  let chunk ← stream.read 65536
  if chunk.isEmpty then return before else readAll stream (before ++ chunk.toList)

/-- Prints what a program has to say, and gives its exit status. -/
def finish (ending : Ending) : IO UInt32 := do
  IO.print (String.ofList ending.output)
  match ending.complaint with
  | some complaint => IO.eprintln (String.ofList complaint)
  | none => pure ()
  return UInt32.ofNat ending.status

end SyntaxWatch.Main

/-- Checks a file, given what the interpreter wrote about it. -/
def main (arguments : List String) : IO UInt32 := do
  let arguments := arguments.map String.toList
  let surroundings ← SyntaxWatch.Main.surroundings arguments
  match SyntaxWatch.Task.ofArguments surroundings arguments with
  | .error ending => SyntaxWatch.Main.finish ending
  | .ok task =>
    let bytes ← SyntaxWatch.Main.readAll (← IO.getStdin) []
    let host := SyntaxWatch.Main.host task.file bytes
    SyntaxWatch.Main.finish (surroundings.console host arguments).2
