import SyntaxWatch.Files.Tree
import SyntaxWatch.Process.Host

/-!
# Program directories

Which names of programs can be started on a host. A name with a slash is a path; one without is
looked up in several directories, one after the other. What is no program cannot be started: plain
files and directories are denied, and that is also told of a name without a slash that leads to
nothing else.

## Main definitions

* `ProgramTable`: the files and programs of a host.
* `ProgramTable.find`: what the name of a program leads to.
-/

namespace SyntaxWatch

/-- The files and programs of a host, as far as names of programs may lead to them, the working
directory, and the directories in which names without a slash are looked up. -/
structure ProgramTable where
  tree : Tree
  programs : List (Place × Program)
  working : Place := []
  searched : List Place

namespace ProgramTable

/-- What a path leads to. -/
def findPath (t : ProgramTable) (path : Text) : Program :=
  match t.tree.place t.working path with
  | .error cause => .refused cause
  | .ok place =>
    match t.programs.find? (·.1 == place) with
    | some (_, program) => program
    | none => .refused (if (t.tree.find? place).isSome then .denied else .notFound)

/-- Whether what a name leads to can be started. -/
def canStart : Program → Bool
  | .refused _ => false
  | _ => true

/-- What a name without a slash leads to. -/
def lookUp (t : ProgramTable) (name : Text) : Program :=
  let found := t.searched.map fun place => t.findPath (place.path ++ '/' :: name)
  match found.find? canStart with
  | some program => program
  | none => .refused (if found.contains (.refused .denied) then .denied else .notFound)

/-- What the name of a program leads to. -/
def find (t : ProgramTable) (name : Text) : Program :=
  if name.contains '/' then t.findPath name
  else if name = [] then .refused .notFound
  else if Tree.longestName < Text.bytes name then .refused .nameTooLong
  else t.lookUp name

end ProgramTable

end SyntaxWatch
