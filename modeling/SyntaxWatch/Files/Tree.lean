import SyntaxWatch.Files.Fault
import SyntaxWatch.Files.Path
import SyntaxWatch.Text.Utf8

/-!
# Trees of files

Files and directories by their place, and what a path leads to. Unlike operations on the text of a
path, finding a file looks at the tree: every name but the last has to lead to a directory, `..`
leads to the directory above, and a path with a slash at its end leads to no plain file. Names and
paths have a greatest length. There are no symbolic links in a tree: what such a link would lead to
is not looked for anywhere else.

## Main definitions

* `Tree`: the files and directories.
* `Tree.find?`: what is at a place.
* `Tree.place`: the place to which a path leads, or why it leads nowhere.
* `Tree.isFile`, `Tree.bytes?`, `Tree.text?`: what a path leads to.
-/

namespace SyntaxWatch

/-- What is at a place. -/
inductive Node where
  /-- A plain file with its content. -/
  | file (bytes : List UInt8)
  /-- Something that reads as a file without content, but is no plain file. -/
  | sink
  | directory
  deriving DecidableEq, Repr

/-- A place in a tree: the names on the way from the root. -/
abbrev Place := List Text

/-- The path of a place. -/
def Place.path (place : Place) : Text :=
  if place.isEmpty then ['/'] else place.flatMap fun name => '/' :: name

/-- Files and directories by their place. A directory that holds something need not be listed. -/
structure Tree where
  nodes : List (Place × Node) := []
  deriving DecidableEq, Repr

namespace Tree

/-- What is at a place. -/
def find? (t : Tree) (place : Place) : Option Node :=
  match t.nodes.find? (·.1 == place) with
  | some (_, node) => some node
  | none =>
    if place = [] ∨ t.nodes.any (fun (other, _) => place.isPrefixOf other) then some .directory
    else none

/-- The place that a name leads to from a directory. -/
def enter (place : Place) (name : Text) : Place :=
  if name = [] ∨ name = ['.'] then place
  else if name = ['.', '.'] then place.dropLast
  else place ++ [name]

/-- The greatest number of bytes in a name. -/
def longestName : Nat := 255

/-- The greatest number of bytes in a path. -/
def longestPath : Nat := 4095

/-- The place that a name leads to from a place, which has to be a directory. -/
def walk (t : Tree) (place : Place) (name : Text) : Except SystemFault Place :=
  match t.find? place with
  | none => .error .notFound
  | some .directory =>
    if longestName < Text.bytes name then .error .nameTooLong else .ok (enter place name)
  | some _ => .error .notDirectory

/-- The place to which a path leads from a working directory. The empty path leads nowhere. There
need not be anything at the place. -/
def place (t : Tree) (working : Place) (path : Text) : Except SystemFault Place :=
  if path = [] then .error .notFound
  else if longestPath < Text.bytes path then .error .nameTooLong
  else (path.splitOn '/').foldlM t.walk (if Path.isAbsolute path then [] else working)

/-- What a path leads to from a working directory. -/
def resolve? (t : Tree) (working : Place) (path : Text) : Option Node :=
  (t.place working path).toOption.bind t.find?

/-- Whether a path leads to a plain file. -/
def isFile (t : Tree) (working : Place) (path : Text) : Bool :=
  match t.resolve? working path with
  | some (.file _) => true
  | _ => false

/-- The content of what a path leads to, unless that is a directory. -/
def bytes? (t : Tree) (working : Place) (path : Text) : Option (List UInt8) :=
  match t.resolve? working path with
  | some (.file bytes) => some bytes
  | some .sink => some []
  | _ => none

/-- The text of the file that a path leads to. A file whose bytes are no text has none. -/
def text? (t : Tree) (working : Place) (path : Text) : Option Text :=
  (t.bytes? working path).bind Utf8.decode?

/-- A tree with one more node. A node that was there before is replaced. -/
def insert (t : Tree) (place : Place) (node : Node) : Tree where
  nodes := (place, node) :: t.nodes.filter (·.1 != place)

@[simp] theorem find?_insert_self (t : Tree) (place : Place) (node : Node) :
    (t.insert place node).find? place = some node := by
  simp [find?, insert]

end Tree

end SyntaxWatch
