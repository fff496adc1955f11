import SyntaxWatch.Server.Capabilities
import SyntaxWatch.Server.Change
import SyntaxWatch.Server.Services

/-!
# Methods

The methods that an editor may call, by their names. Some drive the session, some report changes of
documents, some are heard without effect, and some ask for services that the server does not offer.
The last still check the shape of their parameters.

## Main definitions

* `Method`: the methods.
* `Method.ofName?`: the method with a name.
-/

namespace SyntaxWatch

/-- A method that an editor may call. -/
inductive Method where
  | setUp
  | shutDown
  | exit
  /-- The editor is ready. -/
  | ready
  /-- The editor reports a change of a document. -/
  | change (kind : ChangeKind)
  /-- A notification that has no effect. -/
  | heard
  /-- The editor no longer waits for a response. No call is ever left waiting, so this has no
  effect, but it has its place before a session is set up and after it is shut down. -/
  | cancel
  /-- A service that is not offered, with the shape of its parameters. -/
  | service (params : Shape)

namespace Method

/-- The methods that drive a session or report changes. -/
def served : List (String × Method) := [
  ("initialize", .setUp),
  ("shutdown", .shutDown),
  ("exit", .exit),
  ("initialized", .ready),
  ("textDocument/didOpen", .change .opening),
  ("textDocument/didChange", .change .editing),
  ("textDocument/didSave", .change .saving),
  ("textDocument/didClose", .change .closing),
  ("$/cancelRequest", .cancel)]

/-- The notifications that have no effect. -/
def heardNames : List String := [
  "textDocument/willSave",
  "workspace/didChangeWorkspaceFolders",
  "workspace/didChangeConfiguration",
  "workspace/didChangeWatchedFiles",
  "workspace/didCreateFiles",
  "workspace/didRenameFiles",
  "workspace/didDeleteFiles"]

/-- All methods with their names. -/
def all : List (String × Method) :=
  served ++ heardNames.map (fun name => (name, .heard)) ++
    Service.all.map fun s => (s.method, .service s.params)

/-- The method with a name. -/
def ofName? (name : Text) : Option Method :=
  (all.find? fun (known, _) => known.toList == name).map (·.2)

/-- Whether a method whose name is not known may be passed by in silence. -/
def isOptional (name : Text) : Bool :=
  name.take 2 == "$/".toList

/-- The shape of what an editor says when it is ready. -/
def readiness : Shape := .record "InitializedParams" []

end Method

end SyntaxWatch
