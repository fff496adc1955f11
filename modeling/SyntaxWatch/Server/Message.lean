import SyntaxWatch.Editor.Notice
import SyntaxWatch.Server.Shape

/-!
# Messages between editor and server

An editor calls methods by their name. A call with an id asks for a response, one without is a
notification. The server sends notifications of its own and responses, which are results or
faults.

## Main definitions

* `Call`: a call of the editor.
* `CallFault`: why a call yields no result, with its number and wording.
* `Call.fault?`: what is wrong with the parameters of a call.
* `Response`, `Sent`: what the server says, and its JSON form.
-/

namespace SyntaxWatch

/-- A call of the editor. Without an id it is a notification. Parameters and ids that are null are
there all the same. -/
structure Call where
  method : Text
  params : Option Json := none
  id : Option Json := none

/-- Why a call yields no result. -/
inductive CallFault where
  /-- The server has not been initialized. -/
  | notInitialized
  /-- The call has no place where the session stands. -/
  | outOfPlace
  /-- There is no such method. -/
  | unknown (method : Text)
  /-- The method is known, but the server does not offer it. -/
  | notOffered
  /-- The method needs parameters. -/
  | noParams
  /-- The method takes no parameters. -/
  | strayParams (params : Json)
  /-- The parameters do not have the shape that the method asks for. -/
  | misshapen (fault : ShapeFault)

namespace CallFault

/-- The number of a fault. -/
def code : CallFault → Int
  | notInitialized => -32002
  | outOfPlace => -32600
  | unknown _ => -32601
  | notOffered => -32601
  | noParams => -32602
  | strayParams _ => -32602
  | misshapen _ => -32602

/-- The wording of a fault. -/
def message : CallFault → Text
  | notInitialized => "Server not initialized".toList
  | outOfPlace => "Invalid request".toList
  | unknown _ => "Method not found".toList
  | notOffered => "Method not found".toList
  | noParams => "Missing params field".toList
  | strayParams params => "Unexpected params: ".toList ++ params.print
  | misshapen fault => fault.message

/-- What comes with a fault beside its wording: the name of an unknown method. -/
def data? : CallFault → Option Json
  | unknown method => some (.string method)
  | _ => none

/-- The object for a fault. -/
def toJson (e : CallFault) : Json :=
  .object ([("code".toList, .number e.code), ("message".toList, .string e.message)] ++
    (e.data?.map fun data => ("data".toList, data)).toList)

end CallFault

/-- What is wrong with the parameters of a call of a method that asks for a shape. -/
def Call.fault? (c : Call) (shape : Shape) : Option CallFault :=
  match c.params with
  | none => some .noParams
  | some params =>
    match shape.decode params with
    | .ok _ => none
    | .error fault => some (.misshapen fault)

/-- The response to a call. -/
structure Response where
  id : Json
  result : Except CallFault Json

/-- The object for a response. -/
def Response.toJson (r : Response) : Json :=
  .object [("id".toList, r.id), match r.result with
    | .ok value => ("result".toList, value)
    | .error e => ("error".toList, e.toJson)]

/-- A notification to the editor. -/
inductive Sent where
  /-- A message for the log of the editor. -/
  | log (message : Text)
  /-- All diagnostics of a document. Those that were sent before are gone. -/
  | diagnostics (uri : Uri) (notices : List Notice)

/-- The object for a position. -/
def Position.toJson (p : Position) : Json :=
  .object [("line".toList, .number p.line), ("character".toList, .number p.character)]

/-- The object for a notice. -/
def Notice.toJson (n : Notice) : Json :=
  .object [
    ("range".toList, .object [("start".toList, n.start.toJson), ("end".toList, n.stop.toJson)]),
    ("severity".toList, .number (match n.severity with | .error => 1 | .warning => 2)),
    ("source".toList, .string "perl -c".toList),
    ("message".toList, .string n.message)]

namespace Sent

/-- The name of a notification to the editor. -/
def method : Sent → Text
  | log _ => "window/logMessage".toList
  | diagnostics _ _ => "textDocument/publishDiagnostics".toList

/-- The parameters of a notification to the editor. The log takes messages for information as its
third kind. -/
def params : Sent → Json
  | log message => .object [("type".toList, .number 3), ("message".toList, .string message)]
  | diagnostics uri notices => .object [
      ("uri".toList, .string uri.text),
      ("diagnostics".toList, .array (notices.map Notice.toJson))]

/-- The object for a notification to the editor. -/
def toJson (m : Sent) : Json :=
  .object [("method".toList, .string m.method), ("params".toList, m.params)]

end Sent

end SyntaxWatch
