import SyntaxWatch.Program.Start
import SyntaxWatch.Server.Session

/-!
# The language server program

Reads its settings and then serves one session, message by message, until the editor ends it. Every
message carries the version of the protocol.

## Main definitions

* `Incoming`: the messages of the editor, and `Incoming.ofJson?`, which reads them.
* `Surroundings.serve`: the session with which the server begins.
* `Session.receive`: what a message of the editor brings about.
-/

namespace SyntaxWatch

/-- The version of the protocol in which calls are made. -/
def protocolVersion : Text := "2.0".toList

/-- A message with the version of the protocol. -/
def versioned : Json → Json
  | .object fields => .object (("jsonrpc".toList, .string protocolVersion) :: fields)
  | other => other

/-- A message of the editor. -/
inductive Incoming where
  | call (c : Call)
  /-- The answer to a question, of which the server asks none. -/
  | answer

namespace Incoming

/-- Whether a value may be the id of a call: a number of 64 bits with a sign, a text, or null. -/
def isId : Json → Bool
  | .number n => -9223372036854775808 ≤ n && n ≤ 9223372036854775807
  | .string _ => true
  | .null => true
  | _ => false

/-- The shape of a fault in an answer. -/
def answerFault : Shape := .record "Error" [
  ("code", .whole "i64" (-9223372036854775808) 9223372036854775807),
  ("message", .string),
  ("data", .optional .any)]

/-- Whether a value is a fault in an answer. It has no other fields. -/
def isAnswerFault (j : Json) : Bool :=
  let known := match j with
    | .object fields => fields.all fun (name, _) =>
        ["code", "message", "data"].any (·.toList == name)
    | _ => true
  known && (answerFault.decode j).toOption.isSome

/-- Whether a value is the version of the protocol. -/
def isVersion (j : Json) : Bool :=
  j.text? = some protocolVersion

/-- Whether a message is an answer, whatever else it says. -/
def isAnswer (j : Json) : Bool :=
  (j.field? "jsonrpc").any isVersion && (j.field? "id").any isId &&
    ((j.field? "result").isSome || (j.field? "error").any isAnswerFault)

/-- The members of a message, which an array may tell in their order. -/
def members? : Json → Option Json
  | .object members => some (.object members)
  | .array items =>
    if items.length ≤ 4 then
      some (.object ((["jsonrpc", "method", "params", "id"].map String.toList).zip items))
    else none
  | _ => none

/-- The call that a message makes. A call that names no method calls the one with the empty name. -/
def call? (j : Json) : Option Call := do
  let message ← members? j
  let method ← match message.field? "method" with
    | none => some []
    | some name => name.text?
  let id := message.field? "id"
  if (message.field? "jsonrpc").any isVersion && id.all isId then
    return { method, params := message.field? "params", id }
  else
    none

/-- What a message is, if it is any. -/
def ofJson? (j : Json) : Option Incoming :=
  if isAnswer j then some answer else (call? j).map call

end Incoming

/-- The session with which the server begins. The shuffle is not up to the server. -/
def Surroundings.serve (s : Surroundings) (h : Host) (shuffle : Shuffle) (arguments : List Text) :
    Except Ending Session := do
  let (_, settings) ← s.start Release.serverName .server arguments
  return { settings, host := h, shuffle }

namespace Session

/-- What is written to the editor for what happened and for a reply. -/
def written (log : List Occurrence) (reply : Reply) : List Json :=
  ((log.filterMap Occurrence.sent?).map fun m => versioned m.toJson) ++ match reply with
    | .response r => [versioned r.toJson]
    | _ => []

/-- What a message of the editor brings about, and what is written to the editor. What is no message
has no id that a response could name. -/
def receive (s : Session) (j : Json) : Session × List Json :=
  match Incoming.ofJson? j with
  | some (.call c) =>
    let (s', log, reply) := s.call c
    (s', written log reply)
  | some .answer => (s, [])
  | none =>
    if s.lifecycle = .exited then (s, [])
    else (s, written [] (.response { id := .null, result := .error .outOfPlace }))

end Session

end SyntaxWatch
