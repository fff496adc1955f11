import SyntaxWatch.Release
import SyntaxWatch.Server.Method
import SyntaxWatch.Settings.Basic
import SyntaxWatch.Table

/-!
# Sessions of the language server

A session keeps the texts of the documents that the editor reports, and has one watcher at work for
each document that is open. A watcher that is replaced or whose document is closed is told to stop,
and is waited for until it has ended, at most as long as the grace period lasts; it may stay behind,
held up by its checker, and what it finds is never shown. All watchers share one host.

When the session is shut down, the watchers of all open documents are stopped, one after the other.
They are kept in a table without an order, so they may come in any one.

Diagnostics go to the editor only for documents whose text is stored, and only once the session
has been set up.

## Main definitions

* `Shuffle`: an order in which the watchers of all documents are stopped.
* `Session`: the state of a session.
* `Session.change`: what a report of the editor does.
* `Session.call`: what a call of the editor does.
* `Session.step`: one step of the session and of the world around it.
-/

namespace SyntaxWatch

/-- How far a session is. -/
inductive Lifecycle where
  /-- It has not been set up. -/
  | fresh
  | running
  /-- It was asked to shut down. -/
  | shutDown
  /-- It has ended. -/
  | exited
  deriving DecidableEq, Repr

/-- A watcher with the document for which it was started. -/
structure Worker where
  uri : Uri
  watcher : Watcher

/-- What happens in a session: a watcher does something, or something is sent to the editor. -/
inductive Occurrence where
  | worker (number : Nat) (event : Event)
  | sent (message : Sent)

/-- What is sent to the editor in an occurrence. -/
def Occurrence.sent? : Occurrence → Option Sent
  | sent message => some message
  | _ => none

/-- What the editor gets for a call. -/
inductive Reply where
  | silent
  | response (response : Response)
  /-- The session has ended and takes no calls. -/
  | exited

/-- An order for watchers that are told by their numbers. It may be any one, but no watcher is left
out and none comes twice. -/
structure Shuffle where
  arrange : List Nat → List Nat
  perm : ∀ numbers, (arrange numbers).Perm numbers

/-- The order in which the watchers come anyway. -/
def Shuffle.kept : Shuffle where
  arrange := id
  perm := .refl

/-- The state of a session: the texts of the documents, every watcher that was ever started,
numbered from zero, and for each open document the number of its watcher. The shuffle is the order
that a shutdown will find the watchers of the open documents in. -/
structure Session where
  settings : Settings := {}
  host : Host
  shuffle : Shuffle
  lifecycle : Lifecycle := .fresh
  documents : Table Uri Text := {}
  workers : List Worker := []
  tracked : Table Uri Nat := {}

namespace Session

/-! ### Showing diagnostics -/

/-- Whether notifications reach the editor. -/
def reachesEditor (s : Session) : Bool :=
  s.lifecycle = .running || s.lifecycle = .shutDown

/-- Sends all diagnostics of a document. -/
def publish (s : Session) (uri : Uri) (notices : List Notice) : List Occurrence :=
  if s.reachesEditor then [.sent (.diagnostics uri notices)] else []

/-- Shows the diagnostics of a source under the name of a resource. The name has to be that of a
document whose text is stored. -/
def present (s : Session) (resource source : Text) (set : List Diagnostic) : List Occurrence :=
  match Uri.parse? resource with
  | none => []
  | some uri =>
    if (s.documents.get? uri).isSome then s.publish uri (Notice.ofDiagnostics source set) else []

/-- What comes of an event of a watcher. -/
def observe (s : Session) (number : Nat) (uri : Uri) (event : Event) : List Occurrence :=
  .worker number event :: match event with
    | .shown text set => s.present uri.text text set
    | _ => []

/-! ### Driving the watchers -/

/-- Changes the watcher with a number. -/
def modify (s : Session) (number : Nat) (f : Watcher → Watcher) : Session :=
  { s with workers := s.workers.modify number fun w => { w with watcher := f w.watcher } }

/-- Lets the watcher with a number do something on the host. -/
def drive (s : Session) (number : Nat) (f : Host → Watcher → Host × Watcher × List Event) :
    Session × List Occurrence :=
  match s.workers[number]? with
  | none => (s, [])
  | some worker =>
    let (host, watcher, events) := f s.host worker.watcher
    ({ s with host, workers := s.workers.set number { worker with watcher } },
      events.flatMap (s.observe number worker.uri))

/-- Lets the watchers with some numbers do something, one after the other. -/
def driveEach (s : Session) (f : Host → Watcher → Host × Watcher × List Event) :
    List Nat → Session × List Occurrence
  | [] => (s, [])
  | number :: rest =>
    let (s', log) := s.drive number f
    let (s'', more) := driveEach s' f rest
    (s'', log ++ more)

/-- Lets all watchers do something, the oldest one first. -/
def driveAll (s : Session) (f : Host → Watcher → Host × Watcher × List Event) :
    Session × List Occurrence :=
  s.driveEach f (List.range s.workers.length)

/-- Some time passes. -/
def elapse (s : Session) (ms : Nat) : Session × List Occurrence :=
  let later : Session := { s with host := s.host.elapse ms }
  later.driveAll (Watcher.wake s.settings.command)

/-- The gate of the host is opened or closed. -/
def setGate (s : Session) (closed : Bool) : Session × List Occurrence :=
  let gated : Session := { s with host := { s.host with gateClosed := closed } }
  gated.driveAll (Watcher.settle s.settings.command)

/-- The time for which a stop waits for the watcher with a number. -/
def patience (s : Session) (number : Nat) : Nat :=
  match s.workers[number]? with
  | some worker => worker.watcher.wait s.settings.command s.host s.settings.grace
  | none => 0

/-- Tells the watcher with a number to stop, and waits for it. -/
def stop (s : Session) (number : Nat) : Session × List Occurrence :=
  let halted := s.modify number Watcher.halt
  if (s.workers[number]?).any (·.watcher.detains) then halted.elapse (s.patience number)
  else (halted, [])

/-- Stops the watchers with some numbers, one after the other. -/
def stopEach (s : Session) : List Nat → Session × List Occurrence
  | [] => (s, [])
  | number :: rest =>
    let (s', log) := s.stop number
    let (s'', more) := stopEach s' rest
    (s'', log ++ more)

/-- Stops the watcher of a document that is no longer tracked, if there was one. -/
def stopTracked (s : Session) : Option Nat → Session × List Occurrence
  | none => (s, [])
  | some number => s.stop number

/-- Stops all watchers of open documents, in the order of the shuffle. -/
def stopAll (s : Session) : Session × List Occurrence :=
  let untracked : Session := { s with tracked := {} }
  untracked.stopEach (s.shuffle.arrange s.tracked.values)

/-! ### Changes of documents -/

/-- Stores the text of a document. -/
def store (s : Session) (uri : Uri) (text : Text) : Session :=
  { s with documents := s.documents.insert uri text }

/-- Starts a watcher on the text of a document, and has it tracked. -/
def track (s : Session) (uri : Uri) (text : Text) : Session × List Occurrence :=
  let number := s.workers.length
  let worker : Worker := { uri, watcher := s.settings.watcher.stage text }
  let added : Session := { s with
    workers := s.workers ++ [worker]
    tracked := s.tracked.insert uri number }
  added.drive number (Watcher.start s.settings.command)

/-- Stages a text for the watcher of a document, if there is one. -/
def stage (s : Session) (uri : Uri) (text : Text) (full : Bool) : Session :=
  match s.tracked.get? uri with
  | some number => s.modify number fun w => w.stageForced text full
  | none => s

/-- What a report of the editor does. A document that is opened gets a new watcher; one that is
saved is checked again in full, because files that it uses may have changed. -/
def change (s : Session) : Change → Session × List Occurrence
  | .opened uri text =>
    let (started, log) := (s.store uri text).track uri text
    let (stopped, more) := started.stopTracked (s.tracked.get? uri)
    (stopped, log ++ more)
  | .edited uri texts =>
    match texts.getLast? with
    | some text => ((s.store uri text).stage uri text false, [])
    | none => (s, [])
  | .saved uri (some text) => ((s.store uri text).stage uri text true, [])
  | .saved uri none =>
    match s.documents.get? uri with
    | some text => (s.stage uri text true, [])
    | none => (s, [])
  | .closed uri =>
    let untracked : Session := { s with tracked := s.tracked.erase uri }
    let (stopped, log) := untracked.stopTracked (s.tracked.get? uri)
    let forgotten : Session := { stopped with documents := stopped.documents.erase uri }
    (forgotten, log ++ forgotten.publish uri [])

/-! ### Calls -/

/-- What the server tells about itself. -/
def offer : Json :=
  .object [
    ("capabilities".toList, .object [
      ("textDocumentSync".toList, .object [
        ("openClose".toList, .bool true),
        ("change".toList, .number 1),
        ("save".toList, .object [("includeText".toList, .bool true)])])]),
    ("serverInfo".toList, .object [
      ("name".toList, .string Release.serverName),
      ("version".toList, .string Release.version)])]

/-- The message for the log once the editor is ready. -/
def greeting : Text :=
  Release.serverName ++ " initialized".toList

/-- The reply to a call with a result or a fault. A notification gets no reply. -/
def reply (c : Call) (result : Except CallFault Json) : Reply :=
  match c.id with
  | some id => .response { id, result }
  | none => .silent

/-- Sets the session up. -/
def setUp (s : Session) (c : Call) : Session × List Occurrence × Reply :=
  if s.lifecycle ≠ .fresh then (s, [], reply c (.error .outOfPlace))
  else match c.id, c.fault? Shape.setUp with
    | none, _ => (s, [], .silent)
    | some _, some fault => (s, [], reply c (.error fault))
    | some _, none => ({ s with lifecycle := .running }, [], reply c (.ok offer))

/-- Shuts a running session down: all watchers are stopped. -/
def shutDown (s : Session) (c : Call) : Session × List Occurrence × Reply :=
  let closing : Session := { s with lifecycle := .shutDown }
  match c.id, c.params with
  | none, _ => (closing, [], .silent)
  | some _, some params => (closing, [], reply c (.error (.strayParams params)))
  | some _, none =>
    let (stopped, log) := closing.stopAll
    (stopped, log, reply c (.ok .null))

/-- What a notification does in a running session. -/
def notify (s : Session) (c : Call) : Method → Session × List Occurrence
  | .ready => if (c.fault? Method.readiness).isNone then (s, [.sent (.log greeting)]) else (s, [])
  | .change kind =>
    match c.params.bind (Change.ofParams? kind) with
    | some change => s.change change
    | none => (s, [])
  | _ => (s, [])

/-- A call of a method in a running session. A notification that asks for a response does nothing
else. -/
def perform (s : Session) (c : Call) (method : Method) : Session × List Occurrence × Reply :=
  match method, c.id with
  | .shutDown, _ => s.shutDown c
  | .service params, _ => (s, [], reply c (.error ((c.fault? params).getD .notOffered)))
  | _, some _ => (s, [], reply c (.error .outOfPlace))
  | method, none =>
    let (s', log) := s.notify c method
    (s', log, .silent)

/-- A call of the editor. -/
def call (s : Session) (c : Call) : Session × List Occurrence × Reply :=
  if s.lifecycle = .exited then (s, [], .exited)
  else match Method.ofName? c.method with
    | none =>
      if Method.isOptional c.method then (s, [], .silent)
      else (s, [], reply c (.error (.unknown c.method)))
    | some .exit => ({ s with lifecycle := .exited }, [], .silent)
    | some .setUp => s.setUp c
    | some .cancel => (s, [], reply c (.error .outOfPlace))
    | some method =>
      if s.lifecycle = .fresh then (s, [], reply c (.error .notInitialized))
      else if s.lifecycle ≠ .running then (s, [], reply c (.error .outOfPlace))
      else s.perform c method

/-! ### Steps -/

/-- What the editor, and the world around the session, can do. -/
inductive Step where
  | call (c : Call)
  | present (resource source : Text) (set : List Diagnostic)
  | elapse (ms : Nat)
  | setChecker (checker : Checker)
  | setGate (closed : Bool)

/-- One step: the session after it, what happened, and the reply to a call. -/
def step (s : Session) : Step → Session × List Occurrence × Reply
  | .call c => s.call c
  | .present resource source set => (s, s.present resource source set, .silent)
  | .elapse ms =>
    let (s', log) := s.elapse ms
    (s', log, .silent)
  | .setChecker checker => ({ s with host := { s.host with checker } }, [], .silent)
  | .setGate closed =>
    let (s', log) := s.setGate closed
    (s', log, .silent)

/-- A sequence of steps: the session after it, and what happened. -/
def run : Session → List Step → Session × List Occurrence
  | s, [] => (s, [])
  | s, first :: rest =>
    let (s', log, _) := s.step first
    let (s'', more) := run s' rest
    (s'', log ++ more)

end Session

end SyntaxWatch
