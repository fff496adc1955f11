import SyntaxWatch.Cycle.Inspector

/-!
# Watchers

A watcher checks a text in the background: one cycle at once when it is started, and then one
each time it has slept for its interval. Its owner stages texts and turns its knobs at any time
without disturbing a cycle that is underway: a cycle works on the text and the cap with which it
began, and a sleep lasts as long as the interval was when it began. A forced request and a new cap
make the next cycle run in full.

A watcher is told to stop at any time; it ends before its next cycle, and a cycle that is
underway is discarded when its run is over. Whoever stops it waits for that, but no longer than the
grace period.

## Main definitions

* `Watcher`: a watcher with its knobs.
* `Watcher.turn`: one round of its loop, from the head to the next sleep.
* `Watcher.settle`: goes on with a cycle whose run is over.
* `Watcher.wake`: what it does once time has passed.
* `Watcher.halt`, `Watcher.wait`: the request to stop, and the wait that follows it.
-/

namespace SyntaxWatch

/-- A cycle whose run is underway, with the cap with which it began. -/
structure Job where
  cap : Nat
  flight : Flight
  deriving DecidableEq, Repr

/-- What a watcher is doing. -/
inductive Phase where
  /-- It has not been started. -/
  | idle
  /-- It waits for the checker. -/
  | validating (job : Job)
  /-- It sleeps until a time. -/
  | sleeping (deadline : Nat)
  /-- It has ended. -/
  | terminated
  deriving DecidableEq, Repr

/-- A watcher: the text and the knobs that its owner sets, whether it was told to stop, whether its
owner can still wait for its end, what its last cycle saw, and what it is doing. -/
structure Watcher where
  staged : Option Text := none
  forced : Bool := false
  interval : Nat
  cap : Nat
  stopping : Bool := false
  awaited : Bool := false
  memory : Recall := {}
  phase : Phase := .idle

namespace Watcher

/-! ### The knobs -/

/-- Stages a text for the next cycle. -/
def stage (w : Watcher) (text : Text) : Watcher :=
  { w with staged := some text }

/-- Makes the next cycle run in full. -/
def force (w : Watcher) : Watcher :=
  { w with forced := true }

/-- Stages a text for the next cycle, which runs in full on demand. -/
def stageForced (w : Watcher) (text : Text) (full : Bool) : Watcher :=
  if full then (w.stage text).force else w.stage text

/-- Sets the length of the sleeps to come. -/
def setInterval (w : Watcher) (ms : Nat) : Watcher :=
  { w with interval := ms }

/-- Sets the number of output lines that count. A new number makes the next cycle run in full. -/
def setCap (w : Watcher) (cap : Nat) : Watcher :=
  if w.cap = cap then w else { w with cap }.force

/-! ### The loop -/

/-- Ends a round at a time: the watcher goes to sleep, or ends when it was told to stop. -/
def rest (w : Watcher) (now : Nat) : Watcher :=
  { w with phase := if w.stopping then .terminated else .sleeping (now + w.interval) }

/-- Ends a cycle whose run is over, and its round. -/
def finish (w : Watcher) (now : Nat) (job : Job) (check : Except CheckFault Transcript) :
    Watcher × List Event :=
  let (memory, events) := w.memory.close job.flight.text job.cap w.stopping check
  ({ w with memory }.rest now, events)

/-- Goes on with a cycle whose run is over. A run that takes too long has its interpreter killed
first, and the cycle waits for that as well. -/
def settle (c : Command) (h : Host) (w : Watcher) : Host × Watcher × List Event :=
  match w.phase with
  | .validating job =>
    match c.progress h job.flight with
    | .underway => (h, w, [])
    | .dying => (h.condemn job.flight.number, w, [])
    | .ended =>
      let (h', check) := c.land h job.flight
      let (w', events) := w.finish h.clock job check
      (h', w', events)
    | .overdue limit =>
      let (h', check) := Command.abandon h job.flight limit
      let (w', events) := w.finish h.clock job check
      (h', w', events)
  | _ => (h, w, [])

/-- Heeds a request to run in full: nothing is remembered. -/
def heed (w : Watcher) : Watcher :=
  if w.forced then { w with forced := false, memory := .empty } else w

/-- Begins a cycle on a text, and ends it at once when nothing holds its run back. -/
def check (c : Command) (h : Host) (w : Watcher) (text : Text) : Host × Watcher × List Event :=
  if w.memory.knowsText text then
    (h, w.rest h.clock, [.ended (.ok .sameText)])
  else
    match c.launch h text with
    | (h', .error fault) =>
      (h', w.rest h.clock, [.checked text, .ended (.error fault)])
    | (h', .ok flight) =>
      let (h'', w', events) := settle c h' { w with phase := .validating { cap := w.cap, flight } }
      (h'', w', .checked text :: events)

/-- One round of the loop: a cycle on the staged text, if there is one, and the sleep after it. -/
def turn (c : Command) (h : Host) (w : Watcher) : Host × Watcher × List Event :=
  if w.stopping then
    (h, { w with phase := .terminated }, [])
  else
    let w := w.heed
    match w.staged with
    | none => (h, w.rest h.clock, [])
    | some text => check c h w text

/-! ### What drives the loop -/

/-- Starts the watcher. Starting it again does nothing. -/
def start (c : Command) (h : Host) (w : Watcher) : Host × Watcher × List Event :=
  match w.phase with
  | .idle => turn c h { w with awaited := true }
  | _ => (h, w, [])

/-- What the watcher does once time has passed: it wakes up when its sleep is over, and goes on with
its cycle when the run is over. -/
def wake (c : Command) (h : Host) (w : Watcher) : Host × Watcher × List Event :=
  match w.phase with
  | .sleeping deadline => if deadline ≤ h.clock then turn c h w else (h, w, [])
  | _ => settle c h w

/-- Tells the watcher to stop. A sleep ends at once, and with it the watcher. -/
def halt (w : Watcher) : Watcher :=
  let w := { w with stopping := true, awaited := false }
  match w.phase with
  | .sleeping _ => { w with phase := .terminated }
  | _ => w

/-- Whether the one who stops the watcher has to wait for it: it can be waited for, and a run is
underway. -/
def detains (w : Watcher) : Bool :=
  w.awaited && match w.phase with
    | .validating _ => true
    | _ => false

/-- The time for which the one who stops the watcher waits: until the run is over, and at most the
grace period. -/
def wait (c : Command) (h : Host) (w : Watcher) (grace : Nat) : Nat :=
  match w.phase with
  | .validating job => ((c.remaining? h job.flight).getD grace).min grace
  | _ => 0

/-- Whether the watcher has ended. -/
def hasTerminated (w : Watcher) : Bool :=
  w.phase == .terminated

/-- What the one who stops a watcher is told, given the watcher before the stop and after the wait:
whether it is known to have ended within the grace period. -/
def acknowledged (before after : Watcher) (grace : Nat) : Bool :=
  !before.awaited || before.hasTerminated || (decide (0 < grace) && after.hasTerminated)

end Watcher

end SyntaxWatch
