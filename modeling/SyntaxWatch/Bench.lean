import SyntaxWatch.Watcher

/-!
# One watcher on a host

A watcher together with its host, as its owner drives it. Time passes only in steps that say so,
and in a stop that has to wait, where it passes at once: until the watcher has ended, or until the
grace period is over. In every step all that can happen happens.

## Main definitions

* `Bench.Step`: what the owner can do.
* `Bench.step`: one step, with what the watcher did in it and, for a stop, its answer.
* `Bench.run`: a sequence of steps.
-/

namespace SyntaxWatch

/-- A watcher, its command, its host, and the time that its owner waits for its end. -/
structure Bench where
  host : Host
  command : Command := {}
  grace : Nat
  watcher : Watcher

namespace Bench

/-- What the owner of a watcher, and the world around it, can do. -/
inductive Step where
  | start
  | stop
  | stage (text : Text)
  | stageForced (text : Text) (full : Bool)
  | setInterval (ms : Nat)
  | setCap (cap : Nat)
  | advance (ms : Nat)
  | setChecker (checker : Checker)
  | setGate (closed : Bool)
  | look

/-- The bench after something that involves its host. -/
def put (b : Bench) (result : Host × Watcher × List Event) : Bench × List Event :=
  ({ b with host := result.1, watcher := result.2.1 }, result.2.2)

/-- The time for which a stop waits for the watcher. -/
def patience (b : Bench) : Nat :=
  b.watcher.wait b.command b.host b.grace

/-- Tells the watcher to stop, and waits for its end as long as the grace period lasts. -/
def stop (b : Bench) : Bench × List Event × Bool :=
  let halted := b.watcher.halt
  let (after, events) :=
    if b.watcher.detains then
      b.put (Watcher.wake b.command (b.host.elapse b.patience) halted)
    else
      ({ b with watcher := halted }, [])
  (after, events, Watcher.acknowledged b.watcher after.watcher b.grace)

/-- One step: the bench after it, what the watcher did, and the answer of a stop. -/
def step (b : Bench) : Step → Bench × List Event × Option Bool
  | .start =>
    let (b', events) := b.put (Watcher.start b.command b.host b.watcher)
    (b', events, none)
  | .stop =>
    let (b', events, answer) := b.stop
    (b', events, some answer)
  | .stage text => ({ b with watcher := b.watcher.stage text }, [], none)
  | .stageForced text full => ({ b with watcher := b.watcher.stageForced text full }, [], none)
  | .setInterval ms => ({ b with watcher := b.watcher.setInterval ms }, [], none)
  | .setCap cap => ({ b with watcher := b.watcher.setCap cap }, [], none)
  | .advance ms =>
    let (b', events) := b.put (Watcher.wake b.command (b.host.elapse ms) b.watcher)
    (b', events, none)
  | .setChecker checker => ({ b with host := { b.host with checker } }, [], none)
  | .setGate closed =>
    let (b', events) :=
      b.put (Watcher.settle b.command { b.host with gateClosed := closed } b.watcher)
    (b', events, none)
  | .look => (b, [], none)

/-- A sequence of steps: the bench after it, and what the watcher did. -/
def run : Bench → List Step → Bench × List Event
  | b, [] => (b, [])
  | b, s :: steps =>
    let (b', events, _) := b.step s
    let (b'', more) := run b' steps
    (b'', events ++ more)

end Bench

end SyntaxWatch
