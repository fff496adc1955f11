import SyntaxWatch.Process.Fault
import SyntaxWatch.Process.Scratch

/-!
# Hosts

The machine on which checkers run, as far as the answers depend on it: a clock, the scratch
directory, the programs that can be started, and how the checker under study behaves. The host can
hold a checker back: while its gate is closed, the checker neither reads its input nor ends, unless
it is killed. It also keeps the numbers of the runs whose checkers are being killed.

## Main definitions

* `Checker`: the behaviour of a checker.
* `Program`: what the name of a program leads to.
* `Host`: the machine.
-/

namespace SyntaxWatch

/-- The behaviour of a checker: the bytes that it writes to its error stream, given its arguments
and the content of its input file, the time that it takes, and the time for which it stays on after
it was first killed. -/
structure Checker where
  reply : List Text → Text → Except SystemFault (List UInt8)
  duration : Nat := 0
  lingers : Nat := 0

/-- A checker that writes nothing. -/
def Checker.silent : Checker where
  reply := fun _ _ => .ok []

/-- What the name of a program leads to. -/
inductive Program where
  /-- The checker under study, which the gate can hold back. -/
  | studied
  /-- A program that writes nothing to its error stream. -/
  | silent
  /-- Nothing that can be started. -/
  | refused (cause : SystemFault)
  deriving DecidableEq, Repr

/-- The machine on which checkers run. The runs whose checkers are being killed are told by the
numbers of their scratch files. -/
structure Host where
  clock : Nat := 0
  scratch : Scratch
  programs : Text → Program
  checker : Checker := .silent
  gateClosed : Bool := false
  condemned : List Nat := []

namespace Host

/-- The behaviour of a program that could be started. -/
def behaviour (h : Host) (program : Text) : Checker :=
  match h.programs program with
  | .studied => h.checker
  | _ => .silent

/-- Whether a program is held back. -/
def holdsBack (h : Host) (program : Text) : Bool :=
  h.gateClosed && h.programs program == .studied

/-- Whether a program that was started at a time has ended. -/
def hasEnded (h : Host) (program : Text) (since : Nat) : Bool :=
  !h.holdsBack program && decide (since + (h.behaviour program).duration ≤ h.clock)

/-- The host with a file of its scratch directory deleted. -/
def discard (h : Host) (number : Nat) : Host :=
  { h with scratch := h.scratch.delete number }

/-- The host with the checker of a run being killed. -/
def condemn (h : Host) (number : Nat) : Host :=
  { h with condemned := number :: h.condemned }

/-- Whether the checker of a run is being killed. -/
def hasCondemned (h : Host) (number : Nat) : Bool :=
  h.condemned.contains number

/-- The host after some time. -/
def elapse (h : Host) (ms : Nat) : Host :=
  { h with clock := h.clock + ms }

end Host

end SyntaxWatch
