import SyntaxWatch.Process.Host
import SyntaxWatch.Text.Search
import SyntaxWatch.Text.Utf8

/-!
# Scripted checkers

A checker whose behaviour is written down: it can echo its arguments and its input to its error
stream, then writes given bytes there, in which a placeholder stands for the path of its input, and
can stay on for a while with the stream open.

## Main definitions

* `Script`: the description of a scripted checker.
* `Script.checker`: the checker that behaves that way.
-/

namespace SyntaxWatch

/-- The description of a scripted checker. -/
structure Script where
  echoesArguments : Bool := false
  echoesInput : Bool := false
  stderr : List UInt8 := []
  hangs : Bool := false
  deriving DecidableEq, Repr

namespace Script

/-- What stands for the path of the input in the bytes that a script writes. -/
def placeholder : Text := "\x7bpath\x7d".toList

/-- The milliseconds for which a checker stays on when it hangs. -/
def hangTime : Nat := 30000

/-- What a script writes to its error stream. -/
def output (s : Script) (arguments : List Text) (content : Text) : List UInt8 :=
  let path := arguments.getLastD []
  let echoed :=
    if s.echoesArguments then arguments.flatMap fun a => Utf8.encode (a ++ ['\n']) else []
  let copied := if s.echoesInput then Utf8.encode content else []
  echoed ++ copied ++ Search.replace (Utf8.encode placeholder) (Utf8.encode path) s.stderr

/-- The checker that behaves as a script says. -/
def checker (s : Script) : Checker where
  reply := fun arguments content => .ok (s.output arguments content)
  duration := if s.hangs then hangTime else 0

end Script

end SyntaxWatch
