import SyntaxWatch.Text.Decimal

/-!
# Durations

Lengths of time are whole milliseconds in a word of 64 bits.

## Main definitions

* `Duration.ofParts`: a length given in seconds and nanoseconds.
* `Duration.print`: the written form of a length, in the largest unit that leaves a whole part.
-/

namespace SyntaxWatch.Duration

/-- The whole milliseconds in a number of seconds and nanoseconds, at most the largest number of
64 bits. -/
def ofParts (seconds nanoseconds : Nat) : Nat :=
  min (seconds * 1000 + nanoseconds / 1000000) Decimal.limit

/-- The thousandths of a second as a fraction: three digits without the zeros at their end. -/
def fraction (thousandths : Nat) : Text :=
  let digits := [thousandths / 100, thousandths / 10 % 10, thousandths % 10].map Nat.digitChar
  (digits.reverse.dropWhile (· == '0')).reverse

/-- The written form of a number of milliseconds. -/
def print (ms : Nat) : Text :=
  if ms = 0 then "0ns".toList
  else if ms < 1000 then Decimal.print ms ++ "ms".toList
  else
    let point : Text := if ms % 1000 = 0 then [] else '.' :: fraction (ms % 1000)
    Decimal.print (ms / 1000) ++ point ++ ['s']

example : String.ofList (print 40) = "40ms" := by decide

example : String.ofList (print 1230) = "1.23s" := by decide

end SyntaxWatch.Duration
