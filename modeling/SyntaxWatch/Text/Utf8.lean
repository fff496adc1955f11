import SyntaxWatch.Text.Basic

/-!
# UTF-8

Reads bytes as characters, one byte at a time. Bytes that belong to no character are grouped as the
Unicode standard recommends: every longest start of a character that breaks off is one fault, and
so is every byte that starts none. A lenient reader puts one replacement character in the place
of each fault; a strict reader refuses the whole text.

## Main definitions

* `Utf8.encode`: the bytes of a text.
* `Utf8.read`: the characters and faults of a sequence of bytes.
* `Utf8.decodeLossy`, `Utf8.decode?`: the lenient and the strict reader.
-/

namespace SyntaxWatch.Utf8

/-- The bytes of a text. -/
def encode (text : Text) : List UInt8 :=
  text.flatMap String.utf8EncodeChar

/-- A character that has begun: its bits so far, the number of bytes still to come, and the bounds
of the next of them. -/
structure Pending where
  bits : Nat
  missing : Nat
  low : Nat := 0x80
  high : Nat := 0xBF
  deriving DecidableEq

/-- What a byte does where a character may begin. -/
inductive Start where
  | char (c : Char)
  | more (pending : Pending)
  | fault

/-- The role of a byte where a character may begin. The tighter bounds of some second bytes shut
out overlong forms, surrogates and numbers past the last code point. -/
def Start.ofByte (b : UInt8) : Start :=
  let n := b.toNat
  if n < 0x80 then .char (Char.ofNat n)
  else if n < 0xC2 then .fault
  else if n < 0xE0 then .more { bits := n % 0x20, missing := 1 }
  else if n == 0xE0 then .more { bits := 0, missing := 2, low := 0xA0 }
  else if n == 0xED then .more { bits := 0x0D, missing := 2, high := 0x9F }
  else if n < 0xF0 then .more { bits := n % 0x10, missing := 2 }
  else if n == 0xF0 then .more { bits := 0, missing := 3, low := 0x90 }
  else if n < 0xF4 then .more { bits := n % 0x08, missing := 3 }
  else if n == 0xF4 then .more { bits := 4, missing := 3, high := 0x8F }
  else .fault

/-- The reader behind `read`, with the character that has begun. A fault is `none`. -/
def readFrom : Option Pending → List UInt8 → List (Option Char)
  | none, [] => []
  | some _, [] => [none]
  | none, b :: rest =>
    match Start.ofByte b with
    | .char c => some c :: readFrom none rest
    | .more pending => readFrom (some pending) rest
    | .fault => none :: readFrom none rest
  | some pending, b :: rest =>
    if pending.low ≤ b.toNat ∧ b.toNat ≤ pending.high then
      let bits := pending.bits * 0x40 + b.toNat % 0x40
      if pending.missing ≤ 1 then
        some (Char.ofNat bits) :: readFrom none rest
      else
        readFrom (some { bits, missing := pending.missing - 1 }) rest
    else
      none :: match Start.ofByte b with
        | .char c => some c :: readFrom none rest
        | .more next => readFrom (some next) rest
        | .fault => none :: readFrom none rest

/-- The characters of a sequence of bytes, with `none` for each fault. -/
def read (bytes : List UInt8) : List (Option Char) :=
  readFrom none bytes

/-- The text of a sequence of bytes, with a replacement character for each fault. -/
def decodeLossy (bytes : List UInt8) : Text :=
  (read bytes).map (·.getD '\uFFFD')

/-- The text of a sequence of bytes without faults. -/
def decode? (bytes : List UInt8) : Option Text :=
  (read bytes).mapM id

example : decodeLossy [0xE2, 0x82, 0xAC, 0x20, 0xE2, 0x82] = ['€', ' ', '\uFFFD'] := by decide

example : decodeLossy [0xED, 0xA0, 0x80] = ['\uFFFD', '\uFFFD', '\uFFFD'] := by decide

example : decode? [0xC3, 0xA9] = some ['é'] := by decide

end SyntaxWatch.Utf8
