import SyntaxWatch.Text.Radix
import SyntaxWatch.Text.Utf8

/-!
# Escapes in URIs

A character that may not stand for itself is escaped: each of its bytes is written as a percent sign
and two digits to base sixteen. Which characters these are depends on the part of the URI.

## Main definitions

* `Uri.escape`: a text with its foreign and some other characters escaped.
* `Uri.unescape`: the bytes that a text with escapes stands for.
-/

namespace SyntaxWatch.Uri

/-- A digit to base sixteen, in capital letters. -/
def hexadecimal (n : Nat) : Char :=
  if n < 10 then Char.ofNat ('0'.toNat + n) else Char.ofNat ('A'.toNat + (n - 10))

/-- The escape of a byte. -/
def escapeByte (b : UInt8) : Text :=
  ['%', hexadecimal (b.toNat / 16), hexadecimal (b.toNat % 16)]

/-- Whether a character is escaped wherever it stands: control characters and all beyond ASCII. -/
def isForeign (c : Char) : Bool :=
  c.toNat < 0x20 || 0x7E < c.toNat

/-- Escapes the foreign characters of a text and those of a list. -/
def escape (reserved : List Char) (text : Text) : Text :=
  text.flatMap fun c =>
    if isForeign c || reserved.contains c then (String.utf8EncodeChar c).flatMap escapeByte else [c]

/-- The characters that are escaped in a fragment. -/
def inFragment : List Char := [' ', '"', '<', '>', '\x60']

/-- The characters that are escaped in a query. -/
def inQuery : List Char := [' ', '"', '#', '<', '>']

/-- The characters that are escaped in a query of a file or of the web. -/
def inSpecialQuery : List Char := '\'' :: inQuery

/-- The characters that are escaped in a path. -/
def inPath : List Char := inFragment ++ ['#', '?', '\x7b', '\x7d']

/-- The characters that are escaped in the name and the password of a user. -/
def inUser : List Char := inPath ++ ['/', ':', ';', '=', '@', '[', '\\', ']', '^', '|']

/-- The bytes that a text stands for, where each escape is one byte. A percent sign without two
digits stands for itself. -/
def unescape : Text → List UInt8
  | [] => []
  | '%' :: high :: low :: rest =>
    match Radix.number? 16 [high, low] with
    | some byte => UInt8.ofNat byte :: unescape rest
    | none => 0x25 :: unescape (high :: low :: rest)
  | c :: rest => String.utf8EncodeChar c ++ unescape rest

example : unescape "%41%2%zz".toList = Utf8.encode "A%2%zz".toList := by decide

end SyntaxWatch.Uri
