import SyntaxWatch.Text.Utf8

/-!
# SHA-256

The digest by which two outputs of the checker are compared. The message is padded to blocks of
sixteen words; each block is stretched to sixty-four words, which are mixed one by one into eight
working words.

## Main definitions

* `Sha256.digest`: the digest of a sequence of bytes.
* `Digest.ofText`, `Digest.hex`: the digest of a text, and its written form.
-/

namespace SyntaxWatch

/-- A digest of 256 bits: eight words. -/
structure Digest where
  a : UInt32
  b : UInt32
  c : UInt32
  d : UInt32
  e : UInt32
  f : UInt32
  g : UInt32
  h : UInt32
  deriving DecidableEq

namespace Sha256

/-- The constants that are mixed in, one for each word of the stretched block. -/
def constants : List UInt32 := [
  0x428a2f98, 0x71374491, 0xb5c0fbcf, 0xe9b5dba5, 0x3956c25b, 0x59f111f1, 0x923f82a4, 0xab1c5ed5,
  0xd807aa98, 0x12835b01, 0x243185be, 0x550c7dc3, 0x72be5d74, 0x80deb1fe, 0x9bdc06a7, 0xc19bf174,
  0xe49b69c1, 0xefbe4786, 0x0fc19dc6, 0x240ca1cc, 0x2de92c6f, 0x4a7484aa, 0x5cb0a9dc, 0x76f988da,
  0x983e5152, 0xa831c66d, 0xb00327c8, 0xbf597fc7, 0xc6e00bf3, 0xd5a79147, 0x06ca6351, 0x14292967,
  0x27b70a85, 0x2e1b2138, 0x4d2c6dfc, 0x53380d13, 0x650a7354, 0x766a0abb, 0x81c2c92e, 0x92722c85,
  0xa2bfe8a1, 0xa81a664b, 0xc24b8b70, 0xc76c51a3, 0xd192e819, 0xd6990624, 0xf40e3585, 0x106aa070,
  0x19a4c116, 0x1e376c08, 0x2748774c, 0x34b0bcb5, 0x391c0cb3, 0x4ed8aa4a, 0x5b9cca4f, 0x682e6ff3,
  0x748f82ee, 0x78a5636f, 0x84c87814, 0x8cc70208, 0x90befffa, 0xa4506ceb, 0xbef9a3f7, 0xc67178f2]

/-- The working words before the first block. -/
def start : Digest where
  a := 0x6a09e667
  b := 0xbb67ae85
  c := 0x3c6ef372
  d := 0xa54ff53a
  e := 0x510e527f
  f := 0x9b05688c
  g := 0x1f83d9ab
  h := 0x5be0cd19

/-- Rotation to the right. -/
def rotate (x n : UInt32) : UInt32 :=
  (x >>> n) ||| (x <<< (32 - n))

/-- The length of a message in bits, as eight bytes. -/
def lengthBytes (n : Nat) : List UInt8 :=
  (List.range 8).reverse.map fun i => UInt8.ofNat (8 * n / Nat.pow 256 i)

/-- The message with its padding: a one bit, zero bits, and the length at the end of a block. -/
def pad (message : List UInt8) : List UInt8 :=
  message ++ 0x80 :: List.replicate ((119 - message.length % 64) % 64) 0 ++
    lengthBytes message.length

/-- The words of a sequence of bytes, the high byte of each word first. -/
def words : List UInt8 → List UInt32
  | a :: b :: c :: d :: rest =>
    (a.toUInt32 <<< 24 ||| b.toUInt32 <<< 16 ||| c.toUInt32 <<< 8 ||| d.toUInt32) :: words rest
  | _ => []

/-- Adds `n` words to a block, which is given with its last word first. -/
def stretch : Nat → List UInt32 → List UInt32
  | 0, recent => recent
  | n + 1, recent =>
    let word (i : Nat) := recent.getD i 0
    let high := rotate (word 1) 17 ^^^ rotate (word 1) 19 ^^^ (word 1 >>> 10)
    let low := rotate (word 14) 7 ^^^ rotate (word 14) 18 ^^^ (word 14 >>> 3)
    stretch n ((high + word 6 + low + word 15) :: recent)

/-- Mixes one word with its constant into the working words. -/
def mix (s : Digest) (constant word : UInt32) : Digest :=
  let choice := (s.e &&& s.f) ^^^ ((~~~s.e) &&& s.g)
  let majority := (s.a &&& s.b) ^^^ (s.a &&& s.c) ^^^ (s.b &&& s.c)
  let first := s.h + (rotate s.e 6 ^^^ rotate s.e 11 ^^^ rotate s.e 25) + choice + constant + word
  let second := (rotate s.a 2 ^^^ rotate s.a 13 ^^^ rotate s.a 22) + majority
  { a := first + second, b := s.a, c := s.b, d := s.c, e := s.d + first, f := s.e, g := s.f,
    h := s.g }

/-- The working words after one block. -/
def compress (s : Digest) (block : List UInt32) : Digest :=
  let mixed := (constants.zip (stretch 48 block.reverse).reverse).foldl
    (fun s (constant, word) => mix s constant word) s
  { a := s.a + mixed.a, b := s.b + mixed.b, c := s.c + mixed.c, d := s.d + mixed.d
    e := s.e + mixed.e, f := s.f + mixed.f, g := s.g + mixed.g, h := s.h + mixed.h }

/-- The working words after a number of blocks. -/
def absorb : Nat → Digest → List UInt32 → Digest
  | 0, s, _ => s
  | n + 1, s, message => absorb n (compress s (message.take 16)) (message.drop 16)

/-- The digest of a sequence of bytes. -/
def digest (message : List UInt8) : Digest :=
  let padded := words (pad message)
  absorb (padded.length / 16) start padded

end Sha256

namespace Digest

/-- The digest of a text. -/
def ofText (text : Text) : Digest :=
  Sha256.digest (Utf8.encode text)

/-- The eight words of a digest. -/
def toWords (d : Digest) : List UInt32 :=
  [d.a, d.b, d.c, d.d, d.e, d.f, d.g, d.h]

/-- The written form of a digest: sixty-four hexadecimal digits. -/
def hex (d : Digest) : Text :=
  d.toWords.flatMap fun word =>
    (List.range 8).reverse.map fun i => (word.toNat / Nat.pow 16 i % 16).digitChar

end Digest

end SyntaxWatch
