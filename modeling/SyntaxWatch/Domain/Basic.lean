import SyntaxWatch.Domain.Joining
import SyntaxWatch.Domain.Mapping
import SyntaxWatch.Domain.Punycode

/-!
# Domain names

Names of hosts in any script, and their one form in ASCII. A name is respelled and composed, and
then each of its labels has to be in order: it begins with no mark, its joiners have their places,
and where the name is written from right to left it keeps to a direction. A label may come in its
ASCII form already, when that form is one that its label would get.

## Main definitions

* `Domain.respell?`: a name in its final spelling.
* `Domain.Label`: a label, as it is read and as it is written.
* `Domain.ascii?`: the ASCII form of a name.
-/

namespace SyntaxWatch.Domain

/-- The characters of ASCII that no domain name may hold, beside blanks and control characters. -/
def forbidden : List Char :=
  ['%', '#', '/', ':', '<', '>', '?', '@', '[', '\\', ']', '^', '|']

/-- Whether a domain name may hold a character in its final spelling. -/
def permits (c : Char) : Bool :=
  0x20 < c.toNat && c.toNat ≠ 0x7F && !forbidden.contains c

/-- A name in its final spelling. -/
def respell? (name : Text) : Option Text := do
  let spelled ← name.mapM spelled?
  let composed := normal spelled.flatten
  if composed.all permits then some composed else none

/-- The mark of a label in its ASCII form. -/
def mark : Text := "xn--".toList

/-- A label, as it is read and as it is written in ASCII. -/
structure Label where
  read : Text
  written : Text

/-- Whether a text is in ASCII. -/
def isAscii (text : Text) : Bool :=
  text.all (·.toNat < 0x80)

/-- Whether the characters of a label are in order. -/
def inOrder (label : Text) : Bool :=
  !label.head?.any isMark && joinsProperly label

/-- Whether a text that an ASCII form spells is a label that needs one. -/
def needsForm (label : Text) : Bool :=
  !isAscii label && label.take 4 ≠ mark && label.all standsForItself && label.all permits &&
    normal label = label && inOrder label

/-- The label that a part of a name spells. -/
def Label.ofText? (text : Text) : Option Label :=
  if text.take 4 = mark then do
    let read ← Punycode.decode? (text.drop 4)
    if isAscii text && needsForm read then some { read, written := text } else none
  else if isAscii text then some { read := text, written := text }
  else if inOrder text then some { read := text, written := mark ++ Punycode.encode text }
  else none

/-- The ASCII form of a name. -/
def ascii? (name : Text) : Option Text := do
  let labels ← ((← respell? name).splitOn '.').mapM Label.ofText?
  let bidirectional := labels.any fun l => isBidirectional l.read
  if bidirectional && labels.any (fun l => !keepsDirection l.read) then none
  else return ['.'].intercalate (labels.map Label.written)

end SyntaxWatch.Domain
