import SyntaxWatch.Uri.Authority
import SyntaxWatch.Uri.Path

/-!
# Names of documents

An editor names documents by URIs. Many texts can spell one URI, so a URI is kept in its canonical
form: a scheme in small letters, the host in its one written form, no dots among the names of a
path, no number of a service that goes without saying, and escapes for all characters that may not
stand for themselves. Two texts name one document exactly when their canonical forms are equal.

Schemes fall into three groups. Files have a path and at most a host. The schemes of the web have
an authority, and read a backslash as a slash, as files do. All others are taken as they come.

## Main definitions

* `Uri.canonical`: the canonical form of a text.
* `Uri`: a canonical form.
* `Uri.parse`: the URI that a text spells, or why it spells none.
-/

namespace SyntaxWatch

namespace Uri

/-! ### Schemes -/

/-- The groups of schemes. -/
inductive Group where
  | file
  | web (service : Nat)
  | other
  deriving DecidableEq, Repr

/-- The group of a scheme, with the number of the service that goes without saying. -/
def Group.of (scheme : Text) : Group :=
  if scheme = "file".toList then .file
  else if scheme = "http".toList ∨ scheme = "ws".toList then .web 80
  else if scheme = "https".toList ∨ scheme = "wss".toList then .web 443
  else if scheme = "ftp".toList then .web 21
  else .other

/-- Whether a character may stand in a scheme behind its first one. -/
def inScheme (c : Char) : Bool :=
  c.isAlphanum || c = '+' || c = '-' || c = '.'

/-- The scheme of a text in small letters, and what follows the colon. -/
def scheme? (text : Text) : Option (Text × Text) :=
  match text.span inScheme with
  | (c :: name, ':' :: rest) =>
    if c.isAlpha then some ((c :: name).map Char.toLower, rest) else none
  | _ => none

/-! ### What follows the scheme, without query and fragment -/

/-- The written form of a file on a host. A path that begins with a drive needs no host. -/
def fileOn (host : Host) (below : Text) : Text :=
  let path := filePath (below.drop 1)
  (if path.onDrive then [] else host.text) ++ printFilePath path

/-- What follows a slash at the front of a text, if there is one. -/
def behindSlash? (text : Text) : Option Text :=
  match text.dropWhile isBreak with
  | '/' :: rest => some rest
  | _ => none

/-- What follows the scheme of a file, with its line breaks and tabulators. The host of this machine
is left out, and the path then keeps its first slash as an empty name until it is written. -/
def file (text : Text) : Except Fault Text := do
  match behindSlash? text with
  | none => return "//".toList ++ printFilePath (filePath text)
  | some rest =>
    match behindSlash? rest with
    | none => return "//".toList ++ printFilePath (filePath rest)
    | some place =>
      let (name, below) := place.span (· ≠ '/')
      if isDrive (unbroken name) then return "//".toList ++ printFilePath (filePath place)
      else if (unbroken name).isEmpty then return "//".toList ++ printFilePath (filePath below)
      else
        let host ← Host.ofText (unbroken name)
        if host = .name "localhost".toList then
          return "//".toList ++ printFilePath (filePath below)
        else
          return "//".toList ++ fileOn host below

/-- What follows a scheme of the web. There is a host. -/
def web (service : Nat) (goesOn : Bool) (text : Text) : Except Fault Text := do
  let (zone, below) := (text.dropWhile (· = '/')).span (· ≠ '/')
  let (shown, _) ← authority Host.ofText true (some service) (goesOn || !below.isEmpty) zone
  return "//".toList ++ shown ++ printPath (plainPath (below.drop 1))

/-- What follows any other scheme. -/
def other (goesOn : Bool) (text : Text) : Except Fault Text := do
  match text with
  | '/' :: '/' :: rest =>
    let (zone, below) := rest.span (· ≠ '/')
    let (shown, behind) ← authority Host.ofPlainText false none (goesOn || !below.isEmpty) zone
    return "//".toList ++ shown ++ match behind ++ below with
      | [] => []
      | '/' :: path => printPath (plainPath path)
      | path => printPath (plainPath path)
  | '/' :: path =>
    let shown := printPath (plainPath path)
    return if shown.take 2 = "//".toList then "/.".toList ++ shown else shown
  | _ => return escape [] text

/-! ### The canonical form -/

/-- A text without blanks and control characters around it. -/
def trimmed (text : Text) : Text :=
  let idle (c : Char) : Bool := c.toNat ≤ 0x20
  ((text.dropWhile idle).reverse.dropWhile idle).reverse

/-- The canonical form of the URI that a text spells. Line breaks and tabulators do not count,
except in the path of a file. -/
def canonical (source : Text) : Except Fault Text := do
  let text := trimmed source
  match scheme? (unbroken text) with
  | none => throw .relative
  | some (scheme, _) =>
    let (front, fragment) := ((text.dropWhile (· ≠ ':')).drop 1).span (· ≠ '#')
    let (body, query) := front.span (· ≠ '?')
    let (fragment, query) := (unbroken fragment, unbroken query)
    let goesOn := !query.isEmpty || !fragment.isEmpty
    let slashed := body.map fun c => if c = '\\' then '/' else c
    let group := Group.of scheme
    let shown ← match group with
      | .file => file slashed
      | .web service => web service goesOn (unbroken slashed)
      | .other => other goesOn (unbroken body)
    let reserved := if group = .other then inQuery else inSpecialQuery
    return scheme ++ ':' :: shown ++ query.take 1 ++ escape reserved (query.drop 1) ++
      fragment.take 1 ++ escape inFragment (fragment.drop 1)

end Uri

/-- A URI in its canonical form. -/
structure Uri where
  text : Text
  spelled : ∃ source, Uri.canonical source = .ok text
  deriving DecidableEq

namespace Uri

/-- The URI that a text spells, or why it spells none. -/
def parse (source : Text) : Except Fault Uri :=
  match h : canonical source with
  | .ok text => .ok ⟨text, source, h⟩
  | .error fault => .error fault

/-- The URI that a text spells. -/
def parse? (source : Text) : Option Uri :=
  (parse source).toOption

end Uri

end SyntaxWatch
