import SyntaxWatch.Uri.Escape

/-!
# Paths of URIs

The path of a URI is a row of names, each behind a slash. A single dot among the names is left out,
and two dots take the name before them away. The name of a drive, a letter with a colon or a bar, is
never taken away; at the front of the path of a file it is written with a colon.

Line breaks and tabulators do not count in a path, with one exception: behind the drive at the front
of the path of a file they part it from the rest of its name.

## Main definitions

* `Uri.unbroken`: a text without line breaks and tabulators.
* `Uri.Trail`: a path as far as it has been read, and `Uri.Trail.walk`: how it is read.
* `Uri.filePath`, `Uri.plainPath`: the path of a file, and the names of any other path.
* `Uri.printPath`: the written form of a path.
-/

namespace SyntaxWatch.Uri

/-- Whether a character is a line break or a tabulator. -/
def isBreak (c : Char) : Bool :=
  c = '\t' || c = '\n' || c = '\r'

/-- A text without line breaks and tabulators. -/
def unbroken (text : Text) : Text :=
  text.filter fun c => !isBreak c

/-- Whether a name is one dot, which may be escaped. -/
def isDot (name : Text) : Bool :=
  [".", "%2e"].contains (String.ofList (name.map Char.toLower))

/-- Whether a name is two dots, which may be escaped. -/
def isDots (name : Text) : Bool :=
  ["..", ".%2e", "%2e.", "%2e%2e"].contains (String.ofList (name.map Char.toLower))

/-- Whether a name is that of a drive: a letter and a colon or a bar, behind which a backslash may
set something apart. -/
def isDrive : Text → Bool
  | c :: mark :: rest =>
    c.isAlpha && (mark = ':' || mark = '|') && rest.head?.all (· = '\\')
  | _ => false

/-- The drive at the front of a name and what is parted from it, if anything is. -/
def parted? (name : Text) : Option (Text × Text) :=
  match name.span (· ≠ ':') with
  | (front, ':' :: mark :: rest) =>
    match unbroken front, unbroken rest with
    | [letter], c :: cs =>
      if letter.isAlpha && isBreak mark then some ([letter, ':'], c :: cs) else none
    | _, _ => none
  | _ => none

/-- A path as far as it has been read: its names, and whether a drive stands at its front from which
nothing is parted. -/
structure Trail where
  names : List Text := []
  onDrive : Bool := false

namespace Trail

/-- A path with one more name. The drive at the front of the path of a file is written with a colon;
what is parted from it is a name, whatever it looks like. -/
def push (isFile : Bool) (t : Trail) (name : Text) : Trail :=
  let isFront := isFile && t.names.isEmpty
  match if isFront then parted? name else none with
  | some (drive, rest) => { t with names := [drive, escape inPath rest] }
  | none =>
    let name := unbroken name
    if isFront && isDrive name then { names := [name.take 1 ++ [':']], onDrive := true }
    else { t with names := t.names ++ [escape inPath name] }

/-- A path without its last name. -/
def shorten (t : Trail) : Trail :=
  { t with names := if t.names.getLast?.any isDrive then t.names else t.names.dropLast }

/-- A path that ends in a slash. -/
def close (t : Trail) : Trail :=
  { t with names := t.names ++ [[]] }

/-- Reads the rest of a path, name by name. Dots at the end leave a slash there. -/
def walk (isFile : Bool) (t : Trail) : List Text → Trail
  | [] => t
  | [last] =>
    if isDots (unbroken last) then t.shorten.close
    else if isDot (unbroken last) then t.close
    else t.push isFile last
  | name :: rest =>
    if isDots (unbroken name) then walk isFile t.shorten rest
    else if isDot (unbroken name) then walk isFile t rest
    else walk isFile (t.push isFile name) rest

end Trail

/-- The path of a file, which is told without its first slash. -/
def filePath (text : Text) : Trail :=
  Trail.walk true {} (text.splitOn '/')

/-- The names of any other path, which is told without its first slash. -/
def plainPath (text : Text) : List Text :=
  (Trail.walk false {} (text.splitOn '/')).names

/-- The written form of a path. -/
def printPath (names : List Text) : Text :=
  if names.isEmpty then ['/'] else names.flatMap fun name => '/' :: name

/-- The written form of the path of a file, which has no empty names in front. -/
def printFilePath (t : Trail) : Text :=
  printPath (t.names.dropWhile List.isEmpty)

end SyntaxWatch.Uri
