import SyntaxWatch.Uri.Host

/-!
# Authorities

Between the two slashes and the path, a URI may name a user with a password, a host, and the number
of a service. A number that goes without saying is left out.

## Main definitions

* `Uri.user`: the written form of a user.
* `Uri.service`: the written form of the number of a service.
* `Uri.authority`: the written form of an authority, and what follows it.
-/

namespace SyntaxWatch.Uri

/-- The written form of a user with a password, with the sign behind it. A user without a name and
a password is left out. -/
def user (text : Text) : Text :=
  let (name, rest) := text.span (· ≠ ':')
  let password := rest.drop 1
  if name.isEmpty && password.isEmpty then []
  else escape inUser name ++ (if password.isEmpty then [] else ':' :: escape inUser password) ++
    ['@']

/-- A text up to its last `@`, if it has one, and what follows. -/
def splitUser (text : Text) : Option Text × Text :=
  let back := text.reverse
  match back.dropWhile (· ≠ '@') with
  | [] => (none, text)
  | _ :: front => (some front.reverse, (back.takeWhile (· ≠ '@')).reverse)

/-- A text up to its first colon outside brackets, and from there on. -/
def splitHost (inside : Bool) : Text → Text × Text
  | [] => ([], [])
  | c :: rest =>
    if c = ':' ∧ !inside then ([], c :: rest)
    else
      let (host, tail) := splitHost (c = '[' || (inside && c ≠ ']')) rest
      (c :: host, tail)

/-- The written form of the number of a service, with its colon, and what follows it, which is
nothing or begins with a backslash. -/
def service (usual : Option Nat) : Text → Except Fault (Text × Text)
  | ':' :: text =>
    let (digits, rest) := text.span Char.isDigit
    let number := Nat.ofDigitChars 10 digits 0
    if 65535 < number ∨ rest.head?.any (· ≠ '\\') then .error .service
    else if digits.isEmpty ∨ some number = usual then .ok ([], rest)
    else .ok (':' :: Decimal.print number, rest)
  | rest => .ok ([], rest)

/-- The written form of an authority, and what follows it, given how hosts are read, whether there
has to be one, the usual number of the service, and whether the URI goes on behind the text. -/
def authority (host : Text → Except Fault Host) (needsHost : Bool) (usual : Option Nat)
    (goesOn : Bool) (text : Text) : Except Fault (Text × Text) := do
  let (named, rest) := splitUser text
  let shownUser := (named.map user).getD []
  if named = some [] ∧ rest.isEmpty ∧ goesOn then throw .noHost
  let (hostText, tail) := splitHost false rest
  if needsHost && hostText.isEmpty then throw .noHost
  let found ← host hostText
  if found.isEmpty && !tail.isEmpty then throw .noHost
  let (shownService, behind) ← service usual tail
  if found.isEmpty && !shownUser.isEmpty then throw .noHost
  return (shownUser ++ found.text ++ shownService, behind)

end SyntaxWatch.Uri
