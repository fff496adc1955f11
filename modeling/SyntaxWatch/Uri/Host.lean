import SyntaxWatch.Domain.Basic
import SyntaxWatch.Uri.Address
import SyntaxWatch.Uri.Escape

/-!
# Hosts

The host of a URI is a name or an address. The hosts of files and of the web are domain names, whose
escapes are undone; a domain name that ends in a number has to be an address. The hosts of other
schemes are taken as they come.

## Main definitions

* `Uri.Host`: the hosts, and `Uri.Host.text`: their written form.
* `Uri.Host.ofText`: the host that a text spells for a file or on the web.
* `Uri.Host.ofPlainText`: the host that a text spells in any other scheme.
-/

namespace SyntaxWatch.Uri

/-- The host of a URI. -/
inductive Host where
  /-- A name, which is empty when there is no host. -/
  | name (text : Text)
  | address4 (number : Nat)
  | address6 (parts : List Nat)
  deriving DecidableEq, Repr

namespace Host

/-- The written form of a host. -/
def text : Host → Text
  | name text => text
  | address4 number => printAddress4 number
  | address6 parts => '[' :: printAddress6 parts ++ [']']

/-- Whether there is no host. -/
def isEmpty (h : Host) : Bool :=
  h = name []

/-- The address that a text in brackets spells, without the first bracket. -/
def ofBrackets (rest : Text) : Except Fault Host :=
  if rest.getLast? ≠ some ']' then .error .address6
  else match Uri.address6? rest.dropLast with
    | some parts => .ok (.address6 parts)
    | none => .error .address6

/-- The host that a domain name in ASCII spells. -/
def ofDomain (domain : Text) : Except Fault Host :=
  if domain = [] then .error .noHost
  else if endsInNumber domain then
    match Uri.address4? domain with
    | some number => .ok (.address4 number)
    | none => .error .address4
  else .ok (.name domain)

/-- The host that a text spells for a file or on the web. -/
def ofText : Text → Except Fault Host
  | '[' :: rest => ofBrackets rest
  | text =>
    match (Utf8.decode? (unescape text)).bind Domain.ascii? with
    | some domain => ofDomain domain
    | none => .error .domain

/-- The characters that no host may hold. -/
def forbidden : List Char :=
  ['\x00', ' ', '#', '/', ':', '<', '>', '?', '@', '[', '\\', ']', '^', '|']

/-- The host that a text spells in any other scheme. -/
def ofPlainText : Text → Except Fault Host
  | '[' :: rest => ofBrackets rest
  | text => if text.any forbidden.contains then .error .character else .ok (.name (escape [] text))

end Host

end SyntaxWatch.Uri
