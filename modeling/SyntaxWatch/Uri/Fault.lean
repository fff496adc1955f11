import SyntaxWatch.Text.Basic

/-!
# Faults of URIs

Why a text spells no URI, and how each cause is worded.
-/

namespace SyntaxWatch.Uri

/-- Why a text spells no URI. -/
inductive Fault where
  /-- There is no scheme, so the text can only be read from another URI. -/
  | relative
  /-- There is no host where one is needed. -/
  | noHost
  /-- The host is no domain name. -/
  | domain
  /-- The number of the service is none, or too large. -/
  | service
  /-- The host ends in a number, but is no address of four parts. -/
  | address4
  /-- The host stands in brackets, but is no address of eight parts. -/
  | address6
  /-- The host holds a character that no host may hold. -/
  | character
  deriving DecidableEq, Repr

/-- The wording of a fault. -/
def Fault.message : Fault → Text
  | relative => "relative URL without a base".toList
  | noHost => "empty host".toList
  | domain => "invalid international domain name".toList
  | service => "invalid port number".toList
  | address4 => "invalid IPv4 address".toList
  | address6 => "invalid IPv6 address".toList
  | character => "invalid domain character".toList

end SyntaxWatch.Uri
