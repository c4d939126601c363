/-
# OwnerCache.Url.Fault -- why a text is no URL

Each cause says which part of the text broke a rule.  `message` is its wording.
-/
namespace OwnerCache.Url

set_option autoImplicit false

inductive Fault where
  /-- no scheme at the start -/
  | relative
  | emptyHost
  /-- a domain name that has no spelling in ASCII -/
  | badName
  | badService
  | badIpv4
  | badIpv6
  /-- a host outside the web with a character that no host has -/
  | badCharacter
deriving DecidableEq, Repr

def Fault.message : Fault → String
  | .relative => "relative URL without a base"
  | .emptyHost => "empty host"
  | .badName => "invalid international domain name"
  | .badService => "invalid port number"
  | .badIpv4 => "invalid IPv4 address"
  | .badIpv6 => "invalid IPv6 address"
  | .badCharacter => "invalid domain character"

end OwnerCache.Url
