/-
# OwnerCache.Url.Host -- whom a URL names

A host on the web is a domain name, an IPv6 address in brackets, or an IPv4
address in one to four numbers, each of them decimal, octal after `0` or
hexadecimal after `0x`.  A name whose last label is a number is such an address
or no host.  Elsewhere a host is an IPv6 address in brackets or a name of which
only some characters are ruled out.
-/
import OwnerCache.Net.Ipv6
import OwnerCache.Url.Domain
import OwnerCache.Url.Fault
import OwnerCache.Url.Percent

namespace OwnerCache.Url

set_option autoImplicit false

inductive Host where
  | named (text : List Char)
  | ipv4 (address : Address)
  | ipv6 (address : Ipv6)
deriving DecidableEq, Repr

namespace Host

def write : Host → List Char
  | .named text => text
  | .ipv4 a => a.write
  | .ipv6 a => ['['] ++ a.write ++ [']']

/-! ## Numbers -/

/-- A number of an IPv4 address; after the sign of its base it may be empty. -/
def number? : List Char → Option Nat
  | [] => none
  | '0' :: 'x' :: rest | '0' :: 'X' :: rest => Hex.read? rest
  | '0' :: rest =>
    if rest.all fun c => '0' ≤ c && c ≤ '7' then some (Nat.ofDigitChars 8 rest 0) else none
  | cs => Decimal.read? cs

/-- The parts between the dots of a name, a dot at its end aside. -/
def parts (name : List Char) : List (List Char) :=
  let all := name.splitOn '.'
  if all.getLastD [] = [] then all.dropLast else all

/-- Whether the last part of a name is a number, or digits only. -/
def endsInNumber (name : List Char) : Bool :=
  (parts name).getLast?.any fun last =>
    (!last.isEmpty && last.all Char.isDigit) || (number? last).isSome

/-- One to four numbers.  The last one fills all octets that the others leave. -/
def readIpv4? (name : List Char) : Option Address := do
  let numbers ← (parts name).mapM number?
  let front := numbers.dropLast
  let last ← numbers.getLast?
  if front.length ≤ 3 ∧ front.all (· < 0x100) ∧ last < 1 <<< (8 * (4 - front.length)) then
    Address.ofNat? (front.foldr (fun n rest => n * 0x1000000 + rest / 0x100) 0 + last)
  else none

/-! ## Hosts -/

/-- An address in brackets. -/
def readIpv6 (cs : List Char) : Except Fault Host :=
  match cs.reverse with
  | ']' :: inner =>
    match Ipv6.read? (inner.reverse.drop 1) with
    | some a => .ok (.ipv6 a)
    | none => .error .badIpv6
  | _ => .error .badIpv6

/-- A host on the web. -/
def read (cs : List Char) : Except Fault Host :=
  if cs.head? = some '[' then readIpv6 cs
  else
    match (Utf8.decode? (Percent.unescape cs)).bind Domain.ofChars? with
    | none => .error .badName
    | some [] => .error .emptyHost
    | some name =>
      if endsInNumber name then
        match readIpv4? name with
        | some a => .ok (.ipv4 a)
        | none => .error .badIpv4
      else .ok (.named name)

/-- A host elsewhere. -/
def readOpaque (cs : List Char) : Except Fault Host :=
  if cs.head? = some '[' then readIpv6 cs
  else if cs.any (['\x00', '\t', '\n', '\r', ' ', '#', '/', ':', '<', '>', '?', '@', '[', '\\', ']',
      '^', '|'].contains ·) then .error .badCharacter
  else .ok (.named (Percent.escape Percent.isControl cs))

end Host

end OwnerCache.Url
