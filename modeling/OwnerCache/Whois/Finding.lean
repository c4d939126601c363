/-
# OwnerCache.Whois.Finding -- what a record means for an address

A finding is the block an address belongs to, with the name and the country of
its owner.  `ofRecord` reads it from the first network of a record.  The block
has to hold the address, so that an answer about something else is never kept.

The network text is a single network or, as soon as it has a comma, a list; of a
list the first network that holds the address counts, and items after it are not
looked at.  A single network is an address/length pair without free bits set, or
an address in its canonical form, which stands for itself.
-/
import OwnerCache.Net.Cidr
import OwnerCache.Whois.Country
import OwnerCache.Whois.Description
import OwnerCache.Whois.Error
import OwnerCache.Whois.Record

namespace OwnerCache.Whois

set_option autoImplicit false

structure Finding where
  description : Option String
  country : Option String
  block : Block
deriving DecidableEq, Repr

namespace Finding

/-- The finding for an address in a special-purpose network: the address alone, under the
name of the network. -/
def reserved (a : Address) (name : String) : Finding := ⟨some name, none, .single a⟩

/-- A network in either notation. -/
def readNetwork? (cs : List Char) : Option Cidr :=
  (Cidr.read? cs).or ((Address.read? cs).map Cidr.ofAddress)

/-- The block of a single network, blanks at its ends aside. -/
def readBlock (cs : List Char) : Except Error Block :=
  let text := Blank.trim cs
  match readNetwork? text with
  | some net =>
    if net.IsAligned then .ok net.block else .error (.malformedCidr (String.ofList text))
  | none => .error (.malformedCidr (String.ofList text))

/-- The items of a list, without blanks at their ends; blank items do not count. -/
def items (cs : List Char) : List (List Char) :=
  ((cs.splitOn ',').map Blank.trim).filter (· ≠ [])

/-- The first block of the items that holds the address, unless an item before it is malformed. -/
def firstHolding (a : Address) : List (List Char) → Except Error (Option Block)
  | [] => .ok none
  | item :: rest => do
    let block ← readBlock item
    if a ∈ block then return some block else firstHolding a rest

/-- The block of a network text for an address. -/
def selectBlock (a : Address) (cs : List Char) : Except Error Block :=
  if ',' ∈ cs then do
    match ← firstHolding a (items cs) with
    | some block => return block
    | none => throw (.noContainingCidr (String.ofList cs) a)
  else readBlock cs

/-- A block that is one and holds the address. -/
def checkBlock (a : Address) (block : Block) : Except Error Block :=
  if block.last < block.first then .error (.invalidRange block)
  else if a ∈ block then .ok block
  else .error (.addressOutOfRange a block)

def ofNet (a : Address) (net : Net) : Except Error Finding :=
  match net.cidr with
  | none => .error .missingCidr
  | some cidr => do
    let block ← checkBlock a (← selectBlock a cidr.toList)
    return {
      description := net.description.bind Description.format?
      country := net.country.bind Country.normalize?
      block := block }

/-- What a record says about an address: its first network decides. -/
def ofRecord (a : Address) (record : Record) : Except Error Finding :=
  match record.nets with
  | [] => .error .emptyResult
  | net :: _ => ofNet a net

end Finding

end OwnerCache.Whois
