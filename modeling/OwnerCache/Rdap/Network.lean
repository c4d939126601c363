/-
# OwnerCache.Rdap.Network -- RDAP network objects

Of an RDAP `ip network` object these fields are read: the name, the country, the
bounds, the descriptions in its remarks and the networks of the `cidr0`
extension.  `toRecord` maps it to a record with one network:

* the listed IPv4 networks, joined by commas, or else the networks that cover
  the block between the bounds, as a given `cover` of blocks has them;
* the lines of the first remark that has any, or else the name;
* the country as it is.
-/
import OwnerCache.Net.Cover
import OwnerCache.Text.Blank
import OwnerCache.Whois.Record

namespace OwnerCache.Rdap

set_option autoImplicit false

structure Remark where
  description : List String := []
deriving DecidableEq, Repr

/-- An entry of the `cidr0` extension; only IPv4 entries have an IPv4 address. -/
structure ListedCidr where
  v4Address : Option String := none
  length : Option Nat := none
deriving DecidableEq, Repr

structure Network where
  name : Option String := none
  country : Option String := none
  startAddress : Option String := none
  endAddress : Option String := none
  remarks : List Remark := []
  cidrs : List ListedCidr := []
deriving DecidableEq, Repr

namespace Remark

def ofJson? (j : Json) : Option Remark := do
  match ← j.fields? ["description"] with
  | [description] =>
    return { description := ← description.orElse? [] (Json.asList? Json.asString?) }
  | _ => none

end Remark

namespace ListedCidr

def ofJson? (j : Json) : Option ListedCidr := do
  match ← j.fields? ["v4prefix", "length"] with
  | [address, length] =>
    return {
      v4Address := ← address.orElse? none (Json.Field.nullable? Json.asString?)
      length := ← length.orElse? none (Json.Field.nullable? (Json.asNatUpTo? 255)) }
  | _ => none

/-- The text of an IPv4 entry; without a length it is the bare address. -/
def write? (c : ListedCidr) : Option (List Char) :=
  c.v4Address.map fun address =>
    match c.length with
    | some length => address.toList ++ '/' :: Decimal.write length
    | none => address.toList

end ListedCidr

namespace Network

def ofJson? (j : Json) : Option Network := do
  match ← j.fields? ["name", "country", "startAddress", "endAddress", "remarks", "cidr0_cidrs"] with
  | [name, country, startAddress, endAddress, remarks, cidrs] =>
    let text := Json.Field.nullable? Json.asString?
    return {
      name := ← name.orElse? none text
      country := ← country.orElse? none text
      startAddress := ← startAddress.orElse? none text
      endAddress := ← endAddress.orElse? none text
      remarks := ← remarks.orElse? [] (Json.asList? Remark.ofJson?)
      cidrs := ← cidrs.orElse? [] (Json.asList? ListedCidr.ofJson?) }
  | _ => none

/-- Texts with a comma and a space between them; nothing for no texts. -/
def commaJoined? (texts : List (List Char)) : Option (List Char) :=
  if texts = [] then none else some ([',', ' '].intercalate texts)

/-- The IPv4 networks of the `cidr0` extension. -/
def listed (n : Network) : List (List Char) := n.cidrs.filterMap ListedCidr.write?

/-- The block between the bounds, if both are addresses. -/
def bounds? (n : Network) : Option Block := do
  let first ← Address.read? (Blank.trim (← n.startAddress).toList)
  let last ← Address.read? (Blank.trim (← n.endAddress).toList)
  return ⟨first, last⟩

/-- The networks that cover the block between the bounds. -/
def covering (n : Network) (cover : Block → List Cidr) : List (List Char) :=
  match n.bounds? with
  | some block => (cover block).map Cidr.write
  | none => []

def cidr? (n : Network) (cover : Block → List Cidr) : Option String :=
  ((commaJoined? n.listed).or (commaJoined? (n.covering cover))).map String.ofList

/-- The lines of the first remark that has any, or else the name. -/
def description? (n : Network) : Option String :=
  match n.remarks.find? (·.description ≠ []) with
  | some remark => some (String.ofList (['\n'].intercalate (remark.description.map String.toList)))
  | none => n.name

def toRecord (n : Network) (cover : Block → List Cidr) : Whois.Record :=
  { nets := [{ cidr := n.cidr? cover, description := n.description?, country := n.country }] }

end Network

end OwnerCache.Rdap
