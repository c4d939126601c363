/-
# OwnerCache.Whois.Record -- what a provider says about an address

A record lists networks.  Every field of a network is free text and may be
missing; what the texts mean is decided when a record is read for an address
(`OwnerCache.Whois.Finding`).  As JSON a record is an object with the member
`nets`, and both levels may leave fields out.
-/
import OwnerCache.Json.Decode
import OwnerCache.Json.Writer

namespace OwnerCache.Whois

set_option autoImplicit false

structure Net where
  /-- One network, or several separated by commas. -/
  cidr : Option String := none
  /-- Free text, possibly of several lines. -/
  description : Option String := none
  country : Option String := none
deriving DecidableEq, Repr

structure Record where
  nets : List Net := []
deriving DecidableEq, Repr

namespace Net

def toJson (n : Net) : Json :=
  .ofFields [("cidr", .ofOption .ofString n.cidr),
    ("description", .ofOption .ofString n.description),
    ("country", .ofOption .ofString n.country)]

def ofJson? (j : Json) : Option Net := do
  match ← j.fields? ["cidr", "description", "country"] with
  | [cidr, description, country] =>
    return {
      cidr := ← cidr.orElse? none (Json.Field.nullable? Json.asString?)
      description := ← description.orElse? none (Json.Field.nullable? Json.asString?)
      country := ← country.orElse? none (Json.Field.nullable? Json.asString?) }
  | _ => none

end Net

namespace Record

def toJson (r : Record) : Json := .ofFields [("nets", .array (r.nets.map Net.toJson))]

def ofJson? (j : Json) : Option Record := do
  match ← j.fields? ["nets"] with
  | [nets] => return { nets := ← nets.orElse? [] (Json.asList? Net.ofJson?) }
  | _ => none

end Record

end OwnerCache.Whois
