/-
# OwnerCache.Store.Document -- the JSON form of stored things

Blocks, ranges, identities and resolutions as JSON.  What is written is read back
the same; of a resolution only the written form is of use.
-/
import OwnerCache.Json.Decode
import OwnerCache.Json.Writer
import OwnerCache.Store.Entity
import OwnerCache.Time.Rfc3339

namespace OwnerCache

set_option autoImplicit false

/-! ## Blocks -/

namespace Block

def toJson (b : Block) : Json :=
  .ofFields [("first", .ofString b.first.text), ("last", .ofString b.last.text)]

def ofJson? (j : Json) : Option Block := do
  match ← j.fields? ["first", "last"] with
  | [first, last] =>
    return ⟨← first.required? Json.asAddress?, ← last.required? Json.asAddress?⟩
  | _ => none

end Block

/-! ## Identities -/

namespace Identity

def toJson (i : Identity) : Json :=
  .ofFields [("id", .ofInt i.id), ("name", .ofOption .ofString i.name),
    ("country", .ofOption .ofString i.country)]

def ofJson? (j : Json) : Option Identity := do
  match ← j.fields? ["id", "name", "country"] with
  | [id, name, country] =>
    return {
      id := ← id.required? Json.asInt64?
      name := ← name.optional? Json.asString?
      country := ← country.optional? Json.asString? }
  | _ => none

end Identity

/-! ## Ranges -/

namespace AddressRange

def toJson (r : AddressRange) : Json :=
  .ofFields [("id", .ofInt r.id), ("range_from", .ofNat r.block.first.value),
    ("range_to", .ofNat r.block.last.value), ("owner_id", .ofOption .ofInt r.ownerId),
    ("created_at", .ofString (Rfc3339.text r.createdAt))]

def ofJson? (j : Json) : Option AddressRange := do
  match ← j.fields? ["id", "range_from", "range_to", "owner_id", "created_at"] with
  | [id, first, last, owner, created] =>
    return {
      id := ← id.required? Json.asInt64?
      block := ⟨← first.required? Json.asAddressNumber?, ← last.required? Json.asAddressNumber?⟩
      ownerId := ← owner.optional? Json.asInt64?
      createdAt := ← created.required? fun j => j.asString?.bind fun s => Rfc3339.read? s.toList }
  | _ => none

end AddressRange

/-! ## Resolutions -/

namespace Resolution

def fields (r : Resolution) : List (String × Json) :=
  [("owner", .ofOption Identity.toJson r.owner), ("created", .bool r.created)]

def toJson (r : Resolution) : Json := .ofFields r.fields

end Resolution

end OwnerCache
