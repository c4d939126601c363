/-
# OwnerCache.Proofs.Json.RoundTrip -- what is stored and said comes back from its text

Blocks, identities, ranges and the records of providers are decoded from their documents to what
they were (`ofJson?_toJson`), and their documents can be written (`toJson_isWritable`).  So they
come back from their text (`bind_ofText?_toJson`): with any characters in their texts, any instant
as their time, and any numbers that have 64 bits as their ids.
-/
import OwnerCache.Proofs.Json.Decode
import OwnerCache.Proofs.Time.Rfc3339
import OwnerCache.Store.Document
import OwnerCache.Whois.Record

namespace OwnerCache

set_option autoImplicit false

open Json

/-! ## Stored things -/

namespace Block

theorem ofJson?_toJson (b : Block) : ofJson? b.toJson = some b := by
  have given : b.toJson.fields? ["first", "last"] =
      some [.given (.ofString b.first.text), .given (.ofString b.last.text)] :=
    fields?_ofFields (by simp)
  simp [ofJson?, given, Field.required?, asAddress?_ofString]

theorem toJson_isWritable (b : Block) : b.toJson.IsWritable := by
  refine ofFields_isWritable ?_
  simp [ofString_isWritable]

end Block

namespace Identity

theorem ofJson?_toJson {i : Identity} (fits : Wide.Fits i.id) : ofJson? i.toJson = some i := by
  have given : i.toJson.fields? ["id", "name", "country"] =
      some [.given (.ofInt i.id), .given (.ofOption .ofString i.name),
        .given (.ofOption .ofString i.country)] := fields?_ofFields (by simp)
  simp [ofJson?, given, Field.required?, Field.optional?, asInt64?_ofInt fits, nullable?_asString?]

theorem toJson_isWritable (i : Identity) : i.toJson.IsWritable := by
  refine ofFields_isWritable ?_
  simp [ofInt_isWritable, ofOption_isWritable ofString_isWritable]

end Identity

namespace AddressRange

theorem ofJson?_toJson {r : AddressRange} (fits : Wide.Fits r.id)
    (owner : ∀ id ∈ r.ownerId, Wide.Fits id) : ofJson? r.toJson = some r := by
  have given : r.toJson.fields? ["id", "range_from", "range_to", "owner_id", "created_at"] =
      some [.given (.ofInt r.id), .given (.ofNat r.block.first.value),
        .given (.ofNat r.block.last.value), .given (.ofOption .ofInt r.ownerId),
        .given (.ofString (Rfc3339.text r.createdAt))] := fields?_ofFields (by simp)
  have time : (asString? (ofString (Rfc3339.text r.createdAt))).bind
      (fun s => Rfc3339.read? s.toList) = some r.createdAt := by
    rw [asString?_ofString, Option.bind_some, Rfc3339.text, String.toList_ofList,
      Rfc3339.read?_write]
  simp [ofJson?, given, Field.required?, Field.optional?, asInt64?_ofInt fits,
    asAddressNumber?_ofNat, nullable?_asInt64? owner, time]

theorem toJson_isWritable (r : AddressRange) : r.toJson.IsWritable := by
  refine ofFields_isWritable ?_
  simp [ofInt_isWritable, ofNat_isWritable, ofOption_isWritable ofInt_isWritable,
    ofString_isWritable]

end AddressRange

/-! ## Records of providers -/

namespace Whois

namespace Net

theorem ofJson?_toJson (n : Net) : ofJson? n.toJson = some n := by
  have given : n.toJson.fields? ["cidr", "description", "country"] =
      some [.given (.ofOption .ofString n.cidr), .given (.ofOption .ofString n.description),
        .given (.ofOption .ofString n.country)] := fields?_ofFields (by simp)
  simp [ofJson?, given, Field.orElse?, nullable?_asString?]

theorem toJson_isWritable (n : Net) : n.toJson.IsWritable := by
  refine ofFields_isWritable ?_
  simp [ofOption_isWritable ofString_isWritable]

end Net

namespace Record

theorem ofJson?_toJson (r : Record) : ofJson? r.toJson = some r := by
  have given : r.toJson.fields? ["nets"] = some [.given (.array (r.nets.map Net.toJson))] :=
    fields?_ofFields (by simp)
  simp [ofJson?, given, Field.orElse?, asList?_map Net.ofJson?_toJson]

theorem toJson_isWritable (r : Record) : r.toJson.IsWritable := by
  refine ofFields_isWritable ?_
  have nets : (Json.array (r.nets.map Net.toJson)).IsWritable :=
    array_isWritable (List.forall_mem_map.mpr fun n _ => n.toJson_isWritable)
  simp [nets]

end Record

end Whois

/-! ## From texts -/

/-- What can be written, and is decoded from its document, is decoded from its text. -/
theorem Json.bind_ofText? {α : Type} {ofJson? : Json → Option α} {j : Json} {x : α}
    (writable : j.IsWritable) (decoded : ofJson? j = some x) :
    (ofText? j.text).bind ofJson? = some x := by
  rw [ofText?_text writable, Option.bind_some, decoded]

/-- **Texts give back what they were made of.**  Any range and any identity whose ids have 64 bits,
any block, and any record of a provider with its networks. -/
theorem bind_ofText?_toJson :
    (∀ r : AddressRange, Wide.Fits r.id → (∀ id ∈ r.ownerId, Wide.Fits id) →
      (Json.ofText? r.toJson.text).bind AddressRange.ofJson? = some r) ∧
    (∀ i : Identity, Wide.Fits i.id →
      (Json.ofText? i.toJson.text).bind Identity.ofJson? = some i) ∧
    (∀ b : Block, (Json.ofText? b.toJson.text).bind Block.ofJson? = some b) ∧
    (∀ n : Whois.Net, (Json.ofText? n.toJson.text).bind Whois.Net.ofJson? = some n) ∧
    ∀ r : Whois.Record, (Json.ofText? r.toJson.text).bind Whois.Record.ofJson? = some r := by
  refine ⟨fun r fits owner => ?_, fun i fits => ?_, fun b => ?_, fun n => ?_, fun r => ?_⟩
  · exact Json.bind_ofText? r.toJson_isWritable (AddressRange.ofJson?_toJson fits owner)
  · exact Json.bind_ofText? i.toJson_isWritable (Identity.ofJson?_toJson fits)
  · exact Json.bind_ofText? b.toJson_isWritable b.ofJson?_toJson
  · exact Json.bind_ofText? n.toJson_isWritable n.ofJson?_toJson
  · exact Json.bind_ofText? r.toJson_isWritable r.ofJson?_toJson

/-- The least and the greatest numbers and times, and a text that needs escapes. -/
theorem bind_ofText?_toJson_extremes :
    let greatest : Instant := ⟨Instant.greatestSecond, 999999999, by decide, by decide, by decide,
      fun leap => absurd leap (by decide)⟩
    let r (createdAt : Instant) : AddressRange := ⟨-0x8000000000000000,
      ⟨⟨0, by decide⟩, ⟨0xFFFFFFFF, by decide⟩⟩, some 0x7FFFFFFFFFFFFFFF, createdAt⟩
    let i : Identity := ⟨-1, some "\x00\x1f\"\\\u2028𝄞", none⟩
    (∀ t, Wide.Fits (r t).id ∧ ∀ id ∈ (r t).ownerId, Wide.Fits id) ∧ Wide.Fits i.id ∧
      (Json.ofText? (r .least).toJson.text).bind AddressRange.ofJson? = some (r .least) ∧
      (Json.ofText? (r greatest).toJson.text).bind AddressRange.ofJson? = some (r greatest) ∧
      (Json.ofText? i.toJson.text).bind Identity.ofJson? = some i := by
  intro greatest r i
  have fits : ∀ t, Wide.Fits (r t).id ∧ ∀ id ∈ (r t).ownerId, Wide.Fits id := by
    refine fun t => ⟨(by decide : Wide.Fits (-0x8000000000000000)), fun id mem => ?_⟩
    obtain rfl := Option.some.inj mem
    decide
  have fits' : Wide.Fits i.id := by decide
  obtain ⟨ranges, identities, -⟩ := bind_ofText?_toJson
  exact ⟨fits, fits', ranges _ (fits _).1 (fits _).2, ranges _ (fits _).1 (fits _).2,
    identities i fits'⟩

end OwnerCache
