/-
# OwnerCache.Proofs.Rdap.Bounds -- bounds sent as networks read back

A network object without listed networks is sent as the networks that cover the block
between its bounds, and these texts are read again for each address.  Which networks
cover a block is up to `cover`; all that counts is that the cover is exact
(`Cover.IsExact`), as `Cover.ofBlock` is.

`Spans record text b blocks` says that nothing of the block is lost or made up on the way:

* the pieces of the text denote blocks, one behind the other, that hold the addresses of
  the block and no others;
* for an address of the block one of them is found, which holds it;
* for any other address nothing is found.

Bounds in the wrong order have no cover, and their record has no text.
-/
import OwnerCache.Proofs.Net.Cover
import OwnerCache.Proofs.Whois.Listing
import OwnerCache.Rdap.Network

namespace OwnerCache.Rdap

set_option autoImplicit false

open Whois Whois.Finding

/-- The network text of a record spans a block in pieces, and reads back as such. -/
structure Spans (record : Record) (text : String) (b : Block) (blocks : List Block) : Prop where
  cidr : record.cidr? = some text
  denote : List.Forall₂ Denotes (pieces text.toList) blocks
  ascending : blocks.Pairwise fun c d => c.last < d.first
  mem_iff : ∀ a, (∃ c ∈ blocks, a ∈ c) ↔ a ∈ b
  inside : ∀ a ∈ b, ∃ f, ofRecord a record = .ok f ∧ f.block ∈ blocks ∧ a ∈ f.block ∧ f.block ⊆ b
  outside : ∀ a, a ∉ b → ofRecord a record =
    .error (if blocks.length = 1 then .addressOutOfRange a b else .noContainingCidr text a)

namespace Network

/-- Both bounds are addresses, blanks at their ends aside. -/
structure HasBounds (n : Network) (b : Block) : Prop where
  first : ∃ text, n.startAddress = some text ∧ Blank.trim text.toList = b.first.write
  last : ∃ text, n.endAddress = some text ∧ Blank.trim text.toList = b.last.write

theorem HasBounds.bounds?_eq {n : Network} {b : Block} (bounds : n.HasBounds b) :
    n.bounds? = some b := by
  obtain ⟨start, starts, first⟩ := bounds.first
  obtain ⟨stop, stops, last⟩ := bounds.last
  simp [bounds?, starts, stops, Address.read?_eq_some.mpr first, Address.read?_eq_some.mpr last]

section Cover

variable {n : Network} {b : Block} {cover : Block → List Cidr}

theorem listed_eq_nil (unlisted : ∀ c ∈ n.cidrs, c.v4Address = none) : n.listed = [] := by
  refine List.filterMap_eq_nil_iff.mpr fun c mem => ?_
  rw [ListedCidr.write?, unlisted c mem, Option.map_none]

/-- Without listed networks the text is that of the cover. -/
theorem cidr?_eq (unlisted : ∀ c ∈ n.cidrs, c.v4Address = none) (bounds : n.HasBounds b) :
    n.cidr? cover = (commaJoined? ((cover b).map Cidr.write)).map String.ofList := by
  rw [cidr?, listed_eq_nil unlisted, covering, bounds.bounds?_eq]
  rfl

theorem denotes_write {m : Cidr} (aligned : m.IsAligned) : Denotes m.write m.block :=
  ⟨m, Cidr.spells_write m, aligned, rfl⟩

theorem denote_cover (exact : Cover.IsExact b (cover b)) :
    List.Forall₂ Denotes ((cover b).map Cidr.write) ((cover b).map Cidr.block) := by
  rw [List.forall₂_map_left_iff, List.forall₂_map_right_iff, List.forall₂_same]
  exact fun m mem => denotes_write (exact.aligned m mem)

/-- The record of a cover is read as the list of its blocks. -/
theorem ofRecord_cover {text : String} (said : n.cidr? cover = some text)
    (joined : text.toList = [',', ' '].intercalate ((cover b).map Cidr.write))
    (exact : Cover.IsExact b (cover b)) (ordered : b.first ≤ b.last) (a : Address) :
    (ofRecord a (n.toRecord cover)).map Finding.block =
      match ((cover b).map Cidr.block).find? (a ∈ ·) with
      | some c => .ok c
      | none => .error (absent a text ((cover b).map Cidr.block)) :=
  ofNet_listing said joined (denote_cover exact) (by simpa using exact.nonempty ordered) a

/-- An address is said to be outside of the block if one network covers it, and else not to be
in the list. -/
theorem absent_cover (exact : Cover.IsExact b (cover b)) (a : Address) (text : String) :
    absent a text ((cover b).map Cidr.block) =
      if ((cover b).map Cidr.block).length = 1 then .addressOutOfRange a b
      else .noContainingCidr text a := by
  match nets : cover b with
  | [] => rfl
  | [m] =>
      rw [nets] at exact
      simp [absent, exact.block_eq]
  | _ :: _ :: _ => simp [absent]

theorem spans_of_joined {text : String} (said : n.cidr? cover = some text)
    (joined : text.toList = [',', ' '].intercalate ((cover b).map Cidr.write))
    (exact : Cover.IsExact b (cover b)) (ordered : b.first ≤ b.last) :
    Spans (n.toRecord cover) text b ((cover b).map Cidr.block) where
  cidr := said
  denote := by
    rw [joined, pieces_intercalate (denote_cover exact) (by simpa using exact.nonempty ordered)]
    exact denote_cover exact
  ascending := List.pairwise_map.mpr exact.ascending
  mem_iff a := by simpa using exact.mem_iff a
  inside a mem := by
    have read := ofRecord_cover said joined exact ordered a
    cases first : ((cover b).map Cidr.block).find? (a ∈ ·) with
    | none =>
        obtain ⟨m, here, holds⟩ := (exact.mem_iff a).mpr mem
        simpa [holds] using List.find?_eq_none.mp first m.block (List.mem_map_of_mem here)
    | some c =>
        rw [first] at read
        obtain ⟨f, found, rfl⟩ := exists_of_map_block read
        have here := List.mem_of_find?_eq_some first
        obtain ⟨m, listed, same⟩ := List.mem_map.mp here
        refine ⟨f, found, here, by simpa using List.find?_some first, ?_⟩
        rw [← same]
        exact exact.subset listed
  outside a out := by
    have read := ofRecord_cover said joined exact ordered a
    have nowhere : ((cover b).map Cidr.block).find? (a ∈ ·) = none := by
      refine List.find?_eq_none.mpr fun c here => ?_
      obtain ⟨m, listed, rfl⟩ := List.mem_map.mp here
      simpa using fun holds => out (exact.subset listed a holds)
    rw [nowhere, absent_cover exact] at read
    exact eq_error_of_map_block read

end Cover

/-- **Bounds are read back.**  A network object without listed networks, whose bounds are
addresses, is sent as any exact cover of the block between them, such as the one that is used.
If the bounds are in order, the record spans that block; otherwise it has no text. -/
theorem toRecord_spans (n : Network) {b : Block} (unlisted : ∀ c ∈ n.cidrs, c.v4Address = none)
    (bounds : n.HasBounds b) :
    Cover.IsExact b (Cover.ofBlock b) ∧
      ∀ cover : Block → List Cidr, Cover.IsExact b (cover b) →
        (b.first ≤ b.last →
          ∃ text, Spans (n.toRecord cover) text b ((cover b).map Cidr.block)) ∧
        (b.last < b.first →
          ∀ a, ofRecord a (n.toRecord cover) = .error .missingCidr) := by
  refine ⟨Cover.ofBlock_isExact b, fun cover exact => ⟨fun ordered => ?_, fun reversed a => ?_⟩⟩
  · have nonempty : (cover b).map Cidr.write ≠ [] := by simpa using exact.nonempty ordered
    have said : n.cidr? cover =
        some (String.ofList ([',', ' '].intercalate ((cover b).map Cidr.write))) := by
      rw [cidr?_eq unlisted bounds, commaJoined?, if_neg nonempty, Option.map_some]
    exact ⟨_, spans_of_joined said String.toList_ofList exact ordered⟩
  · have missing : n.cidr? cover = none := by
      rw [cidr?_eq unlisted bounds, exact.eq_nil reversed]
      rfl
    change ofNet a ⟨n.cidr? cover, _, _⟩ = _
    rw [ofNet, missing]

/-- Two networks cover the block between these bounds, and bounds in the wrong order have none. -/
theorem toRecord_spans_two :
    (let n : Network := ⟨none, none, some " 1.2.3.0", some "1.2.4.255\n", [], [⟨none, some 64⟩]⟩
     let b : Block := ⟨.ofOctets 1 2 3 0, .ofOctets 1 2 4 255⟩
     ∃ text, Spans (n.toRecord Cover.ofBlock) text b ((Cover.ofBlock b).map Cidr.block)) ∧
    (let n : Network := ⟨none, none, some "1.2.3.255", some "1.2.3.0", [], []⟩
     ∀ a, ofRecord a (n.toRecord Cover.ofBlock) = .error .missingCidr) := by
  refine ⟨?_, ?_⟩
  · have spanned := toRecord_spans
      ⟨none, none, some " 1.2.3.0", some "1.2.4.255\n", [], [⟨none, some 64⟩]⟩
      (b := ⟨.ofOctets 1 2 3 0, .ofOctets 1 2 4 255⟩) (by simp)
      ⟨⟨" 1.2.3.0", rfl, by decide⟩, ⟨"1.2.4.255\n", rfl, by decide⟩⟩
    exact (spanned.2 Cover.ofBlock spanned.1).1 (by decide)
  · have spanned := toRecord_spans ⟨none, none, some "1.2.3.255", some "1.2.3.0", [], []⟩
      (b := ⟨.ofOctets 1 2 3 255, .ofOctets 1 2 3 0⟩) (by simp)
      ⟨⟨"1.2.3.255", rfl, by decide⟩, ⟨"1.2.3.0", rfl, by decide⟩⟩
    exact (spanned.2 Cover.ofBlock spanned.1).2 (by decide)

end Network

end OwnerCache.Rdap
