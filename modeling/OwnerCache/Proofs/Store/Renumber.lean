/-
# OwnerCache.Proofs.Store.Renumber -- stores that are the same but for their numbers

Ids are given in the order of requests, and times are those of a clock, so what is stored
in another order is stored under other numbers.  Two stores are the `SameButNumbers` if
there are other ids for the ranges and the identities of the one that make it the other,
as lists in some order, but for the times.

What a store holds are its blocks, each with the name and the country of its owner
(`holding`).  That does not tell who owns what: two anonymous owners have the same label.
But in a sound store an anonymous owner has one range only, and an owner with a name is
alone with it, so blocks tell owners apart as far as labels do not.  If moreover every
identity owns a range (`Compact`), then stores that hold the same are the same but for
their numbers (`sameButNumbers`): an owner gets the id that the other store has for
the owner of one of its blocks, whichever that is (`ownerNumber_eq`).
-/
import Mathlib.Data.List.Pairwise
import Mathlib.Data.List.Perm.Basic
import OwnerCache.Proofs.Resolver.Sound
import OwnerCache.Proofs.Store.WellFormed

namespace OwnerCache

set_option autoImplicit false

/-- The name and the country of an identity. -/
def Identity.label (i : Identity) : Option String × Option String := (i.name, i.country)

/-- An identity under another id. -/
def Identity.renumber (number : Int → Int) (i : Identity) : Identity := { i with id := number i.id }

/-- Lists without repetitions whose elements have the same images, each in the other. -/
theorem perm_map_of_twins {α β γ : Type} {xs : List α} {ys : List β} {f : α → γ} {g : β → γ}
    (xsOnce : (xs.map f).Nodup) (ysOnce : (ys.map g).Nodup) (forth : ∀ x ∈ xs, ∃ y ∈ ys, f x = g y)
    (back : ∀ y ∈ ys, ∃ x ∈ xs, f x = g y) : (xs.map f).Perm (ys.map g) := by
  refine (List.perm_ext_iff_of_nodup xsOnce ysOnce).mpr fun z => ⟨fun mem => ?_, fun mem => ?_⟩
  · obtain ⟨x, here, rfl⟩ := List.mem_map.mp mem
    obtain ⟨y, there, same⟩ := forth x here
    exact List.mem_map.mpr ⟨y, there, same.symm⟩
  · obtain ⟨y, here, rfl⟩ := List.mem_map.mp mem
    obtain ⟨x, there, same⟩ := back y here
    exact List.mem_map.mpr ⟨x, there, same⟩

namespace Volatile

/-- A block with the name and the country of its owner. -/
def holding (v : Volatile) (r : AddressRange) : Block × Option (Option String × Option String) :=
  (r.block, (v.ownerOf r).map Identity.label)

/-- What a store holds. -/
def holdings (v : Volatile) : List (Block × Option (Option String × Option String)) :=
  v.ranges.map v.holding

/-- A sound store in which every identity owns a range. -/
structure Compact (v : Volatile) : Prop where
  wellFormed : v.WellFormed
  sound : v.Sound
  owning : ∀ i ∈ v.identities, ∃ r ∈ v.ranges, r.ownerId = some i.id

/-- The range is stored, and so is the identity that owns it. -/
structure Owns (v : Volatile) (i : Identity) (r : AddressRange) : Prop where
  range : r ∈ v.ranges
  identity : i ∈ v.identities
  id : r.ownerId = some i.id

variable {v w : Volatile} {r r' : AddressRange} {i j : Identity}

/-! ## Owners -/

namespace Compact

theorem exists_owns (compact : v.Compact) (mem : r ∈ v.ranges) : ∃ i, v.Owns i r := by
  obtain ⟨i, stored, owner⟩ := compact.sound.owned r mem
  exact ⟨i, mem, stored, owner⟩

theorem ownerOf_eq (compact : v.Compact) (owns : v.Owns i r) : v.ownerOf r = some i := by
  rw [ownerOf, owns.id, Option.bind_some, compact.wellFormed.identity?_of_mem owns.identity]

theorem ownerOf_eq_some (compact : v.Compact) (mem : r ∈ v.ranges) (stored : i ∈ v.identities) :
    v.ownerOf r = some i ↔ r.ownerId = some i.id := by
  obtain ⟨j, owns⟩ := compact.exists_owns mem
  constructor
  · intro owner
    rw [compact.ownerOf_eq owns] at owner
    rw [owns.id, Option.some.inj owner]
  · intro id
    exact compact.ownerOf_eq ⟨mem, stored, id⟩

/-- An identity with a name is alone with its label. -/
theorem eq_of_label (compact : v.Compact) (mem : i ∈ v.identities) (mem' : j ∈ v.identities)
    (named : i.name ≠ none) (same : i.label = j.label) : i = j := by
  by_contra other
  obtain ⟨name, country⟩ := Prod.mk.inj same
  have symmetric : Std.Symm fun i j : Identity =>
      i.name ≠ none → ¬ (i.name = j.name ∧ i.country = j.country) :=
    ⟨fun i j apart named both => apart (both.1 ▸ named) ⟨both.1.symm, both.2.symm⟩⟩
  exact compact.sound.names.forall mem mem' other named ⟨name, country⟩

/-- An identity without a name owns one range. -/
theorem eq_of_anonymous (compact : v.Compact) (anonymous : i.name = none) (owns : v.Owns i r)
    (owns' : v.Owns i r') : r = r' := by
  have once := compact.sound.anonymous i owns.identity anonymous
  rw [List.countP_eq_length_filter] at once
  have here : r ∈ v.ranges.filter (·.ownerId = some i.id) := by simp [owns.range, owns.id]
  have here' : r' ∈ v.ranges.filter (·.ownerId = some i.id) := by simp [owns'.range, owns'.id]
  rcases owned : v.ranges.filter (·.ownerId = some i.id) with _ | ⟨x, _ | ⟨y, rest⟩⟩
  · simp [owned] at here
  · rw [owned, List.mem_singleton] at here here'
    rw [here, here']
  · simp [owned] at once

end Compact

/-! ## The same ranges and owners in another store -/

/-- A range has a twin where the same is held. -/
theorem exists_twin (same : v.holdings.Perm w.holdings) (mem : r ∈ v.ranges) :
    ∃ r' ∈ w.ranges, r'.block = r.block ∧
      (w.ownerOf r').map Identity.label = (v.ownerOf r).map Identity.label := by
  obtain ⟨r', mem', twin⟩ := List.mem_map.mp (same.subset (List.mem_map_of_mem mem))
  exact ⟨r', mem', Prod.mk.inj twin⟩

section Twins

variable (hv : v.Compact) (hw : w.Compact) (same : v.holdings.Perm w.holdings)

include hv hw same

/-- Who owns a block in one store is called as who owns it in the other. -/
theorem label_eq (owns : v.Owns i r) (owns' : w.Owns j r') (block : r'.block = r.block) :
    i.label = j.label := by
  obtain ⟨x, mem, block', label⟩ := exists_twin same owns.range
  obtain rfl : x = r' := hw.wellFormed.eq_of_block mem owns'.range (block'.trans block.symm)
  rw [hv.ownerOf_eq owns, hw.ownerOf_eq owns'] at label
  exact (Option.some.inj label).symm

/-- What one identity owns here, one identity owns there. -/
theorem owner_eq {x x' : AddressRange} {k : Identity} (owns : v.Owns i r) (owns' : w.Owns j r')
    (block : r'.block = r.block) (further : v.Owns i x) (further' : w.Owns k x')
    (block' : x'.block = x.block) : j = k := by
  have label := label_eq hv hw same owns owns' block
  by_cases anonymous : i.name = none
  · obtain rfl := hv.eq_of_anonymous anonymous owns further
    obtain rfl := hw.wellFormed.eq_of_block owns'.range further'.range (block.trans block'.symm)
    have ids : some j.id = some k.id := owns'.id.symm.trans further'.id
    have known := hw.wellFormed.identity?_of_mem owns'.identity
    rw [Option.some.inj ids, hw.wellFormed.identity?_of_mem further'.identity] at known
    exact (Option.some.inj known).symm
  · have named : j.name ≠ none := by rwa [← (Prod.mk.inj label).1]
    exact hw.eq_of_label owns'.identity further'.identity named
      (label.symm.trans (label_eq hv hw same further further' block'))

end Twins

/-! ## Other numbers -/

/-- The id in `w` of the range with the block of the range with an id in `v`. -/
def rangeNumber (v w : Volatile) (id : Int) : Int :=
  ((v.ranges.find? (·.id = id)).bind fun r =>
    (w.ranges.find? (·.block = r.block)).map (·.id)).getD 0

/-- The id in `w` of who owns the first block there that the owner with an id has in `v`. -/
def ownerNumber (v w : Volatile) (id : Int) : Int :=
  ((v.ranges.find? (·.ownerId = some id)).bind fun r =>
    (w.ranges.find? (·.block = r.block)).bind (·.ownerId)).getD 0

section Numbers

variable (hv : v.Compact) (hw : w.Compact)

include hv hw

theorem rangeNumber_eq (mem : r ∈ v.ranges) (mem' : r' ∈ w.ranges) (block : r'.block = r.block) :
    rangeNumber v w r.id = r'.id := by
  have ids : (v.ranges.map (·.id)).Nodup := List.pairwise_map.mpr hv.wellFormed.rangeIds
  have found : v.ranges.find? (·.id = r.id) = some r :=
    find?_of_unique mem (by simp) fun x here same =>
      List.inj_on_of_nodup_map ids here mem (by simpa using same)
  simp [rangeNumber, found, hw.wellFormed.find?_block mem' block]

variable (same : v.holdings.Perm w.holdings)

include same

/-- Whichever of its blocks is looked at, an owner gets the id of who has the block in the other
store. -/
theorem ownerNumber_eq (owns : v.Owns i r) (owns' : w.Owns j r') (block : r'.block = r.block) :
    ownerNumber v w i.id = j.id := by
  have owned : (v.ranges.find? (·.ownerId = some i.id)).isSome :=
    List.find?_isSome.mpr ⟨r, owns.range, by simp [owns.id]⟩
  obtain ⟨x, found⟩ := Option.isSome_iff_exists.mp owned
  have further : v.Owns i x :=
    ⟨List.mem_of_find?_eq_some found, owns.identity, by simpa using List.find?_some found⟩
  obtain ⟨x', mem', block', -⟩ := exists_twin same further.range
  obtain ⟨k, further'⟩ := hw.exists_owns mem'
  obtain rfl := owner_eq hv hw same owns owns' block further further' block'
  simp [ownerNumber, found, hw.wellFormed.find?_block mem' block', further'.id]

/-- An identity becomes the one that owns the same in the other store. -/
theorem exists_renumber_eq (mem : i ∈ v.identities) :
    ∃ j ∈ w.identities, i.renumber (ownerNumber v w) = j ∧ ownerNumber w v j.id = i.id := by
  obtain ⟨r, stored, id⟩ := hv.owning i mem
  have owns : v.Owns i r := ⟨stored, mem, id⟩
  obtain ⟨r', mem', block, -⟩ := exists_twin same stored
  obtain ⟨j, owns'⟩ := hw.exists_owns mem'
  have forth := ownerNumber_eq hv hw same owns owns' block
  have back := ownerNumber_eq hw hv same.symm owns' owns block.symm
  obtain ⟨name, country⟩ := Prod.mk.inj (label_eq hv hw same owns owns' block)
  refine ⟨j, owns'.identity, ?_, back⟩
  rw [Identity.renumber, forth, Identity.ext_iff]
  exact ⟨rfl, name, country⟩

theorem identities_renumbered :
    (v.identities.map (Identity.renumber (ownerNumber v w))).Perm w.identities := by
  have once : (v.identities.map (Identity.renumber (ownerNumber v w))).Nodup := by
    refine List.Nodup.map_on (fun i mem i' mem' equal => ?_)
      (List.Nodup.of_map (·.id) (List.pairwise_map.mpr hv.wellFormed.identityIds))
    obtain ⟨j, -, rfl, back⟩ := exists_renumber_eq hv hw same mem
    obtain ⟨j', -, rfl, back'⟩ := exists_renumber_eq hv hw same mem'
    have ids : i.id = i'.id := by rw [← back, ← back', equal]
    have known := hv.wellFormed.identity?_of_mem mem
    rw [ids, hv.wellFormed.identity?_of_mem mem'] at known
    exact (Option.some.inj known).symm
  have once' : (w.identities.map id).Nodup := by
    rw [List.map_id]
    exact List.Nodup.of_map (·.id) (List.pairwise_map.mpr hw.wellFormed.identityIds)
  have twins := perm_map_of_twins once once' (fun i mem => ?_) (fun j mem => ?_)
  · rwa [List.map_id] at twins
  · obtain ⟨j, mem', equal, -⟩ := exists_renumber_eq hv hw same mem
    exact ⟨j, mem', equal⟩
  · obtain ⟨i, mem', rfl, back⟩ := exists_renumber_eq hw hv same.symm mem
    refine ⟨_, mem', ?_⟩
    rw [Identity.renumber, back]
    rfl

theorem exists_number_eq (mem : r ∈ v.ranges) :
    ∃ r' ∈ w.ranges, (rangeNumber v w r.id, r.block, r.ownerId.map (ownerNumber v w)) =
      (r'.id, r'.block, r'.ownerId) := by
  obtain ⟨r', mem', block, -⟩ := exists_twin same mem
  obtain ⟨i, owns⟩ := hv.exists_owns mem
  obtain ⟨j, owns'⟩ := hw.exists_owns mem'
  refine ⟨r', mem', ?_⟩
  rw [rangeNumber_eq hv hw mem mem' block, ← block, owns.id, owns'.id, Option.map_some,
    ownerNumber_eq hv hw same owns owns' block]

theorem ranges_renumbered :
    (v.ranges.map fun r => (rangeNumber v w r.id, r.block, r.ownerId.map (ownerNumber v w))).Perm
      (w.ranges.map fun r => (r.id, r.block, r.ownerId)) := by
  have once : (v.ranges.map fun r =>
      (rangeNumber v w r.id, r.block, r.ownerId.map (ownerNumber v w))).Nodup := by
    refine List.Nodup.of_map (·.2.1) ?_
    rw [List.map_map]
    exact List.pairwise_map.mpr hv.wellFormed.blocks
  have once' : (w.ranges.map fun r => (r.id, r.block, r.ownerId)).Nodup := by
    refine List.Nodup.of_map (·.2.1) ?_
    rw [List.map_map]
    exact List.pairwise_map.mpr hw.wellFormed.blocks
  refine perm_map_of_twins once once' (fun r mem => exists_number_eq hv hw same mem) fun r' mem' => ?_
  obtain ⟨r, mem, block, -⟩ := exists_twin same.symm mem'
  obtain ⟨i, owns⟩ := hv.exists_owns mem
  obtain ⟨j, owns'⟩ := hw.exists_owns mem'
  refine ⟨r, mem, ?_⟩
  rw [rangeNumber_eq hv hw mem mem' block.symm, ← block, owns.id, owns'.id, Option.map_some,
    ownerNumber_eq hv hw same owns owns' block.symm]

end Numbers

end Volatile

/-! ## Both stores -/

section

variable {σ τ : Type} [RangeStore σ] [Legible σ] [RangeStore τ] [Legible τ]

open Legible Meaningful

/-- The stores differ in the order, the ids and the times of what they hold, and in nothing else. -/
structure SameButNumbers (s : σ) (t : τ) : Prop where
  renumbered : ∃ range owner : Int → Int,
    ((ranges s).map fun r => (range r.id, r.block, r.ownerId.map owner)).Perm
        ((ranges t).map fun r => (r.id, r.block, r.ownerId)) ∧
      ((identities s).map (Identity.renumber owner)).Perm (identities t)
  /-- The same blocks are held for owners with the same name and country. -/
  holdings : ((ranges s).map fun r => (r.block, (ownerOf s r).map Identity.label)).Perm
    ((ranges t).map fun r => (r.block, (ownerOf t r).map Identity.label))
  /-- There are the same identities, and as many of them without a name. -/
  labels : ((identities s).map Identity.label).Perm ((identities t).map Identity.label)

/-- Every range has an owner, every identity owns a range, and one without a name owns one only. -/
structure OwnersMatch (s : σ) : Prop where
  owned : ∀ r ∈ ranges s, ∃ i ∈ identities s, ownerOf s r = some i
  owning : ∀ i ∈ identities s, ∃ r ∈ ranges s, ownerOf s r = some i
  anonymous : ∀ i ∈ identities s, i.name = none →
    (ranges s).countP (fun r => ownerOf s r = some i) = 1

/-- Compact stores that hold the same are the same but for their numbers. -/
theorem sameButNumbers {s : σ} {t : τ} {v w : Volatile} (means : Means s v) (means' : Means t w)
    (hv : v.Compact) (hw : w.Compact) (same : v.holdings.Perm w.holdings) : SameButNumbers s t := by
  have identical := Volatile.identities_renumbered hv hw same
  have labels : (v.identities.map Identity.label).Perm (w.identities.map Identity.label) := by
    have renamed := identical.map Identity.label
    rwa [List.map_map] at renamed
  refine ⟨⟨v.rangeNumber w, v.ownerNumber w, ?_, ?_⟩, ?_, ?_⟩
  · rw [ranges_eq means, ranges_eq means']
    exact Volatile.ranges_renumbered hv hw same
  · rwa [identities_eq means, identities_eq means']
  · simp only [ranges_eq means, ranges_eq means', ownerOf_eq means, ownerOf_eq means']
    exact same
  · rwa [identities_eq means, identities_eq means']

theorem ownersMatch {s : σ} {v : Volatile} (means : Means s v) (hv : v.Compact) : OwnersMatch s := by
  refine ⟨fun r mem => ?_, fun i mem => ?_, fun i mem anonymous => ?_⟩
  · rw [ranges_eq means] at mem
    obtain ⟨i, owns⟩ := hv.exists_owns mem
    rw [identities_eq means, ownerOf_eq means]
    exact ⟨i, owns.identity, hv.ownerOf_eq owns⟩
  · rw [identities_eq means] at mem
    obtain ⟨r, stored, id⟩ := hv.owning i mem
    rw [ranges_eq means]
    exact ⟨r, stored, by rw [ownerOf_eq means, hv.ownerOf_eq ⟨stored, mem, id⟩]⟩
  · rw [identities_eq means] at mem
    obtain ⟨r, stored, id⟩ := hv.owning i mem
    have once := hv.sound.anonymous i mem anonymous
    have least : 0 < v.ranges.countP (·.ownerId = some i.id) :=
      List.countP_pos_iff.mpr ⟨r, stored, by simpa using id⟩
    have alike : v.ranges.countP (fun x => ownerOf s x = some i) =
        v.ranges.countP (·.ownerId = some i.id) := by
      refine List.countP_congr fun x here => ?_
      simp only [ownerOf_eq means, decide_eq_true_eq]
      exact hv.ownerOf_eq_some here mem
    rw [ranges_eq means, alike]
    omega

end

end OwnerCache
