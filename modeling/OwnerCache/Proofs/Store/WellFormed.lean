/-
# OwnerCache.Proofs.Store.WellFormed -- stores in which ids and blocks differ

A store is well formed if no row is corrupt, ids are told apart, and no block is
stored twice.  Nothing is asked of owners: a range may have none, or one that is
not stored (`Owned` asks for more).  Nor do ids have to grow along the rows, which
may have been put in from outside.

`Legible` is what both stores have in common for this: the ranges and identities
that can be read off them, and which of them mean something (`Intact`).  What a
well-formed store means is well formed (`WellFormed.exists_means`), and storing a
finding and deleting ranges keep it so (`Volatile.WellFormed.effect`,
`Volatile.WellFormed.keep`).
-/
import Mathlib.Data.List.Nodup
import OwnerCache.Proofs.Store.Effect

namespace OwnerCache

set_option autoImplicit false

/-! ## In memory -/

namespace Volatile

/-- An element that alone passes a test is the first to pass it. -/
theorem find?_of_unique {α : Type} {test : α → Bool} {xs : List α} {x : α} (mem : x ∈ xs)
    (passes : test x) (unique : ∀ y ∈ xs, test y → y = x) : xs.find? test = some x := by
  obtain ⟨y, found⟩ := Option.isSome_iff_exists.mp (List.find?_isSome.mpr ⟨x, mem, passes⟩)
  rw [found, unique y (List.mem_of_find?_eq_some found) (List.find?_some found)]

/-- Ids and blocks differ, and no id is beyond the last ones given. -/
structure WellFormed (v : Volatile) : Prop where
  rangeIds : v.ranges.Pairwise (·.id ≠ ·.id)
  range_le : ∀ r ∈ v.ranges, r.id ≤ v.lastRangeId
  identityIds : v.identities.Pairwise (·.id ≠ ·.id)
  identity_le : ∀ i ∈ v.identities, i.id ≤ v.lastIdentityId
  blocks : v.ranges.Pairwise (·.block ≠ ·.block)

namespace WellFormed

variable {v v' : Volatile}

theorem empty : WellFormed {} := by
  constructor <;> simp

theorem place (h : v.WellFormed) {block : Block} (time : Instant) (owner : Identity)
    (absent : ∀ r ∈ v.ranges, r.block ≠ block) : (v.place block time owner).WellFormed where
  rangeIds := by
    refine List.pairwise_append.mpr ⟨h.rangeIds, by simp, ?_⟩
    intro r mem x hx
    obtain rfl := List.mem_singleton.mp hx
    have := h.range_le r mem
    simp only
    omega
  range_le := by
    refine forall_mem_place (fun r mem => ?_) (Int.le_refl _)
    have := h.range_le r mem
    simp only [Volatile.place]
    omega
  identityIds := h.identityIds
  identity_le := h.identity_le
  blocks := by
    refine List.pairwise_append.mpr ⟨h.blocks, by simp, ?_⟩
    intro r mem x hx
    obtain rfl := List.mem_singleton.mp hx
    exact absent r mem

theorem createIdentity (h : v.WellFormed) (name country : Option String) :
    (Volatile.createIdentity name country v).2.WellFormed where
  rangeIds := h.rangeIds
  range_le := h.range_le
  identityIds := by
    refine List.pairwise_append.mpr ⟨h.identityIds, by simp, ?_⟩
    intro i mem x hx
    obtain rfl := List.mem_singleton.mp hx
    have := h.identity_le i mem
    simp only
    omega
  identity_le := by
    intro i mem
    rcases List.mem_append.mp mem with mem | mem
    · have := h.identity_le i mem
      simp only [Volatile.createIdentity]
      omega
    · obtain rfl := List.mem_singleton.mp mem
      exact Int.le_refl _
  blocks := h.blocks

/-- Ids may be passed over. -/
theorem skip (h : v.WellFormed) {id : Int} (le : v.lastRangeId ≤ id) :
    WellFormed { v with lastRangeId := id } where
  rangeIds := h.rangeIds
  range_le r mem := Int.le_trans (h.range_le r mem) le
  identityIds := h.identityIds
  identity_le := h.identity_le
  blocks := h.blocks

theorem effect (h : v.WellFormed) {f : Whois.Finding} {result : Except StoreError Resolution}
    (effect : v.Effect f result v') : v'.WellFormed := by
  cases effect with
  | refused e => exact h
  | present range mem same id le => exact h.skip le
  | shared absent owner known time id le => exact (h.place time owner absent).skip le
  | created absent unknown time id le =>
      exact ((h.createIdentity f.description f.country).place time _ absent).skip le

theorem keep (h : v.WellFormed) (test : AddressRange → Bool) : (v.keep test).WellFormed where
  rangeIds := h.rangeIds.filter test
  range_le r mem := h.range_le r (List.mem_filter.mp mem).1
  identityIds := h.identityIds
  identity_le := h.identity_le
  blocks := h.blocks.filter test

/-- An identity that is stored is the one under its id. -/
theorem identity?_of_mem (h : v.WellFormed) {i : Identity} (mem : i ∈ v.identities) :
    v.identity? i.id = some i := by
  have ids : (v.identities.map (·.id)).Nodup := List.pairwise_map.mpr h.identityIds
  refine find?_of_unique mem (by simp) fun j mem' same => ?_
  exact List.inj_on_of_nodup_map ids mem' mem (by simpa using same)

/-- A block is stored in one range. -/
theorem eq_of_block (h : v.WellFormed) {r r' : AddressRange} (mem : r ∈ v.ranges)
    (mem' : r' ∈ v.ranges) (same : r.block = r'.block) : r = r' :=
  List.inj_on_of_nodup_map (f := AddressRange.block) (List.pairwise_map.mpr h.blocks) mem mem' same

/-- A range that is stored is the one with its block. -/
theorem find?_block (h : v.WellFormed) {r : AddressRange} (mem : r ∈ v.ranges) {block : Block}
    (same : r.block = block) : v.ranges.find? (·.block = block) = some r :=
  find?_of_unique mem (by simp [same]) fun _ mem' same' =>
    h.eq_of_block mem' mem ((of_decide_eq_true same').trans same.symm)

theorem countP_block (h : v.WellFormed) {r : AddressRange} (mem : r ∈ v.ranges) :
    v.ranges.countP (·.block = r.block) = 1 := by
  have blocks : (v.ranges.map (·.block)).Nodup := List.pairwise_map.mpr h.blocks
  have one := List.count_eq_one_of_mem blocks (List.mem_map_of_mem mem)
  rw [List.count, List.countP_map] at one
  exact (List.countP_congr fun _ _ => by simp).trans one

end WellFormed

variable {f : Whois.Finding} {v v' : Volatile} {res : Resolution}

/-- After a finding is stored its block is, and its owner is the one returned. -/
theorem Effect.exists_range (h : v.WellFormed) (effect : v.Effect f (.ok res) v') :
    ∃ r ∈ v'.ranges, r.block = f.block ∧ v'.ownerOf r = res.owner := by
  have after := h.effect effect
  cases effect with
  | present range mem same id le => exact ⟨range, mem, same, rfl⟩
  | shared absent owner known time id le =>
      refine ⟨_, List.mem_append_right _ (List.mem_singleton.mpr rfl), rfl, ?_⟩
      exact after.identity?_of_mem (mem_of_known? known).1
  | created absent unknown time id le =>
      refine ⟨_, List.mem_append_right _ (List.mem_singleton.mpr rfl), rfl, ?_⟩
      exact after.identity?_of_mem (mem_createIdentity v f)

end Volatile

/-! ## Rows that can be read -/

namespace Row

theorem value_of_bound {id value : Int} {a : Address} (h : bound id value = .ok a) :
    value = a.value := by
  unfold bound Address.ofInt? Address.ofNat? at h
  by_cases positive : 0 ≤ value
  · by_cases small : value.toNat < 0x100000000
    · simp only [positive, small, if_true, dite_true, Except.ok.injEq] at h
      subst h
      exact (Int.toNat_of_nonneg positive).symm
    · simp [positive, small] at h
  · simp [positive] at h

/-- A row that means a range keeps all there is of it. -/
theorem of_range {row : Row} {r : AddressRange} (read : row.range = .ok r) :
    of r = row ∧ r.createdAt.IsWholeMillis := by
  unfold range at read
  cases back : Instant.ofMillis? row.createdAt with
  | none => simp [back, throw, throwThe, MonadExceptOf.throw] at read
  | some time =>
      cases first : bound row.id row.first with
      | error e => simp [back, first, bind, Except.bind] at read
      | ok a =>
          cases last : bound row.id row.last with
          | error e => simp [back, first, last, bind, Except.bind] at read
          | ok b =>
              obtain rfl : _ = r := by
                simpa [back, first, last, bind, Except.bind, pure, Except.pure] using read
              refine ⟨?_, _, back⟩
              simp only [of, ← value_of_bound first, ← value_of_bound last,
                Instant.millis_of_ofMillis? back]

/-- The range that a row means, if it means one. -/
def range? (row : Row) : Option AddressRange := row.range.toOption

theorem range?_eq_some {row : Row} {r : AddressRange} : row.range? = some r ↔ row.range = .ok r := by
  unfold range?
  cases row.range <;> simp [Except.toOption]

end Row

/-! ## Both stores -/

/-- A store whose ranges and identities can be read off. -/
class Legible (σ : Type) [RangeStore σ] extends Meaningful σ where
  ranges : σ → List AddressRange
  identities : σ → List Identity
  /-- No row is corrupt, and no id is beyond the last ones given. -/
  Intact : σ → Prop
  exists_means {s : σ} : Intact s → ∃ v, Means s v ∧ (∀ r ∈ v.ranges, r.id ≤ v.lastRangeId) ∧
    ∀ i ∈ v.identities, i.id ≤ v.lastIdentityId
  ranges_eq {s : σ} {v : Volatile} : Means s v → ranges s = v.ranges
  identities_eq {s : σ} {v : Volatile} : Means s v → identities s = v.identities
  rangeCount_eq {s : σ} {v : Volatile} : Means s v → RangeStore.rangeCount s = v.ranges.length

instance : Legible Volatile where
  ranges v := v.ranges
  identities v := v.identities
  Intact v := (∀ r ∈ v.ranges, r.id ≤ v.lastRangeId) ∧ ∀ i ∈ v.identities, i.id ≤ v.lastIdentityId
  exists_means intact := ⟨_, rfl, intact⟩
  ranges_eq means := congrArg Volatile.ranges means
  identities_eq means := congrArg Volatile.identities means
  rangeCount_eq means := congrArg (fun v : Volatile => v.ranges.length) means

namespace Durable

/-- The ranges of the rows that mean one. -/
def ranges (s : Durable) : List AddressRange := s.rows.filterMap Row.range?

/-- Every row means a range, and no id is beyond the last ones given. -/
structure Intact (s : Durable) : Prop where
  readable : ∀ row ∈ s.rows, ∃ r, row.range = .ok r
  row_le : ∀ row ∈ s.rows, row.id ≤ s.lastRangeId
  identity_le : ∀ i ∈ s.identities, i.id ≤ s.lastIdentityId

/-- Rows that all mean a range are the rows of those. -/
theorem map_of_filterMap {rows : List Row} (readable : ∀ row ∈ rows, ∃ r, row.range = .ok r) :
    (rows.filterMap Row.range?).map Row.of = rows := by
  induction rows with
  | nil => rfl
  | cons row rows ih =>
      obtain ⟨r, read⟩ := readable row (by simp)
      have rest := ih fun row mem => readable row (by simp [mem])
      rw [List.filterMap_cons_some (Row.range?_eq_some.mpr read), List.map_cons, rest,
        (Row.of_range read).1]

/-- The rows of ranges in whole milliseconds mean those ranges. -/
theorem filterMap_map_of {rs : List AddressRange} (times : ∀ r ∈ rs, r.createdAt.IsWholeMillis) :
    (rs.map Row.of).filterMap Row.range? = rs := by
  induction rs with
  | nil => rfl
  | cons r rs ih =>
      have read := Row.range?_eq_some.mpr (Row.range_of (times r (by simp)))
      rw [List.map_cons, List.filterMap_cons_some read, ih fun r mem => times r (by simp [mem])]

/-- Rows that all mean ranges mean a store in memory. -/
theorem means_of_readable {s : Durable} (readable : ∀ row ∈ s.rows, ∃ r, row.range = .ok r) :
    s.Means ⟨s.ranges, s.identities, s.lastRangeId, s.lastIdentityId⟩ := by
  refine ⟨?_, fun r mem => ?_⟩
  · simp only [of, ranges, map_of_filterMap readable]
  · obtain ⟨row, -, read⟩ := List.mem_filterMap.mp mem
    exact (Row.of_range (Row.range?_eq_some.mp read)).2

theorem Intact.exists_means {s : Durable} (intact : s.Intact) :
    ∃ v, s.Means v ∧ (∀ r ∈ v.ranges, r.id ≤ v.lastRangeId) ∧
      ∀ i ∈ v.identities, i.id ≤ v.lastIdentityId := by
  refine ⟨_, means_of_readable intact.readable, fun r mem => ?_, intact.identity_le⟩
  obtain ⟨row, stored, read⟩ := List.mem_filterMap.mp mem
  have same := (Row.of_range (Row.range?_eq_some.mp read)).1
  have := intact.row_le row stored
  rwa [← same] at this

end Durable

instance : Legible Durable where
  ranges := Durable.ranges
  identities s := s.identities
  Intact := Durable.Intact
  exists_means intact := intact.exists_means
  ranges_eq := by
    rintro s v ⟨rfl, times⟩
    exact Durable.filterMap_map_of times
  identities_eq := by
    rintro s v ⟨rfl, -⟩
    rfl
  rangeCount_eq := by
    rintro s v ⟨rfl, -⟩
    exact List.length_map ..

section

variable {σ : Type} [RangeStore σ] [Legible σ]

open Legible

/-- No row is corrupt, ids are told apart, and no block is stored twice. -/
structure WellFormed (s : σ) : Prop where
  intact : Intact s
  rangeIds : (ranges s).Pairwise (·.id ≠ ·.id)
  blocks : (ranges s).Pairwise (·.block ≠ ·.block)
  identityIds : (identities s).Pairwise (·.id ≠ ·.id)

/-- Every owner of a range is stored. -/
def Owned (s : σ) : Prop :=
  ∀ r ∈ ranges s, ∀ id ∈ r.ownerId, ∃ i ∈ identities s, i.id = id

instance (s : σ) : Decidable (Owned s) := by unfold Owned; infer_instance

/-- The owner of a range, if it has one that is stored. -/
def ownerOf (s : σ) (r : AddressRange) : Option Identity :=
  r.ownerId.bind fun id => (identities s).find? (·.id = id)

theorem WellFormed.exists_means {s : σ} (h : WellFormed s) :
    ∃ v, Meaningful.Means s v ∧ v.WellFormed := by
  obtain ⟨v, means, range_le, identity_le⟩ := Legible.exists_means h.intact
  refine ⟨v, means, ⟨?_, range_le, ?_, identity_le, ?_⟩⟩
  · rw [← ranges_eq means]
    exact h.rangeIds
  · rw [← identities_eq means]
    exact h.identityIds
  · rw [← ranges_eq means]
    exact h.blocks

theorem ownerOf_eq {s : σ} {v : Volatile} (means : Meaningful.Means s v) (r : AddressRange) :
    ownerOf s r = v.ownerOf r := by
  rw [ownerOf, identities_eq means]
  rfl

end

end OwnerCache
