/-
# OwnerCache.Proofs.Store.Alike -- stores that differ in the ids of ranges

Two stores in memory are `Alike` if their ranges are the same, place by place, but
for their ids, and their identities are the same.  Stores that pass over ids come
to differ so.

If ids grow along the lists of both, nothing that is asked of them tells them
apart.  An address is won in the same place of both (`Alike.bestMatch`), since the
id of a range decides only where its place in the list decides likewise.  Storing
the same finding gives the same resolution and keeps them alike
(`Alike.register`), and so does deleting the same ranges (`Alike.keep`).
-/
import OwnerCache.Proofs.Store.Rank
import OwnerCache.Proofs.Store.Register

namespace OwnerCache

set_option autoImplicit false

/-- All of a range but its id. -/
def AddressRange.withoutId (r : AddressRange) : AddressRange := { r with id := 0 }

/-- Ranges that are the same, place by place, but for their ids, which are in the same order. -/
structure SameButIds (rs rs' : List AddressRange) : Prop where
  rest : rs.map AddressRange.withoutId = rs'.map AddressRange.withoutId
  order : ∀ {i j : Nat} (hi : i < rs.length) (hj : j < rs.length) (hi' : i < rs'.length)
    (hj' : j < rs'.length), rs[i].id < rs[j].id ↔ rs'[i].id < rs'[j].id

namespace Volatile

/-- The ranges are the same but for their ids, and the identities are the same. -/
structure Alike (v w : Volatile) : Prop where
  ranges : v.ranges.map AddressRange.withoutId = w.ranges.map AddressRange.withoutId
  identities : v.identities = w.identities
  lastIdentityId : v.lastIdentityId = w.lastIdentityId

theorem alike_self (v : Volatile) : v.Alike v := ⟨rfl, rfl, rfl⟩

/-- The range that wins among ranges whose ids grow, without its id, from the ranges without
theirs. -/
theorem least?_grow {rs : List AddressRange} (grow : rs.Pairwise (·.id < ·.id)) :
    (Rank.least? rank rs).map AddressRange.withoutId =
      Rank.least? (fun r => (rank r).withoutId) (rs.map AddressRange.withoutId) := by
  rw [Rank.least?_withoutId grow, Rank.least?_map]
  rfl

theorem id_lt_iff {rs : List AddressRange} (grow : rs.Pairwise (·.id < ·.id)) {i j : Nat}
    (hi : i < rs.length) (hj : j < rs.length) : rs[i].id < rs[j].id ↔ i < j := by
  have forth := List.pairwise_iff_getElem.mp grow
  constructor
  · intro lt
    rcases Nat.lt_trichotomy i j with before | same | after
    · exact before
    · subst same
      exact absurd lt (Int.lt_irrefl _)
    · exact absurd lt (Int.not_lt.mpr (Int.le_of_lt (forth j i hj hi after)))
  · exact forth i j hi hj

namespace Alike

variable {v w : Volatile}

theorem length (alike : v.Alike w) : v.ranges.length = w.ranges.length := by
  simpa using congrArg List.length alike.ranges

theorem sameButIds (alike : v.Alike w) (numbered : v.Numbered) (numbered' : w.Numbered) :
    SameButIds v.ranges w.ranges where
  rest := alike.ranges
  order hi hj hi' hj' :=
    (id_lt_iff numbered.ranges hi hj).trans (id_lt_iff numbered'.ranges hi' hj').symm

theorem identity? (alike : v.Alike w) (id : Int) : v.identity? id = w.identity? id := by
  simp only [Volatile.identity?, alike.identities]

theorem known? (alike : v.Alike w) (f : Whois.Finding) : v.known? f = w.known? f := by
  simp only [Volatile.known?, findIdentity, alike.identities]

/-- The ids of ranges do not matter to a test of anything else. -/
theorem filter (alike : v.Alike w) (test : AddressRange → Bool)
    (blind : ∀ r, test r.withoutId = test r) :
    (v.ranges.filter test).map AddressRange.withoutId =
      (w.ranges.filter test).map AddressRange.withoutId := by
  have apart : ∀ rs : List AddressRange, (rs.filter test).map AddressRange.withoutId =
      (rs.map AddressRange.withoutId).filter test := by
    intro rs
    simp only [List.filter_map, Function.comp_def, blind]
  rw [apart, apart, alike.ranges]

theorem find? (alike : v.Alike w) (block : Block) :
    (v.ranges.find? (·.block = block)).map AddressRange.withoutId =
      (w.ranges.find? (·.block = block)).map AddressRange.withoutId := by
  have apart : ∀ rs : List AddressRange,
      (rs.find? (·.block = block)).map AddressRange.withoutId =
        (rs.map AddressRange.withoutId).find? (·.block = block) := by
    intro rs
    rw [List.find?_map]
    rfl
  rw [apart, apart, alike.ranges]

/-- An address is won by ranges with the same owner and length. -/
theorem bestMatch (alike : v.Alike w) (numbered : v.Numbered) (numbered' : w.Numbered)
    (a : Address) :
    (v.bestMatch a).map (fun m => (m.owner, m.length)) =
      (w.bestMatch a).map (fun m => (m.owner, m.length)) := by
  have competing := alike.filter (fun r => a ∈ r.block) fun _ => rfl
  have winner : (Rank.least? rank (v.ranges.filter (a ∈ ·.block))).map AddressRange.withoutId =
      (Rank.least? rank (w.ranges.filter (a ∈ ·.block))).map AddressRange.withoutId := by
    rw [least?_grow (numbered.ranges.filter _), least?_grow (numbered'.ranges.filter _), competing]
  -- Owner and length are read off the range without its id.
  have read : ∀ u : Volatile, (u.bestMatch a).map (fun m => (m.owner, m.length)) =
      ((Rank.least? rank (u.ranges.filter (a ∈ ·.block))).map AddressRange.withoutId).map
        fun r => (r.ownerId.bind u.identity?, r.length) := by
    intro u
    simp only [Volatile.bestMatch, Option.map_map]
    rfl
  rw [read, read, winner, funext alike.identity?]

theorem place (alike : v.Alike w) (block : Block) (createdAt : Instant) (owner : Identity) :
    (v.place block createdAt owner).Alike (w.place block createdAt owner) where
  ranges := by
    simp only [Volatile.place, List.map_append, alike.ranges]
    rfl
  identities := alike.identities
  lastIdentityId := alike.lastIdentityId

theorem createIdentity (alike : v.Alike w) (name country : Option String) :
    (Volatile.createIdentity name country v).1 = (Volatile.createIdentity name country w).1 ∧
      (Volatile.createIdentity name country v).2.Alike
        (Volatile.createIdentity name country w).2 := by
  have next : (Volatile.createIdentity name country v).1 =
      (Volatile.createIdentity name country w).1 := by
    simp only [Volatile.createIdentity, alike.lastIdentityId]
  refine ⟨next, alike.ranges, ?_, ?_⟩
  · simp only [Volatile.createIdentity] at next ⊢
    rw [next, alike.identities]
  · simp only [Volatile.createIdentity, alike.lastIdentityId]

/-- Storing a finding gives the same resolution. -/
theorem register (alike : v.Alike w) (f : Whois.Finding) (now : Instant) :
    (v.register f now).1.resolution = (w.register f now).1.resolution ∧
      (v.register f now).2.Alike (w.register f now).2 := by
  have found := alike.find? f.block
  unfold Volatile.register
  cases stored : v.ranges.find? (·.block = f.block) with
  | some range =>
      rw [stored] at found
      obtain ⟨range', stored', same⟩ := Option.map_eq_some_iff.mp found.symm
      have owner : range'.withoutId.ownerId = range.withoutId.ownerId := by rw [same]
      replace owner : range'.ownerId = range.ownerId := owner
      simp only [stored', owner, funext alike.identity?]
      exact ⟨trivial, alike⟩
  | none =>
      rw [stored] at found
      have absent' : w.ranges.find? (·.block = f.block) = none :=
        Option.map_eq_none_iff.mp found.symm
      simp only [absent', alike.known? f]
      cases w.known? f with
      | some owner => exact ⟨rfl, alike.place f.block now owner⟩
      | none =>
          obtain ⟨same, after⟩ := alike.createIdentity f.description f.country
          refine ⟨congrArg (fun i => (⟨some i, true⟩ : Resolution)) same, ?_⟩
          simp only [same]
          exact after.place f.block now _

theorem keep (alike : v.Alike w) (test : AddressRange → Bool)
    (blind : ∀ r, test r.withoutId = test r) : (v.keep test).Alike (w.keep test) where
  ranges := alike.filter test blind
  identities := alike.identities
  lastIdentityId := alike.lastIdentityId

/-- Ids may be passed over. -/
theorem skip (alike : v.Alike w) (id : Int) : Alike { v with lastRangeId := id } w :=
  ⟨alike.ranges, alike.identities, alike.lastIdentityId⟩

end Alike

end Volatile

end OwnerCache
