/-
# OwnerCache.Proofs.Store.Match -- the range that wins an address

The range that wins an address holds it, and no range that holds it is shorter
(`length_le_of_bestMatch`).  So an address that is held is won by some range
(`exists_bestMatch`), what wins never grows longer as ranges are added
(`Grows.bestMatch`), and a range that is shorter than all others that hold the
address wins it (`bestMatch_of_shortest`).

The cache settles an address if a range that holds it is short enough, whichever
wins, and only then (`reading_of_mem`, `settled_of_reading`).

What a store says about an address is what the store in memory that it means says
(`matchAddress_eq`, `readCache_eq`).
-/
import OwnerCache.Proofs.Store.WellFormed

namespace OwnerCache

set_option autoImplicit false

namespace Volatile

variable {v : Volatile} {a : Address} {m : RangeMatch}

theorem range_of_bestMatch (won : v.bestMatch a = some m) :
    m.range ∈ v.ranges ∧ a ∈ m.range.block ∧ m.owner = v.ownerOf m.range := by
  obtain ⟨r, found, rfl⟩ := Option.map_eq_some_iff.mp won
  obtain ⟨stored, holds⟩ := List.mem_filter.mp (Rank.least?_eq_some found).1
  exact ⟨stored, by simpa using holds, rfl⟩

theorem length_le_of_bestMatch (won : v.bestMatch a = some m) {r : AddressRange}
    (mem : r ∈ v.ranges) (holds : a ∈ r.block) : m.length ≤ r.length := by
  obtain ⟨winner, found, rfl⟩ := Option.map_eq_some_iff.mp won
  have least := (Rank.least?_eq_some found).2 r (List.mem_filter.mpr ⟨mem, by simpa using holds⟩)
  simp only [Rank.Before, rank] at least
  change winner.length ≤ r.length
  omega

theorem exists_bestMatch {r : AddressRange} (mem : r ∈ v.ranges) (holds : a ∈ r.block) :
    ∃ m, v.bestMatch a = some m := by
  have competes : r ∈ v.ranges.filter (a ∈ ·.block) :=
    List.mem_filter.mpr ⟨mem, by simpa using holds⟩
  obtain ⟨winner, found⟩ := Rank.exists_least? rank competes
  exact ⟨_, by rw [bestMatch, found]; rfl⟩

/-- Where ranges are only added an address that is won stays won, by a range that is not longer. -/
theorem Grows.bestMatch {v' : Volatile} (grows : v.Grows v') (won : v.bestMatch a = some m) :
    ∃ m', v'.bestMatch a = some m' ∧ m'.length ≤ m.length := by
  obtain ⟨mem, holds, -⟩ := range_of_bestMatch won
  have mem' := grows.ranges.subset mem
  obtain ⟨m', won'⟩ := exists_bestMatch mem' holds
  exact ⟨m', won', length_le_of_bestMatch won' mem' holds⟩

/-- A range that is shorter than all others that hold an address wins it. -/
theorem bestMatch_of_shortest {r : AddressRange} (mem : r ∈ v.ranges) (holds : a ∈ r.block)
    (shortest : ∀ r' ∈ v.ranges, a ∈ r'.block → r' ≠ r → r.length < r'.length) :
    v.bestMatch a = some ⟨r, v.ownerOf r⟩ := by
  obtain ⟨m, won⟩ := exists_bestMatch mem holds
  obtain ⟨stored, held, owner⟩ := range_of_bestMatch won
  have same : m.range = r := by
    by_contra other
    have longer := shortest m.range stored held other
    have shorter : m.range.length ≤ r.length := length_le_of_bestMatch won mem holds
    omega
  rw [won, ← same, ← owner]

/-- What the cache says about an address. -/
def reading (v : Volatile) (accepted : Nat) (a : Address) : Reading :=
  match v.bestMatch a with
  | some m => if m.length ≤ accepted then .settled m.owner else .tooBroad m.owner m.length
  | none => .absent

/-- A range that is short enough settles the addresses it holds. -/
theorem reading_of_mem {r : AddressRange} {accepted : Nat} (mem : r ∈ v.ranges)
    (holds : a ∈ r.block) (short : r.length ≤ accepted) :
    ∃ m, v.bestMatch a = some m ∧ v.reading accepted a = .settled m.owner := by
  obtain ⟨m, won⟩ := exists_bestMatch mem holds
  have le := Nat.le_trans (length_le_of_bestMatch won mem holds) short
  exact ⟨m, won, by simp only [reading, won, le, if_true]⟩

/-- Only a range that is short enough settles an address. -/
theorem settled_of_reading {accepted : Nat} {owner : Option Identity}
    (settled : v.reading accepted a = .settled owner) :
    ∃ r ∈ v.ranges, a ∈ r.block ∧ r.length ≤ accepted := by
  unfold reading at settled
  cases won : v.bestMatch a with
  | none => simp [won] at settled
  | some m =>
      obtain ⟨mem, holds, -⟩ := range_of_bestMatch won
      refine ⟨m.range, mem, holds, ?_⟩
      by_contra long
      have broad : ¬ m.length ≤ accepted := long
      simp [won, broad] at settled

end Volatile

section

variable {σ : Type} [RangeStore σ] [Meaningful σ] {s : σ} {v : Volatile}

theorem matchAddress_eq (means : Meaningful.Means s v) (a : Address) :
    matchAddress s a =
      match v.bestMatch a with
      | some m => .ok (m.owner, m.length)
      | none => .error (.notFound a) := by
  rw [matchAddress, Meaningful.bestMatch means]
  cases v.bestMatch a <;> rfl

theorem readCache_eq (means : Meaningful.Means s v) (accepted : Nat) (a : Address) :
    readCache accepted s a = .ok (v.reading accepted a) := by
  rw [readCache, matchAddress_eq means, Volatile.reading]
  cases v.bestMatch a with
  | none => rfl
  | some m =>
      simp only
      split <;> rfl

end

end OwnerCache
