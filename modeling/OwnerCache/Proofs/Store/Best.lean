/-
# OwnerCache.Proofs.Store.Best -- what decides which range wins an address

Ranges that hold an address compete by their length, then by their first address, then by
their id.  Where ids differ one range comes before all the others, and it is the one that
wins, with the identity stored under the id of its owner (`IsBest`).

Ids hardly ever decide.  Of blocks that hold one address and start at one address the longer
one ends later -- but two of them have a length that is forced to 0: the block of 0.0.0.0 alone
and the placeholder, which tie for 0.0.0.0 (`Block.eq_or_tied`).  So stores that hold the same
blocks for the same owners answer alike, in whatever order and under whatever ids they came to
hold them (`IsBest.block_eq`).

`bestMatch_isBest` has both for any two stores, each in memory or as rows that mean ranges.  A row
that does not may win too, and there is an error then (`bestMatch_corrupt`).
-/
import Mathlib.Data.Prod.Lex
import OwnerCache.Proofs.Net.Nesting
import OwnerCache.Proofs.Store.Match

namespace OwnerCache

set_option autoImplicit false

/-! ## Keys -/

/-- What a range competes by: its length, its first address and its id, in this order. -/
def AddressRange.key (r : AddressRange) : ℕ ×ₗ ℕ ×ₗ ℤ :=
  toLex (r.length, toLex (r.block.first.value, r.id))

theorem AddressRange.id_eq_of_key {r r' : AddressRange} (same : r.key = r'.key) : r.id = r'.id := by
  simp only [key, toLex_inj, Prod.mk.injEq] at same
  exact same.2.2

/-- Ranges that come before each other but for their ids have one length and one first address. -/
theorem AddressRange.weight_eq_of_key {r r' s s' : AddressRange} (le : r.key ≤ s.key)
    (le' : r'.key ≤ s'.key) (same : s.block = r'.block) (same' : s'.block = r.block) :
    r.block.length = r'.block.length ∧ r.block.first.value = r'.block.first.value := by
  simp only [key, AddressRange.length, same, same', Prod.Lex.toLex_le_toLex] at le le'
  omega

theorem Volatile.before_iff_key_lt {r r' : AddressRange} :
    (Volatile.rank r).Before (Volatile.rank r') ↔ r.key < r'.key := by
  simp only [Rank.Before, Volatile.rank, AddressRange.key, Prod.Lex.toLex_lt_toLex]
  omega

namespace Block

/-- The block of 0.0.0.0 alone. -/
def IsOrigin (b : Block) : Prop := b.first.value = 0 ∧ b.last.value = 0

/-- Blocks that hold an address and have one length and one first address are the same, or else
they are the two of length 0 that hold 0.0.0.0. -/
theorem eq_or_tied {b c : Block} {a : Address} (holds : a ∈ b) (holds' : a ∈ c)
    (length : b.length = c.length) (first : b.first.value = c.first.value) :
    b = c ∨ a.value = 0 ∧ (b.IsOrigin ∧ c.IsPlaceholder ∨ b.IsPlaceholder ∧ c.IsOrigin) := by
  rcases b with ⟨f, l⟩
  rcases c with ⟨f', l'⟩
  simp only [mem_def] at holds holds'
  simp only [Block.length] at length
  simp only [Block.mk.injEq, Address.ext_iff, IsOrigin, IsPlaceholder] at first ⊢
  split at length <;> split at length <;> omega

end Block

/-! ## The best match -/

namespace Volatile

variable {v : Volatile} {a : Address} {m : RangeMatch}

theorem bestMatch_eq_none_iff : v.bestMatch a = none ↔ ∀ r ∈ v.ranges, a ∉ r.block := by
  simp [bestMatch, Rank.least?_eq_none_iff, List.filter_eq_nil_iff]

theorem key_le_of_bestMatch (won : v.bestMatch a = some m) {r : AddressRange} (mem : r ∈ v.ranges)
    (holds : a ∈ r.block) : m.range.key ≤ r.key := by
  obtain ⟨winner, found, rfl⟩ := Option.map_eq_some_iff.mp won
  have least := (Rank.least?_eq_some found).2 r (List.mem_filter.mpr ⟨mem, by simpa using holds⟩)
  rw [before_iff_key_lt] at least
  exact not_lt.mp least

end Volatile

section

variable {σ τ : Type} [RangeStore σ] [Legible σ] [RangeStore τ] [Legible τ]
variable {s : σ} {t : τ} {a : Address} {m m' : RangeMatch}

open Legible Meaningful

/-- Rows that all mean ranges, whose ids and blocks differ, and identities whose ids differ. -/
structure Distinct (s : σ) : Prop where
  meaning : ∃ v, Means s v
  rangeIds : (ranges s).Pairwise (·.id ≠ ·.id)
  blocks : (ranges s).Pairwise (·.block ≠ ·.block)
  identityIds : (identities s).Pairwise (·.id ≠ ·.id)

/-- The match is a stored range that holds the address, before all others in length, first address
and id, with the identity that is stored under the id of its owner. -/
structure IsBest (s : σ) (a : Address) (m : RangeMatch) : Prop where
  stored : m.range ∈ ranges s
  holds : a ∈ m.range.block
  least : ∀ r ∈ ranges s, a ∈ r.block → r ≠ m.range → m.range.key < r.key
  owner : ∀ i, m.owner = some i ↔ m.range.ownerId = some i.id ∧ i ∈ identities s

theorem IsBest.key_le (best : IsBest s a m) {r : AddressRange} (mem : r ∈ ranges s)
    (holds : a ∈ r.block) : m.range.key ≤ r.key := by
  by_cases same : r = m.range
  · exact same ▸ le_refl _
  · exact le_of_lt (best.least r mem holds same)

/-- There is one best match at most. -/
theorem IsBest.unique (best : IsBest s a m) (best' : IsBest s a m') : m = m' := by
  have range : m.range = m'.range := by
    by_contra other
    have before := best.least m'.range best'.stored best'.holds (Ne.symm other)
    exact not_lt_of_ge (best'.key_le best.stored best.holds) before
  refine RangeMatch.ext range (Option.ext fun i => ?_)
  rw [best.owner, best'.owner, range]

namespace Distinct

theorem eq_of_id (distinct : Distinct s) {r r' : AddressRange} (mem : r ∈ ranges s)
    (mem' : r' ∈ ranges s) (same : r.id = r'.id) : r = r' :=
  List.inj_on_of_nodup_map (List.pairwise_map.mpr distinct.rangeIds) mem mem' same

theorem eq_of_block (distinct : Distinct s) {r r' : AddressRange} (mem : r ∈ ranges s)
    (mem' : r' ∈ ranges s) (same : r.block = r'.block) : r = r' :=
  List.inj_on_of_nodup_map (List.pairwise_map.mpr distinct.blocks) mem mem' same

/-- The owner of a range is the identity stored under its id. -/
theorem ownerOf_eq_some (distinct : Distinct s) {r : AddressRange} {i : Identity} :
    ownerOf s r = some i ↔ r.ownerId = some i.id ∧ i ∈ identities s := by
  constructor
  · intro owner
    obtain ⟨id, owned, found⟩ := Option.bind_eq_some_iff.mp owner
    have same : i.id = id := by simpa using List.find?_some found
    exact ⟨same ▸ owned, List.mem_of_find?_eq_some found⟩
  · rintro ⟨owned, stored⟩
    have alone : ∀ j ∈ identities s, j.id = i.id → j = i := fun j stored' same =>
      List.inj_on_of_nodup_map (List.pairwise_map.mpr distinct.identityIds) stored' stored same
    have found : (identities s).find? (·.id = i.id) = some i :=
      Volatile.find?_of_unique stored (by simp) fun j stored' same =>
        alone j stored' (by simpa using same)
    rw [ownerOf, owned, Option.bind_some, found]

/-- A store says of an address that nothing holds it, or what its best match is. -/
theorem bestMatch (distinct : Distinct s) (a : Address) :
    ∃ found, RangeStore.bestMatch s a = .ok found ∧
      (found = none ↔ ∀ r ∈ ranges s, a ∉ r.block) ∧ ∀ m, found = some m ↔ IsBest s a m := by
  obtain ⟨v, means⟩ := distinct.meaning
  have ranges_eq := ranges_eq means
  have sound : ∀ m, v.bestMatch a = some m → IsBest s a m := by
    intro m won
    obtain ⟨mem, holds, owner⟩ := Volatile.range_of_bestMatch won
    refine ⟨ranges_eq ▸ mem, holds, fun r mem' holds' other => ?_, fun i => ?_⟩
    · have le := Volatile.key_le_of_bestMatch won (ranges_eq ▸ mem') holds'
      refine lt_of_le_of_ne le fun same => other ?_
      exact distinct.eq_of_id mem' (ranges_eq ▸ mem) (AddressRange.id_eq_of_key same).symm
    · rw [owner, ← ownerOf_eq means, distinct.ownerOf_eq_some]
  refine ⟨v.bestMatch a, Meaningful.bestMatch means a, ?_, fun m => ⟨sound m, fun best => ?_⟩⟩
  · rw [Volatile.bestMatch_eq_none_iff, ranges_eq]
  · obtain ⟨m', won⟩ := Volatile.exists_bestMatch (ranges_eq ▸ best.stored) best.holds
    rw [won, best.unique (sound m' won)]

theorem owner_of_isBest (distinct : Distinct s) (best : IsBest s a m) : m.owner = ownerOf s m.range :=
  Option.ext fun i => (best.owner i).trans distinct.ownerOf_eq_some.symm

end Distinct

/-! ## Stores that tell the same -/

/-- Of each range its block, and what is told of a match with it. -/
def tellings {β : Type} (tell : RangeMatch → β) (s : σ) : List (Block × β) :=
  (ranges s).map fun r => (r.block, tell ⟨r, ownerOf s r⟩)

/-- The address is 0.0.0.0, and both blocks of length 0 that hold it are stored. -/
def Tied (s : σ) (a : Address) : Prop :=
  a.value = 0 ∧ (∃ r ∈ ranges s, r.block.IsOrigin) ∧ ∃ r ∈ ranges s, r.block.IsPlaceholder

/-- A range has its like in a store that tells the same. -/
theorem exists_like {β : Type} {tell : RangeMatch → β}
    (same : ∀ x ∈ tellings tell s, x ∈ tellings tell t) {r : AddressRange} (mem : r ∈ ranges s) :
    ∃ r' ∈ ranges t, r'.block = r.block ∧ tell ⟨r', ownerOf t r'⟩ = tell ⟨r, ownerOf s r⟩ := by
  obtain ⟨r', mem', like⟩ := List.mem_map.mp (same _ (List.mem_map_of_mem mem))
  obtain ⟨block, told⟩ := Prod.mk.inj like
  exact ⟨r', mem', block, told⟩

/-- The best matches of two stores have one block if each store holds the other one's block. -/
theorem IsBest.block_eq (best : IsBest s a m) (best' : IsBest t a m') (untied : ¬ Tied s a)
    {r r' : AddressRange} (mem : r ∈ ranges s) (like : r.block = m'.range.block)
    (mem' : r' ∈ ranges t) (like' : r'.block = m.range.block) : m.range.block = m'.range.block := by
  have le := best.key_le mem (like ▸ best'.holds)
  have le' := best'.key_le mem' (like' ▸ best.holds)
  obtain ⟨length, first⟩ := AddressRange.weight_eq_of_key le le' like like'
  rcases Block.eq_or_tied best.holds best'.holds length first with one | ⟨zero, tied⟩
  · exact one
  · refine absurd ⟨zero, ?_⟩ untied
    rcases tied with ⟨origin, placeholder⟩ | ⟨placeholder, origin⟩
    · exact ⟨⟨_, best.stored, origin⟩, _, mem, like ▸ placeholder⟩
    · exact ⟨⟨_, mem, like ▸ origin⟩, _, best.stored, placeholder⟩

/-- **The least range that holds an address wins it, and ids hardly ever decide.**  Whatever is told of
owners, two stores that tell the same of their ranges tell the same of the ones that win, but for
0.0.0.0 where two blocks of length 0 hold it. -/
theorem bestMatch_isBest (distinct : Distinct s) (distinct' : Distinct t) (a : Address) :
    (∃ found, RangeStore.bestMatch s a = .ok found ∧
      (found = none ↔ ∀ r ∈ ranges s, a ∉ r.block) ∧ ∀ m, found = some m ↔ IsBest s a m) ∧
    ∀ (β : Type) (tell : RangeMatch → β), (∀ x, x ∈ tellings tell s ↔ x ∈ tellings tell t) →
      ¬ Tied s a →
        (RangeStore.bestMatch s a).map (Option.map fun m => (m.range.block, tell m)) =
          (RangeStore.bestMatch t a).map (Option.map fun m => (m.range.block, tell m)) := by
  refine ⟨distinct.bestMatch a, fun β tell same untied => ?_⟩
  obtain ⟨found, here, absent, best⟩ := distinct.bestMatch a
  obtain ⟨found', there, absent', best'⟩ := distinct'.bestMatch a
  rw [here, there]
  refine congrArg Except.ok ?_
  cases found with
  | none =>
      have nowhere : found' = none := by
        refine absent'.mpr fun r' mem' holds => ?_
        obtain ⟨r, mem, like, -⟩ := exists_like (fun x => (same x).mpr) mem'
        exact absent.mp rfl r mem (like ▸ holds)
      rw [nowhere]
  | some m =>
      have here := (best m).mp rfl
      obtain ⟨r', mem', like', told⟩ := exists_like (fun x => (same x).mp) here.stored
      cases found' with
      | none => exact absurd (like' ▸ here.holds) (absent'.mp rfl r' mem')
      | some m' =>
          have there := (best' m').mp rfl
          obtain ⟨r, mem, like, -⟩ := exists_like (fun x => (same x).mpr) there.stored
          have one := here.block_eq there untied mem like mem' like'
          obtain rfl := distinct'.eq_of_block mem' there.stored (like'.trans one)
          rw [← distinct.owner_of_isBest here, ← distinct'.owner_of_isBest there] at told
          exact congrArg some (Prod.ext one told.symm)

end

/-- A store in memory and one of rows that came to hold the same in other orders, under other ids.  Two
ranges of length 0 hold 0.0.0.1, and the one that starts first wins it; one range ends before it begins,
and the owner of another one is not stored. -/
theorem bestMatch_isBest_unordered :
    let addr (n : Nat) (below : n < 0x100000000) : Address := ⟨n, below⟩
    let zero := addr 0 (by decide)
    let one := addr 1 (by decide)
    let nine := addr 9 (by decide)
    let s : Volatile :=
      ⟨[⟨1, ⟨nine, zero⟩, none, .least⟩, ⟨2, ⟨one, one⟩, some 1, .least⟩,
        ⟨3, ⟨zero, one⟩, some 2, .least⟩, ⟨4, ⟨zero, nine⟩, some 8, .least⟩],
        [⟨1, some "Loopback", none⟩, ⟨2, some "This Network", none⟩], 4, 2⟩
    let w : Volatile :=
      ⟨[⟨2, ⟨zero, nine⟩, some 9, .least⟩, ⟨3, ⟨zero, one⟩, some 1, .least⟩,
        ⟨5, ⟨one, one⟩, some 6, .least⟩, ⟨7, ⟨nine, zero⟩, none, .least⟩],
        [⟨1, some "This Network", none⟩, ⟨6, some "Loopback", none⟩], 7, 6⟩
    let rows : Durable := .of w
    let tell (m : RangeMatch) : Option (Option String) := m.owner.map (·.name)
    Distinct s ∧ Distinct rows ∧ (∀ x, x ∈ tellings tell s ↔ x ∈ tellings tell rows) ∧ ¬ Tied s one ∧
      IsBest s one ⟨⟨3, ⟨zero, one⟩, some 2, .least⟩, some ⟨2, some "This Network", none⟩⟩ ∧
      (RangeStore.bestMatch rows one).map (Option.map fun m => (m.range.block, tell m)) =
        .ok (some (⟨zero, one⟩, some (some "This Network"))) := by
  intro addr zero one nine s w rows tell
  have distinct : Distinct s := ⟨⟨s, rfl⟩, by decide, by decide, by decide⟩
  have readable : ∀ row ∈ rows.rows, ∃ r, row.range = .ok r := by
    intro row mem
    obtain ⟨r, here, rfl⟩ := List.mem_map.mp mem
    have least : ∀ r ∈ w.ranges, r.createdAt = .least := by decide
    exact ⟨r, Row.range_of (least r here ▸ Instant.least_isWholeMillis)⟩
  have distinct' : Distinct rows :=
    ⟨⟨_, Durable.means_of_readable readable⟩, by decide, by decide, by decide⟩
  have reversed : tellings tell rows = (tellings tell s).reverse := by decide
  have same : ∀ x, x ∈ tellings tell s ↔ x ∈ tellings tell rows := fun x => by
    rw [reversed, List.mem_reverse]
  have untied : ¬ Tied s one := fun tied => by cases tied.1
  obtain ⟨⟨found, here, -, best⟩, like⟩ := bestMatch_isBest distinct distinct' one
  have won : found = some ⟨⟨3, ⟨zero, one⟩, some 2, .least⟩, some ⟨2, some "This Network", none⟩⟩ :=
    Except.ok.inj (here.symm.trans (by decide))
  refine ⟨distinct, distinct', same, untied, (best _).mp won, ?_⟩
  rw [← like _ tell same untied, here, won]
  rfl

/-- A row from outside that holds an address before all others wins it even if its time is no instant,
and the match is an error. -/
theorem bestMatch_corrupt :
    let late : Int := 0x7FFFFFFFFFFFFFFF
    let seven : Address := ⟨7, by decide⟩
    let narrow : Durable := (Durable.insertRow (some 1) 5 9 none late {}).2
    let rows : Durable := (Durable.insertRow (some 2) 0 100 none 0 narrow).2
    rows.rows.Pairwise (·.id ≠ ·.id) ∧
      rows.rows.Pairwise (fun r r' => (r.first, r.last) ≠ (r'.first, r'.last)) ∧
      (∀ row ∈ rows.rows, row.Covers seven ∧
        (Address.ofInt? row.first).isSome ∧ (Address.ofInt? row.last).isSome) ∧
      rows.rows.length = 2 ∧
      RangeStore.bestMatch rows seven = .error (.corrupt (.time 1 late)) := by
  decide

/-- For 0.0.0.0 the two blocks of length 0 are told apart by their ids alone. -/
example :
    let zero : Address := ⟨0, by decide⟩
    let one : Address := ⟨1, by decide⟩
    let s : Volatile := ⟨[⟨1, ⟨zero, zero⟩, none, .least⟩, ⟨2, ⟨zero, one⟩, none, .least⟩], [], 2, 0⟩
    let t : Volatile := ⟨[⟨1, ⟨zero, one⟩, none, .least⟩, ⟨2, ⟨zero, zero⟩, none, .least⟩], [], 2, 0⟩
    (s.bestMatch zero).map (·.range.block) = some ⟨zero, zero⟩ ∧
      (t.bestMatch zero).map (·.range.block) = some ⟨zero, one⟩ := by decide

end OwnerCache
