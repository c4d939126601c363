/-
# OwnerCache.Proofs.Resolver.Innermost -- the range that wins lies in all others

With the registry of special-purpose networks every range that is ever stored is
an aligned network, so ranges nest or are apart, and the placeholder block, whose
length counts as nothing, is never stored: its two addresses are special and are
found by themselves (`answers_block`).

Of the ranges that hold an address the one that wins is therefore the one that
lies in all others (`run_innermost`).  It is strictly shorter than each of them,
so first addresses and ids never decide.
-/
import Mathlib.Data.List.Nodup
import OwnerCache.Net.Reserved
import OwnerCache.Proofs.Net.Nesting
import OwnerCache.Proofs.Resolver.Sound
import OwnerCache.Proofs.Store.Match

namespace OwnerCache

set_option autoImplicit false

namespace Volatile

/-- All ranges are aligned networks; the placeholder is not among them. -/
structure Aligned (v : Volatile) : Prop where
  aligned : ∀ r ∈ v.ranges, r.block.IsAligned
  proper : ∀ r ∈ v.ranges, ¬ r.block.IsPlaceholder

/-- The range holds the address, and lies in every other range that does and is shorter. -/
structure IsInnermost (v : Volatile) (a : Address) (r : AddressRange) : Prop where
  stored : r ∈ v.ranges
  holds : a ∈ r.block
  within : ∀ r' ∈ v.ranges, a ∈ r'.block → r.block ⊆ r'.block
  shorter : ∀ r' ∈ v.ranges, a ∈ r'.block → r' ≠ r → r.length < r'.length

namespace Aligned

variable {v : Volatile}

theorem empty : Aligned {} := by
  constructor <;> simp

theorem place (h : v.Aligned) {block : Block} (time : Instant) (owner : Identity)
    (aligned : block.IsAligned) (proper : ¬ block.IsPlaceholder) :
    (v.place block time owner).Aligned where
  aligned := forall_mem_place h.aligned aligned
  proper := forall_mem_place h.proper proper

theorem register (h : v.Aligned) {f : Whois.Finding} (time : Instant)
    (aligned : f.block.IsAligned) (proper : ¬ f.block.IsPlaceholder) :
    (v.register f time).2.Aligned :=
  register_cases (motive := fun _ v => v.Aligned) f time v
    (fun _ _ _ => h)
    (fun _ owner _ => h.place time owner aligned proper)
    (fun _ _ => place (v := (createIdentity _ _ v).2) ⟨h.aligned, h.proper⟩ time _ aligned proper)

/-- Ranges that hold one address compete by the distance they span. -/
theorem length_eq_span (h : v.Aligned) {r : AddressRange} (mem : r ∈ v.ranges) :
    r.length = r.block.span := (h.aligned r mem).length_eq_span (h.proper r mem)

/-- Of ranges that hold one address the one that is not longer lies in the other. -/
theorem within_of_le (h : v.Aligned) {a : Address} {r r' : AddressRange} (mem : r ∈ v.ranges)
    (mem' : r' ∈ v.ranges) (holds : a ∈ r.block) (holds' : a ∈ r'.block)
    (le : r.length ≤ r'.length) : r.block ⊆ r'.block := by
  rw [h.length_eq_span mem, h.length_eq_span mem'] at le
  exact (h.aligned r mem).subset_of_le (h.aligned r' mem') holds holds' le

/-- The range that wins an address is innermost, where no block is stored twice. -/
theorem isInnermost_of_bestMatch (h : v.Aligned) (sound : v.Sound) {a : Address} {m : RangeMatch}
    (won : v.bestMatch a = some m) : v.IsInnermost a m.range := by
  obtain ⟨stored, holds, -⟩ := range_of_bestMatch won
  have le : ∀ r' ∈ v.ranges, a ∈ r'.block → m.range.length ≤ r'.length := fun r' stored' holds' =>
    length_le_of_bestMatch won stored' holds'
  have within : ∀ r' ∈ v.ranges, a ∈ r'.block → m.range.block ⊆ r'.block := fun r' stored' holds' =>
    h.within_of_le stored stored' holds holds' (le r' stored' holds')
  refine ⟨stored, holds, within, fun r' stored' holds' ne => ?_⟩
  refine Nat.lt_of_le_of_ne (le r' stored' holds') fun same => ne ?_
  -- Ranges of one length that hold one address have the same block.
  have back := h.within_of_le stored' stored holds' holds (Nat.le_of_eq same.symm)
  have blocks := Block.eq_of_subset holds (within r' stored' holds') back
  exact List.inj_on_of_nodup_map (List.pairwise_map.mpr sound.blocks) stored' stored blocks.symm

end Aligned

end Volatile

namespace Schedule

/-- Special-purpose networks are those of the registry. -/
def IsRegistered (policy : Policy) : Prop := policy.classify = Reserved.name?

/-- The addresses of the placeholder are special. -/
theorem name?_placeholder {b : Block} (placeholder : b.IsPlaceholder) {a : Address} (mem : a ∈ b) :
    Reserved.name? a = some "This Network" := by
  have last : a.value ≤ 1 := Nat.le_trans mem.2 (Nat.le_of_eq placeholder.2)
  have holds : a ∈ (Cidr.ofOctets 0 0 0 0 8).block := by
    rw [Block.mem_def]
    exact ⟨Nat.zero_le _, Nat.le_trans last (by decide)⟩
  rw [Reserved.name?, Reserved.registry, List.find?_cons_of_pos (by simpa using holds)]
  rfl

theorem answers_block {f : Whois.Finding} (answers : Answers IsRegistered f) :
    f.block.IsAligned ∧ ¬ f.block.IsPlaceholder := by
  obtain ⟨policy, a, reply, registered, found⟩ := answers
  rcases lookedUp_eq_ok found with ⟨name, -, rfl⟩ | ⟨ordinary, record, read⟩
  · refine ⟨.single a, fun placeholder => ?_⟩
    have := placeholder.1.symm.trans placeholder.2
    omega
  · obtain ⟨holds, n, -, same⟩ := Whois.Finding.block_of_ofRecord read
    refine ⟨same ▸ n.block_isAligned, fun placeholder => ?_⟩
    rw [registered, name?_placeholder placeholder holds] at ordinary
    cases ordinary

theorem aligned_kept : Kept IsRegistered fun v => v.Sound ∧ v.Aligned where
  stored numbered holds answers stored := by
    obtain ⟨aligned, proper⟩ := answers_block answers
    obtain ⟨policy, a, reply, registered, found⟩ := answers
    have sound := sound_kept.stored numbered holds.1 ⟨policy, a, reply, trivial, found⟩ stored
    refine ⟨sound, ?_⟩
    cases stored with
    | refused e => exact holds.2
    | registered time id le =>
        have after := holds.2.register time aligned proper
        exact ⟨after.aligned, after.proper⟩
  swept holds test :=
    ⟨holds.1.keep test, fun r mem => holds.2.aligned r (List.mem_filter.mp mem).1,
      fun r mem => holds.2.proper r (List.mem_filter.mp mem).1⟩

/-- All ranges are aligned networks that nest or are apart, the placeholder is not among them, and
whoever asks for an address that is held gets the innermost range. -/
structure FindsInnermost {σ : Type} [RangeStore σ] (s : σ) (v : Volatile) : Prop where
  aligned : ∀ r ∈ v.ranges, r.block.IsAligned
  nested_or_apart : ∀ r ∈ v.ranges, ∀ r' ∈ v.ranges,
    r.block ⊆ r'.block ∨ r'.block ⊆ r.block ∨ ∀ a ∈ r.block, a ∉ r'.block
  proper : ∀ r ∈ v.ranges, ¬ r.block.IsPlaceholder
  innermost : ∀ a, (∃ r ∈ v.ranges, a ∈ r.block) →
    ∃ m, RangeStore.bestMatch s a = .ok (some m) ∧ v.IsInnermost a m.range

theorem findsInnermost {σ : Type} [RangeStore σ] [Meaningful σ] {s : σ} {v : Volatile}
    (means : Meaningful.Means s v) (sound : v.Sound) (h : v.Aligned) : FindsInnermost s v where
  aligned := h.aligned
  nested_or_apart r mem r' mem' := (h.aligned r mem).nested_or_apart (h.aligned r' mem')
  proper := h.proper
  innermost a held := by
    obtain ⟨r, mem, holds⟩ := held
    obtain ⟨m, won⟩ := Volatile.exists_bestMatch mem holds
    exact ⟨m, by rw [Meaningful.bestMatch means, won], h.isInnermost_of_bestMatch sound won⟩

/-- **Under every schedule with the registry the innermost range wins**, in memory and as rows. -/
theorem run_innermost {steps : List Step} (registered : Under IsRegistered steps) :
    FindsInnermost (inMemory steps).store (inMemory steps).store ∧
      ∃ v, (asRows steps).store.Means v ∧ FindsInnermost (asRows steps).store v := by
  obtain ⟨-, sound, aligned⟩ := inMemory_has aligned_kept ⟨.empty, .empty⟩ registered
  obtain ⟨v, means, -, sound', aligned'⟩ := asRows_has aligned_kept ⟨.empty, .empty⟩ registered
  exact ⟨findsInnermost rfl sound aligned, v, means, findsInnermost means sound' aligned'⟩

/-- Calls for two addresses, a special one and one in a network of a provider, that overlap. -/
theorem run_innermost_overlapping :
    let policy : Policy := ⟨{ acceptedLength := 0 }, Reserved.name?⟩
    let loopback : Address := ⟨0x7F000001, by decide⟩
    let ordinary : Address := ⟨0x08080808, by decide⟩
    let record : Whois.Record := ⟨[{ cidr := some "8.0.0.0/9", description := some "Level 3" }]⟩
    let steps : List Step :=
      [.begin policy loopback, .begin policy ordinary, .answer 1 (.record record), .answer 0 .silence,
        .finish 0 .least, .finish 1 .least]
    Under IsRegistered steps ∧
      FindsInnermost (inMemory steps).store (inMemory steps).store ∧
      (∃ v, (asRows steps).store.Means v ∧ FindsInnermost (asRows steps).store v) ∧
      (inMemory steps).store.ranges.map (·.block) =
        [⟨loopback, loopback⟩, ⟨⟨0x08000000, by decide⟩, ⟨0x087FFFFF, by decide⟩⟩] := by
  intro policy loopback ordinary record steps
  have registered : Under IsRegistered steps := by
    intro policy' a mem
    simp only [steps, List.mem_cons, Step.begin.injEq, reduceCtorEq, List.not_mem_nil,
      or_false] at mem
    rcases mem with ⟨rfl, -⟩ | ⟨rfl, -⟩ <;> rfl
  exact ⟨registered, (run_innermost registered).1, (run_innermost registered).2, by decide⟩

end Schedule

end OwnerCache
