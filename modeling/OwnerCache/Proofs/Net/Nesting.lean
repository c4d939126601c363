/-
# OwnerCache.Proofs.Net.Nesting -- aligned blocks nest

A block is aligned if it is a power of two of addresses that starts at a multiple
of that power, as the block of every network is (`Cidr.block_isAligned`).  Two
aligned blocks with an address in common nest: the one that is not longer lies in
the other (`IsAligned.subset_of_le`).  So aligned blocks are nested or apart
(`IsAligned.nested_or_apart`).

`Block.length` measures an aligned block truly, but for one: the two addresses
0.0.0.0 and 0.0.0.1 are a placeholder and count as nothing.
-/
import Mathlib.Algebra.Group.Nat.Defs
import OwnerCache.Net.Cidr

namespace OwnerCache

set_option autoImplicit false

namespace Block

instance : HasSubset Block := ⟨fun b c => ∀ a ∈ b, a ∈ c⟩

theorem subset_of_bounds {b c : Block} (first : c.first ≤ b.first) (last : b.last ≤ c.last) :
    b ⊆ c := fun _ mem => ⟨Nat.le_trans first mem.1, Nat.le_trans mem.2 last⟩

/-- Blocks that hold each other, and something at all, are the same. -/
theorem eq_of_subset {b c : Block} {a : Address} (mem : a ∈ b) (forth : b ⊆ c) (back : c ⊆ b) :
    b = c := by
  have ordered : b.first ≤ b.last := Nat.le_trans mem.1 mem.2
  have ordered' : c.first ≤ c.last := Nat.le_trans (forth a mem).1 (forth a mem).2
  have first := (forth b.first ⟨Nat.le_refl _, ordered⟩).1
  have first' := (back c.first ⟨Nat.le_refl _, ordered'⟩).1
  have last := (forth b.last ⟨ordered, Nat.le_refl _⟩).2
  have last' := (back c.last ⟨ordered', Nat.le_refl _⟩).2
  rcases b with ⟨f, l⟩
  rcases c with ⟨f', l'⟩
  simp only [Block.mk.injEq, Address.ext_iff]
  exact ⟨Nat.le_antisymm first' first, Nat.le_antisymm last last'⟩

/-- The distance from the first to the last address. -/
def span (b : Block) : Nat := b.last.value - b.first.value

/-- A power of two of addresses, starting at a multiple of it. -/
def IsAligned (b : Block) : Prop :=
  ∃ k, b.first.value + 2 ^ k = b.last.value + 1 ∧ 2 ^ k ∣ b.first.value

/-- The block of 0.0.0.0 and 0.0.0.1. -/
def IsPlaceholder (b : Block) : Prop := b.first.value = 0 ∧ b.last.value = 1

namespace IsAligned

variable {b c : Block} {a : Address}

theorem first_le_last (hb : b.IsAligned) : b.first ≤ b.last := by
  obtain ⟨k, size, -⟩ := hb
  have pos := Nat.two_pow_pos k
  rw [Address.le_def]
  omega

/-- Of two aligned blocks with an address in common the one that is not longer lies in the other. -/
theorem subset_of_le (hb : b.IsAligned) (hc : c.IsAligned) (mem : a ∈ b) (mem' : a ∈ c)
    (le : b.span ≤ c.span) : b ⊆ c := by
  obtain ⟨k, size, multiple⟩ := hb
  obtain ⟨l, size', multiple'⟩ := hc
  rw [Block.mem_def] at mem mem'
  unfold span at le
  have shorter : 2 ^ k ≤ 2 ^ l := by
    have := Nat.two_pow_pos k
    have := Nat.two_pow_pos l
    omega
  have divides : 2 ^ k ∣ 2 ^ l := Nat.pow_dvd_pow 2 ((Nat.pow_le_pow_iff_right (by omega)).mp shorter)
  -- Multiples of the smaller power that are less than that power apart are in order.
  have first : c.first.value ≤ b.first.value :=
    Nat.le_of_lt_add_of_dvd (by omega) (Nat.dvd_trans divides multiple') multiple
  have last : b.first.value + 2 ^ k ≤ c.first.value + 2 ^ l :=
    Nat.le_of_lt_add_of_dvd (n := 2 ^ k) (by omega) (Nat.dvd_add multiple (Nat.dvd_refl _))
      (Nat.dvd_add (Nat.dvd_trans divides multiple') divides)
  exact subset_of_bounds first (by rw [Address.le_def]; omega)

theorem nested_or_apart (hb : b.IsAligned) (hc : c.IsAligned) :
    b ⊆ c ∨ c ⊆ b ∨ ∀ a ∈ b, a ∉ c := by
  by_cases meet : ∃ a ∈ b, a ∈ c
  · obtain ⟨a, mem, mem'⟩ := meet
    rcases Nat.le_total b.span c.span with le | le
    · exact .inl (hb.subset_of_le hc mem mem' le)
    · exact .inr (.inl (hc.subset_of_le hb mem' mem le))
  · exact .inr (.inr fun a mem mem' => meet ⟨a, mem, mem'⟩)

/-- The length by which blocks compete is the true one but for the placeholder. -/
theorem length_eq_span (hb : b.IsAligned) (proper : ¬ b.IsPlaceholder) : b.length = b.span := by
  obtain ⟨k, size, -⟩ := hb
  have := Nat.two_pow_pos k
  unfold IsPlaceholder at proper
  unfold length span
  split <;> omega

theorem single (a : Address) : (Block.single a).IsAligned := ⟨0, rfl, Nat.one_dvd _⟩

end IsAligned

end Block

theorem Cidr.block_isAligned (n : Cidr) : n.block.IsAligned := by
  refine ⟨32 - n.length, ?_, ?_⟩
  · have size : n.size = 2 ^ (32 - n.length) := Nat.one_shiftLeft _
    have pos := n.size_pos
    simp only [block, first, last]
    omega
  · rw [← Nat.one_shiftLeft]
    exact Nat.dvd_mul_left n.size _

end OwnerCache
