/-
# OwnerCache.Proofs.Net.Cover -- what covers a block, and no more

`Cover.IsExact b nets` says that the networks cover a block exactly: none has free bits
set, each ends before the next begins, and together they hold the addresses of the block
and no others.  The empty list covers a block that holds nothing.

`Cover.ofBlock` is exact for every block (`ofBlock_isExact`), up to the space of all
addresses and to the block of its last address alone.  The induction is on the walk from
`start` upwards: the widest network at `start` takes a run of addresses that ends no later
than `last`, and the walk goes on right behind it.
-/
import OwnerCache.Net.Cover
import OwnerCache.Proofs.Net.Nesting

namespace OwnerCache

set_option autoImplicit false

/-! ## Networks without free bits -/

namespace Cidr

variable {n : Cidr}

theorem IsAligned.first_eq (aligned : n.IsAligned) : n.first = n.address := by
  apply Address.ext
  exact Nat.div_mul_cancel (Nat.dvd_of_mod_eq_zero aligned)

theorem last_value (n : Cidr) : n.last.value + 1 = n.first.value + n.size := by
  have pos := n.size_pos
  simp only [first, last]
  omega

theorem first_mem_block (n : Cidr) : n.first ∈ n.block :=
  ⟨Nat.le_refl _, n.block_isAligned.first_le_last⟩

end Cidr

namespace Cover

/-- Networks without free bits that cover a block: one behind the other, and nothing else. -/
structure IsExact (b : Block) (nets : List Cidr) : Prop where
  aligned : ∀ n ∈ nets, n.IsAligned
  ascending : nets.Pairwise fun m n => m.last < n.first
  mem_iff : ∀ a, (∃ n ∈ nets, a ∈ n.block) ↔ a ∈ b

namespace IsExact

variable {b : Block} {nets : List Cidr}

theorem subset (exact : IsExact b nets) {n : Cidr} (mem : n ∈ nets) : n.block ⊆ b :=
  fun a holds => (exact.mem_iff a).mp ⟨n, mem, holds⟩

theorem nonempty (exact : IsExact b nets) (ordered : b.first ≤ b.last) : nets ≠ [] := by
  rintro rfl
  obtain ⟨n, mem, -⟩ := (exact.mem_iff b.first).mpr ⟨Nat.le_refl _, ordered⟩
  cases mem

theorem eq_nil (exact : IsExact b nets) (reversed : b.last < b.first) : nets = [] := by
  refine List.eq_nil_iff_forall_not_mem.mpr fun n mem => ?_
  obtain ⟨low, high⟩ := exact.subset mem n.first n.first_mem_block
  exact Nat.not_lt.mpr (Nat.le_trans low high) reversed

/-- A block that one network covers is the block of that network. -/
theorem block_eq {n : Cidr} (exact : IsExact b [n]) : n.block = b := by
  refine Block.eq_of_subset n.first_mem_block (exact.subset List.mem_cons_self) fun a mem => ?_
  obtain ⟨m, here, holds⟩ := (exact.mem_iff a).mpr mem
  obtain rfl := List.mem_singleton.mp here
  exact holds

end IsExact

/-! ## The walk -/

/-- As many free bits as are taken, the start has, and there is room for them. -/
theorem freeBits_spec {start room : Nat} (some : 0 < room) (k : Nat) :
    start % 2 ^ freeBits start room k = 0 ∧ 2 ^ freeBits start room k ≤ room := by
  induction k with
  | zero => exact ⟨Nat.mod_one start, some⟩
  | succ k ih =>
      rw [freeBits, Nat.one_shiftLeft]
      split
      · assumption
      · exact ih

section Widest

variable {start : Address} {last : Nat}

theorem size_widest : (widest start last).size =
    2 ^ freeBits start.value (last - start.value + 1) 31 := by
  have le := freeBits_le start.value (last - start.value + 1) 31
  rw [Cidr.size, Nat.one_shiftLeft]
  congr 1
  change 32 - (32 - freeBits start.value (last - start.value + 1) 31) = _
  omega

theorem widest_isAligned : (widest start last).IsAligned := by
  rw [Cidr.IsAligned, size_widest]
  exact (freeBits_spec (Nat.succ_pos _) 31).1

theorem first_widest : (widest start last).first = start := widest_isAligned.first_eq

theorem size_widest_le (ordered : start.value ≤ last) :
    start.value + (widest start last).size ≤ last + 1 := by
  have fits : 2 ^ freeBits start.value (last - start.value + 1) 31 ≤ last - start.value + 1 :=
    (freeBits_spec (Nat.succ_pos _) 31).2
  rw [size_widest]
  omega

theorem mem_widest {a : Address} : a ∈ (widest start last).block ↔
    start.value ≤ a.value ∧ a.value < start.value + (widest start last).size := by
  have ends := (widest start last).last_value
  rw [first_widest] at ends
  rw [Block.mem_def]
  change (widest start last).first.value ≤ _ ∧ _ ≤ (widest start last).last.value ↔ _
  rw [first_widest]
  omega

end Widest

theorem isAligned_of_mem_networks {start last : Nat} :
    ∀ n ∈ networks start last, n.IsAligned := by
  induction start using networks.induct last with
  | case1 start h net ih =>
      rw [networks, dif_pos h]
      exact List.forall_mem_cons.mpr ⟨widest_isAligned, ih⟩
  | case2 start h =>
      rw [networks, dif_neg h]
      exact nofun

theorem mem_networks {start last : Nat} (lt : last < 0x100000000) (a : Address) :
    (∃ n ∈ networks start last, a ∈ n.block) ↔ start ≤ a.value ∧ a.value ≤ last := by
  induction start using networks.induct last with
  | case1 start h net ih =>
      have low : Address.value ⟨start, h.2⟩ ≤ last := h.1
      have fits : start + net.size ≤ last + 1 := size_widest_le low
      have first : a ∈ net.block ↔ start ≤ a.value ∧ a.value < start + net.size := mem_widest
      have pos := net.size_pos
      rw [networks, dif_pos h]
      change (∃ n ∈ net :: networks (start + net.size) last, a ∈ n.block) ↔ _
      simp only [List.mem_cons, or_and_right, exists_or, exists_eq_left, first, ih]
      omega
  | case2 start h =>
      rw [networks, dif_neg h]
      simp only [List.not_mem_nil, false_and, exists_false, false_iff]
      omega

/-- Each network ends before the walk goes on, and all that follow begin where it does. -/
theorem networks_ascending {start last : Nat} (lt : last < 0x100000000) :
    (networks start last).Pairwise fun m n => m.last < n.first := by
  induction start using networks.induct last with
  | case1 start h net ih =>
      rw [networks, dif_pos h]
      refine List.pairwise_cons.mpr ⟨fun n mem => ?_, ih⟩
      have behind : start + net.size ≤ n.first.value :=
        ((mem_networks lt n.first).mp ⟨n, mem, n.first_mem_block⟩).1
      have ends : net.last.value + 1 = net.first.value + net.size := net.last_value
      have begins : net.first.value = start := congrArg Address.value first_widest
      change net.last.value < n.first.value
      omega
  | case2 start h =>
      rw [networks, dif_neg h]
      exact List.Pairwise.nil

theorem ofBlock_isExact (b : Block) : IsExact b (ofBlock b) where
  aligned := isAligned_of_mem_networks
  ascending := networks_ascending b.last.value_lt
  mem_iff a := mem_networks b.last.value_lt a

end Cover

end OwnerCache
