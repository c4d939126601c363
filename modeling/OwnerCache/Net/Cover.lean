/-
# OwnerCache.Net.Cover -- covering a block by aligned networks

`cover first last` walks from `first` upwards and takes, at each point, the
widest aligned network that starts there and ends no later than `last`; no
network is wider than half of the address space.  The networks come out
ascending, without gaps and without overlap.
-/
import OwnerCache.Net.Cidr

namespace OwnerCache.Cover

set_option autoImplicit false

/-- The largest `k ≤ bound` for which `2^k` addresses fit from `start`, aligned, into `room`. -/
def freeBits (start room : Nat) : Nat → Nat
  | 0 => 0
  | k + 1 =>
    if start % (1 <<< (k + 1)) = 0 ∧ 1 <<< (k + 1) ≤ room then k + 1 else freeBits start room k

theorem freeBits_le (start room k : Nat) : freeBits start room k ≤ k := by
  induction k with
  | zero => exact Nat.le_refl _
  | succ k ih =>
    rw [freeBits]
    split
    · exact Nat.le_refl _
    · omega

/-- The first network of the cover of `start .. last`. -/
def widest (start : Address) (last : Nat) : Cidr :=
  ⟨start, 32 - freeBits start.value (last - start.value + 1) 31, Nat.sub_le _ _⟩

/-- The networks from the number `start` up to and including the number `last`. -/
def networks (start last : Nat) : List Cidr :=
  if h : start ≤ last ∧ start < 0x100000000 then
    let net := widest ⟨start, h.2⟩ last
    net :: networks (start + net.size) last
  else []
termination_by last + 1 - start
decreasing_by
  have pos := (widest ⟨start, h.2⟩ last).size_pos
  omega

/-- The networks that cover a block; none when its last address comes before its first. -/
def ofBlock (b : Block) : List Cidr := networks b.first.value b.last.value

end OwnerCache.Cover
