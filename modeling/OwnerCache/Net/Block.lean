/-
# OwnerCache.Net.Block -- inclusive blocks of addresses and their length

A block is given by its first and its last address; a block whose last address
comes before its first holds nothing.  `length` is the measure by which blocks
compete for an address: the distance from first to last, except that a block
ending at 0.0.0.0 or 0.0.0.1 is a placeholder and has length 0.
-/
import OwnerCache.Net.Address

namespace OwnerCache

set_option autoImplicit false

structure Block where
  first : Address
  last : Address
deriving DecidableEq, Repr

namespace Block

def single (a : Address) : Block := ⟨a, a⟩

instance : Membership Address Block := ⟨fun b a => b.first ≤ a ∧ a ≤ b.last⟩

instance (a : Address) (b : Block) : Decidable (a ∈ b) :=
  inferInstanceAs (Decidable (b.first ≤ a ∧ a ≤ b.last))

theorem mem_def {a : Address} {b : Block} :
    a ∈ b ↔ b.first.value ≤ a.value ∧ a.value ≤ b.last.value := Iff.rfl

/-- The distance from the first to the last address; 0 for a placeholder. -/
def length (b : Block) : Nat :=
  if 1 < b.last.value then b.last.value - b.first.value else 0

/-- First and last address with a hyphen between them. -/
def text (b : Block) : String := b.first.text ++ "-" ++ b.last.text

end Block

end OwnerCache
