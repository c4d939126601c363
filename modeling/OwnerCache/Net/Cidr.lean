/-
# OwnerCache.Net.Cidr -- networks in address/length notation

A network is an address with the length of its fixed part.  It spans the
`size = 2^(32 - length)` addresses that agree with it on that part: `first` is
the address with the free bits cleared, `last` the one with them set.  The
address itself may have free bits set; a network without them is `IsAligned`.

`read?` is the loose notation: octets of one to three digits, leading zeros
allowed, a slash, and a length of one or two digits up to 32.
-/
import OwnerCache.Net.Block

namespace OwnerCache

set_option autoImplicit false

structure Cidr where
  address : Address
  length : Nat
  length_le : length ≤ 32
deriving DecidableEq, Repr

namespace Cidr

/-- The number of addresses in the network. -/
def size (n : Cidr) : Nat := 1 <<< (32 - n.length)

theorem size_pos (n : Cidr) : 0 < n.size := by
  rw [size, Nat.one_shiftLeft]
  exact Nat.two_pow_pos _

/-- The space of all addresses is a whole number of networks of one size. -/
theorem size_dvd (n : Cidr) : n.size ∣ 0x100000000 := by
  rw [size, Nat.one_shiftLeft]
  exact Nat.pow_dvd_pow 2 (Nat.sub_le 32 n.length)

/-- The address with every free bit cleared. -/
def first (n : Cidr) : Address :=
  ⟨n.address.value / n.size * n.size,
    Nat.lt_of_le_of_lt (Nat.div_mul_le_self _ _) n.address.value_lt⟩

/-- The address with every free bit set. -/
def last (n : Cidr) : Address :=
  ⟨n.address.value / n.size * n.size + (n.size - 1), by
    obtain ⟨k, whole⟩ := n.size_dvd
    have below : n.address.value / n.size < k :=
      (Nat.div_lt_iff_lt_mul n.size_pos).2 (by
        rw [Nat.mul_comm, ← whole]; exact n.address.value_lt)
    have room : (n.address.value / n.size + 1) * n.size ≤ k * n.size :=
      Nat.mul_le_mul_right _ below
    have pos := n.size_pos
    rw [Nat.mul_comm k] at room
    rw [Nat.add_mul, Nat.one_mul] at room
    omega⟩

def block (n : Cidr) : Block := ⟨n.first, n.last⟩

/-- No free bit is set. -/
def IsAligned (n : Cidr) : Prop := n.address.value % n.size = 0

instance (n : Cidr) : Decidable n.IsAligned :=
  inferInstanceAs (Decidable (n.address.value % n.size = 0))

/-- The network of a single address. -/
def ofAddress (a : Address) : Cidr := ⟨a, 32, Nat.le_refl _⟩

/-- A network spelled with its octets and its length. -/
def ofOctets (a b c d : Fin 256) (length : Fin 33) : Cidr :=
  ⟨Address.ofOctets a b c d, length.val, by omega⟩

/-! ## Notation -/

/-- A length of one or two digits, at most 32. -/
def readLength? (cs : List Char) : Option (Fin 33) := Decimal.readBelow? 33 2 cs

def read? (cs : List Char) : Option Cidr :=
  match cs.splitOn '/' with
  | [a, l] => do
    let address ← Address.readWith? Octet.readLoose? a
    let length ← readLength? l
    return ⟨address, length.val, by omega⟩
  | _ => none

def write (n : Cidr) : List Char := n.address.write ++ '/' :: Decimal.write n.length

/-- What is said about a text that is not in network notation. -/
def syntaxError : String := "invalid IP address syntax"

end Cidr

end OwnerCache
