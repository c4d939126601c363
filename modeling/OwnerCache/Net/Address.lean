/-
# OwnerCache.Net.Address -- IPv4 addresses and dotted quads

An address is a number below 2^32.  Its text is the dotted quad of its four
octets; `read?` accepts exactly the canonical quads, four octets without leading
zeros.  A network grammar that allows leading zeros reads its octets with
`Octet.readLoose?` instead.
-/
import OwnerCache.Text.Decimal

namespace OwnerCache

set_option autoImplicit false

/-! ## Octets -/

namespace Octet

/-- One to three digits below 256, leading zeros allowed. -/
def readLoose? (cs : List Char) : Option (Fin 256) := Decimal.readBelow? 256 3 cs

/-- The canonical digits of a number below 256: only zero itself starts with a zero. -/
def read? (cs : List Char) : Option (Fin 256) :=
  if cs.length = 1 ∨ cs.head? ≠ some '0' then readLoose? cs else none

end Octet

/-! ## Addresses -/

/-- An IPv4 address, as the number its 32 bits stand for. -/
@[ext] structure Address where
  value : Nat
  value_lt : value < 0x100000000
deriving DecidableEq, Repr

namespace Address

instance : LE Address := ⟨fun a b => a.value ≤ b.value⟩
instance : LT Address := ⟨fun a b => a.value < b.value⟩
instance (a b : Address) : Decidable (a ≤ b) := inferInstanceAs (Decidable (a.value ≤ b.value))
instance (a b : Address) : Decidable (a < b) := inferInstanceAs (Decidable (a.value < b.value))
instance : Inhabited Address := ⟨0, by decide⟩

theorem le_def {a b : Address} : a ≤ b ↔ a.value ≤ b.value := Iff.rfl

def ofNat? (n : Nat) : Option Address :=
  if h : n < 0x100000000 then some ⟨n, h⟩ else none

/-- An integer of any size that is the number of an address. -/
def ofInt? (i : Int) : Option Address :=
  if 0 ≤ i then ofNat? i.toNat else none

def ofOctets (a b c d : Fin 256) : Address :=
  ⟨a.val * 0x1000000 + b.val * 0x10000 + c.val * 0x100 + d.val, by omega⟩

/-- The four octets, most significant first. -/
def octets (a : Address) : List Nat :=
  [a.value / 0x1000000, a.value / 0x10000 % 0x100, a.value / 0x100 % 0x100, a.value % 0x100]

/-! ## Dotted quads -/

def write (a : Address) : List Char :=
  ['.'].intercalate (a.octets.map Decimal.write)

/-- Four octets between dots, each read by `octet?`. -/
def readWith? (octet? : List Char → Option (Fin 256)) (cs : List Char) : Option Address :=
  match cs.splitOn '.' with
  | [a, b, c, d] => do return ofOctets (← octet? a) (← octet? b) (← octet? c) (← octet? d)
  | _ => none

/-- A canonical dotted quad. -/
def read? (cs : List Char) : Option Address := readWith? Octet.read? cs

def text (a : Address) : String := String.ofList a.write

def ofText? (s : String) : Option Address := read? s.toList

/-- What is said about a text that is no dotted quad. -/
def syntaxError : String := "invalid IPv4 address syntax"

end Address

end OwnerCache
