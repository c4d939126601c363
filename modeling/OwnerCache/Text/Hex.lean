/-
# OwnerCache.Text.Hex -- hexadecimal digits

`value?` takes a digit of either case to its value, `write` gives the lower-case
digits of a number without leading zeros.
-/
namespace OwnerCache.Hex

set_option autoImplicit false

def value? (c : Char) : Option Nat :=
  if '0' ≤ c ∧ c ≤ '9' then some (c.toNat - '0'.toNat)
  else if 'a' ≤ c ∧ c ≤ 'f' then some (c.toNat - 'a'.toNat + 10)
  else if 'A' ≤ c ∧ c ≤ 'F' then some (c.toNat - 'A'.toNat + 10)
  else none

/-- The number that digits stand for, if they all are digits; no digits stand for zero. -/
def read? (cs : List Char) : Option Nat :=
  cs.foldlM (fun n c => return n * 16 + (← value? c)) 0

def write (n : Nat) : List Char := Nat.toDigits 16 n

end OwnerCache.Hex
