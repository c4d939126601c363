/-
# OwnerCache.Text.Decimal -- numbers as decimal digits

`write` gives the digits of a number without leading zeros, `read?` takes any
nonempty run of ASCII digits back to its value.  Reading undoes writing
(`read?_write`); leading zeros are a reader's business, so grammars that refuse
them say so themselves.
-/
namespace OwnerCache.Decimal

set_option autoImplicit false

/-- The digits of a number, most significant first. -/
def write (n : Nat) : List Char := Nat.toDigits 10 n

/-- The number that a run of digits stands for. -/
def value (digits : List Char) : Nat := Nat.ofDigitChars 10 digits 0

/-- A nonempty run of digits and nothing else. -/
def read? (cs : List Char) : Option Nat :=
  if cs ≠ [] ∧ cs.all Char.isDigit = true then some (value cs) else none

/-- At most `width` digits with a value below `bound`, leading zeros allowed. -/
def readBelow? (bound width : Nat) (cs : List Char) : Option (Fin bound) := do
  let n ← read? cs
  if h : n < bound ∧ cs.length ≤ width then some ⟨n, h.1⟩ else none

/-- The digits of a number, filled up with zeros to at least `width` of them. -/
def writePadded (width n : Nat) : List Char :=
  List.replicate (width - (write n).length) '0' ++ write n

/-- An integer: a minus sign for the negative ones, then the digits. -/
def writeInt : Int → List Char
  | .ofNat n => write n
  | .negSucc n => '-' :: write (n + 1)

/-! ## Reading undoes writing -/

theorem write_ne_nil (n : Nat) : write n ≠ [] := Nat.toDigits_ne_nil

theorem isDigit_of_mem_write {n : Nat} {c : Char} (h : c ∈ write n) : c.isDigit = true :=
  Nat.isDigit_of_mem_toDigits (by omega) (by omega) h

theorem value_write (n : Nat) : value (write n) = n :=
  Nat.ofDigitChars_toDigits (by omega) (by omega)

@[simp] theorem read?_write (n : Nat) : read? (write n) = some n := by
  have digits : (write n).all Char.isDigit = true :=
    List.all_eq_true.2 fun _ h => isDigit_of_mem_write h
  simp [read?, write_ne_nil, digits, value_write]

end OwnerCache.Decimal
