/-
# OwnerCache.Store.Wide -- differences of 64-bit numbers

The difference of two 64-bit numbers need not be one.  Where it is not, it is
taken between the numbers rounded to 53 significant bits and rounded once more,
a tie going to the even neighbour.
-/
namespace OwnerCache.Wide

set_option autoImplicit false

/-- The nearest number with at most 53 significant bits. -/
def roundNat (n : Nat) : Nat :=
  let unit := 1 <<< (n.log2 + 1 - 53)
  let quotient := n / unit
  let rest := n % unit
  if unit < 2 * rest ∨ unit = 2 * rest ∧ quotient % 2 = 1 then (quotient + 1) * unit
  else quotient * unit

def round (i : Int) : Int := if i < 0 then -(roundNat i.natAbs : Int) else roundNat i.natAbs

def Fits (i : Int) : Prop := -0x8000000000000000 ≤ i ∧ i < 0x8000000000000000

instance (i : Int) : Decidable (Fits i) := inferInstanceAs (Decidable (_ ∧ _))

def difference (a b : Int) : Int := if Fits (a - b) then a - b else round (round a - round b)

theorem difference_eq {a b : Int} (h : Fits (a - b)) : difference a b = a - b := if_pos h

end OwnerCache.Wide
