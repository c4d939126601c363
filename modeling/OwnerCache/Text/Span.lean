/-
# OwnerCache.Text.Span -- sets of characters

A set of characters is written as the code points at which it starts and stops:
the numbers at even places start a run of members, those at odd places end it, and
all ascend.
-/
namespace OwnerCache.Span

set_option autoImplicit false

/-- Up to a member, one more run starts than ends. -/
def holds (boundaries : List Nat) (c : Char) : Bool :=
  (boundaries.takeWhile (· ≤ c.toNat)).length % 2 == 1

end OwnerCache.Span
