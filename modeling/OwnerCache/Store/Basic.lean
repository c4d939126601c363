/-
# OwnerCache.Store.Basic -- what a store of ranges does

A store answers which range wins an address, performs units of work as a whole,
and deletes what has expired.  `Rank` is the order in which ranges compete: the
shorter one wins, then the one that starts first, then the older one.

How many ranges and identities there are is always known: a store that cannot be
counted is not among these.
-/
import OwnerCache.Store.Work

namespace OwnerCache

set_option autoImplicit false

class RangeStore (σ : Type) where
  /-- The range that wins an address. -/
  bestMatch : σ → Address → Except StoreError (Option RangeMatch)
  /-- A unit of work as a whole. -/
  transact : {α : Type} → Work α → σ → Except StoreError α × σ
  /-- The requests of a unit of work and their replies, as `transact` would make them. -/
  transcript : {α : Type} → Work α → σ → List Work.Asked
  /-- Delete the ranges that are no longer fresh; the reply is their number. -/
  deleteExpired : Duration → Instant → σ → Except StoreError Nat × σ
  rangeCount : σ → Nat
  identityCount : σ → Nat

/-! ## Competing ranges -/

@[ext] structure Rank where
  length : Int
  first : Int
  id : Int
deriving DecidableEq, Repr

namespace Rank

/-- The lexicographic order of length, first address and id. -/
def Before (a b : Rank) : Prop :=
  a.length < b.length ∨ a.length = b.length ∧
    (a.first < b.first ∨ a.first = b.first ∧ a.id < b.id)

instance (a b : Rank) : Decidable (a.Before b) := by unfold Before; infer_instance

/-- The element of least rank, of equal ones the first. -/
def least? {α : Type} (rank : α → Rank) : List α → Option α
  | [] => none
  | x :: xs =>
    match least? rank xs with
    | none => some x
    | some y => if (rank y).Before (rank x) then some y else some x

end Rank

end OwnerCache
