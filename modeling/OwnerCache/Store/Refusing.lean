/-
# OwnerCache.Store.Refusing -- a store that does not answer

A store in front of which some kinds of request are refused, each with an error of
its own.  What is refused leaves the store as it is.  A store that may only be read
is one that refuses to write (`readOnly`).  To count what it holds is not among the
requests, and never refused.
-/
import OwnerCache.Store.Basic

namespace OwnerCache

set_option autoImplicit false

structure Refusing (σ : Type) where
  store : σ
  find : Option StoreError := none
  transaction : Option StoreError := none
  delete : Option StoreError := none

namespace Refusing

variable {σ : Type}

def readOnly (s : σ) : Refusing σ :=
  { store := s
    transaction := some (.backend .readOnly)
    delete := some (.backend .readOnly) }

variable [RangeStore σ]

instance : RangeStore (Refusing σ) where
  bestMatch s a :=
    match s.find with
    | some e => .error e
    | none => RangeStore.bestMatch s.store a
  transact work s :=
    match s.transaction with
    | some e => (.error e, s)
    | none =>
      let (result, store) := RangeStore.transact work s.store
      (result, { s with store := store })
  transcript work s :=
    match s.transaction with
    | some _ => []
    | none => RangeStore.transcript work s.store
  deleteExpired ttl now s :=
    match s.delete with
    | some e => (.error e, s)
    | none =>
      let (result, store) := RangeStore.deleteExpired ttl now s.store
      (result, { s with store := store })
  rangeCount s := RangeStore.rangeCount s.store
  identityCount s := RangeStore.identityCount s.store

end Refusing

end OwnerCache
