/-
# OwnerCache.Store.Volatile -- a store in memory

Ranges and identities are kept in the order of their creation.  A unit of work
writes in place and keeps a journal of what it takes to undo it: how many rows
there were, the counters, and every owner it replaced.  A unit that ends with an
error is rolled back from the journal.

Within a unit rows are only appended and owners only set, so cutting the lists
back and putting the replaced owners back, the latest first, restores the state.

The counters of ids have no greatest value here.  They count up from 0, one for each
range or identity that is created, so they do not come to the end of 64 bits.
-/
import OwnerCache.Store.Basic

namespace OwnerCache

set_option autoImplicit false

@[ext] structure Volatile where
  ranges : List AddressRange := []
  identities : List Identity := []
  lastRangeId : Int := 0
  lastIdentityId : Int := 0
deriving DecidableEq, Repr

namespace Volatile

def identity? (s : Volatile) (id : Int) : Option Identity := s.identities.find? (·.id = id)

/-- Set the owner of the first range with an id. -/
def setOwner (id : Int) (owner : Option Int) : List AddressRange → List AddressRange
  | [] => []
  | r :: rs => if r.id = id then { r with ownerId := owner } :: rs else r :: setOwner id owner rs

/-! ## Units of work -/

/-- What it takes to undo a unit of work. -/
structure Journal where
  rangeCount : Nat
  identityCount : Nat
  lastRangeId : Int
  lastIdentityId : Int
  /-- Ranges that were given an owner, with the one they had before; the latest first. -/
  replaced : List (Int × Option Int) := []

structure Draft where
  store : Volatile
  journal : Journal

def Draft.begin (s : Volatile) : Draft :=
  ⟨s, { rangeCount := s.ranges.length, identityCount := s.identities.length,
        lastRangeId := s.lastRangeId, lastIdentityId := s.lastIdentityId }⟩

def Draft.rollback (d : Draft) : Volatile :=
  { ranges := d.journal.replaced.foldl (fun ranges (id, owner) => setOwner id owner ranges)
      (d.store.ranges.take d.journal.rangeCount)
    identities := d.store.identities.take d.journal.identityCount
    lastRangeId := d.journal.lastRangeId
    lastIdentityId := d.journal.lastIdentityId }

def createRange (block : Block) (createdAt : Instant) (s : Volatile) : Placed × Volatile :=
  match s.ranges.find? (·.block = block) with
  | some range => (⟨range, false⟩, s)
  | none =>
    let range : AddressRange := ⟨s.lastRangeId + 1, block, none, createdAt⟩
    (⟨range, true⟩, { s with ranges := s.ranges ++ [range], lastRangeId := s.lastRangeId + 1 })

def findIdentity (name : String) (country : Option String) (s : Volatile) : Option Identity :=
  s.identities.find? fun i => i.name = some name ∧ i.country = country

def createIdentity (name country : Option String) (s : Volatile) : Identity × Volatile :=
  let identity : Identity := ⟨s.lastIdentityId + 1, name, country⟩
  (identity,
    { s with identities := s.identities ++ [identity], lastIdentityId := s.lastIdentityId + 1 })

/-- The owner has to be there first, then the range. -/
def attachOwner (rangeId ownerId : Int) (d : Draft) : Except StoreError Unit × Draft :=
  if d.store.identity? ownerId = none then (.error (.backend (.unknownIdentity ownerId)), d)
  else match d.store.ranges.find? (·.id = rangeId) with
    | none => (.error (.backend (.unknownRange rangeId)), d)
    | some range =>
      (.ok (),
        { store := { d.store with ranges := setOwner rangeId (some ownerId) d.store.ranges }
          journal :=
            { d.journal with replaced := (rangeId, range.ownerId) :: d.journal.replaced } })

def perform : Perform Draft
  | .createRange block createdAt, d =>
    let (placed, store) := createRange block createdAt d.store
    (.ok placed, { d with store := store })
  | .getIdentity id, d => (.ok (d.store.identity? id), d)
  | .findIdentity name country, d => (.ok (findIdentity name country d.store), d)
  | .createIdentity name country, d =>
    let (identity, store) := createIdentity name country d.store
    (.ok identity, { d with store := store })
  | .attachOwner rangeId ownerId, d => attachOwner rangeId ownerId d

def transact {α : Type} (work : Work α) (s : Volatile) : Except StoreError α × Volatile :=
  match work.run perform (Draft.begin s) with
  | (.ok a, d) => (.ok a, d.store)
  | (.error e, d) => (.error e, d.rollback)

/-! ## Reading and expiry -/

def rank (r : AddressRange) : Rank := ⟨r.length, r.block.first.value, r.id⟩

def bestMatch (s : Volatile) (a : Address) : Option RangeMatch :=
  (Rank.least? rank (s.ranges.filter fun r => a ∈ r.block)).map fun range =>
    ⟨range, range.ownerId.bind s.identity?⟩

def deleteExpired (ttl : Duration) (now : Instant) (s : Volatile) : Nat × Volatile :=
  let kept := s.ranges.filter fun r => r.IsFresh ttl now
  (s.ranges.length - kept.length, { s with ranges := kept })

instance : RangeStore Volatile where
  bestMatch s a := .ok (s.bestMatch a)
  transact := transact
  transcript work s := work.transcript perform (Draft.begin s)
  deleteExpired ttl now s := let (n, s) := s.deleteExpired ttl now; (.ok n, s)
  rangeCount s := s.ranges.length
  identityCount s := s.identities.length

end Volatile

end OwnerCache
