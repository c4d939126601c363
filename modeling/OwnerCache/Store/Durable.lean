/-
# OwnerCache.Store.Durable -- a store of rows

The rows hold plain 64-bit integers, and times as milliseconds, rounded down.
Rows can be put in from outside, so a row need not mean anything: which row wins
an address is decided on the integers as they are, and only the row that is used
has to be a range (`Row.range`).

Ids come from counters that only grow: the next id is one more than the greatest
ever given, and asking for a range takes an id even if the range exists.  A unit
of work that ends with an error leaves no trace, the ids it took included.

There is one way out of a unit of work: a request that finds no id left abandons
it.  All that the unit did is undone there and then, and what it still asks takes
effect at once, whatever its end; a unit that would end well finds nothing to
commit.
-/
import OwnerCache.Store.Basic
import OwnerCache.Store.Wide

namespace OwnerCache

set_option autoImplicit false

@[ext] structure Row where
  id : Int
  first : Int
  last : Int
  ownerId : Option Int
  /-- Milliseconds since 1970. -/
  createdAt : Int
deriving DecidableEq, Repr

namespace Row

/-- A bound of a row, as an address. -/
def bound (id value : Int) : Except StoreError Address :=
  match Address.ofInt? value with
  | some a => .ok a
  | none => .error (.corrupt (.bound id value))

/-- The range that a row means: its time is looked at first, then its bounds. -/
def range (r : Row) : Except StoreError AddressRange := do
  match Instant.ofMillis? r.createdAt with
  | none => throw (.corrupt (.time r.id r.createdAt))
  | some createdAt =>
    let first ← bound r.id r.first
    let last ← bound r.id r.last
    return ⟨r.id, ⟨first, last⟩, r.ownerId, createdAt⟩

/-- The length by which rows compete. -/
def length (r : Row) : Int := if 1 < r.last then Wide.difference r.last r.first else 0

def rank (r : Row) : Rank := ⟨r.length, r.first, r.id⟩

def Covers (r : Row) (a : Address) : Prop := r.first ≤ a.value ∧ a.value ≤ r.last

instance (r : Row) (a : Address) : Decidable (r.Covers a) :=
  inferInstanceAs (Decidable (_ ∧ _))

/-- The row spans exactly a block. -/
def Spans (r : Row) (b : Block) : Prop := r.first = b.first.value ∧ r.last = b.last.value

instance (r : Row) (b : Block) : Decidable (r.Spans b) := inferInstanceAs (Decidable (_ ∧ _))

end Row

@[ext] structure Durable where
  rows : List Row := []
  identities : List Identity := []
  lastRangeId : Int := 0
  lastIdentityId : Int := 0
deriving DecidableEq, Repr

namespace Durable

/-- The greatest id there is. -/
def greatestId : Int := 0x7FFFFFFFFFFFFFFF

def identity? (s : Durable) (id : Int) : Option Identity := s.identities.find? (·.id = id)

/-! ## Units of work -/

def createRange (block : Block) (createdAt : Instant) (s : Durable) :
    Except StoreError Placed × Durable :=
  if s.lastRangeId = greatestId then (.error (.backend .full), s)
  else
    let id := s.lastRangeId + 1
    match s.rows.find? (·.Spans block) with
    | some row => (row.range.map (⟨·, false⟩), { s with lastRangeId := id })
    | none =>
      let row : Row := ⟨id, block.first.value, block.last.value, none, createdAt.millis⟩
      (row.range.map (⟨·, true⟩), { s with rows := s.rows ++ [row], lastRangeId := id })

def findIdentity (name : String) (country : Option String) (s : Durable) : Option Identity :=
  s.identities.find? fun i => i.name = some name ∧ i.country = country

def createIdentity (name country : Option String) (s : Durable) :
    Except StoreError Identity × Durable :=
  if s.lastIdentityId = greatestId then (.error (.backend .full), s)
  else
    let identity : Identity := ⟨s.lastIdentityId + 1, name, country⟩
    (.ok identity,
      { s with identities := s.identities ++ [identity], lastIdentityId := s.lastIdentityId + 1 })

/-- The range has to be there first, then the owner. -/
def attachOwner (rangeId ownerId : Int) (s : Durable) : Except StoreError Unit × Durable :=
  if s.rows.any (·.id = rangeId) then
    if s.identity? ownerId = none then (.error (.backend .danglingOwner), s)
    else
      (.ok (),
        { s with rows := s.rows.map fun r =>
            if r.id = rangeId then { r with ownerId := some ownerId } else r })
  else (.error (.backend (.unknownRange rangeId)), s)

/-- The answer to a request, and the store that it leaves. -/
def answer : Perform Durable
  | .createRange block createdAt, s => createRange block createdAt s
  | .getIdentity id, s => (.ok (s.identity? id), s)
  | .findIdentity name country, s => (.ok (findIdentity name country s), s)
  | .createIdentity name country, s => createIdentity name country s
  | .attachOwner rangeId ownerId, s => attachOwner rangeId ownerId s

/-- A unit of work under way. -/
structure Draft where
  /-- The store at its start. -/
  saved : Durable
  store : Durable
  /-- Whether the unit was abandoned. -/
  abandoned : Bool := false

def Draft.begin (s : Durable) : Draft := ⟨s, s, false⟩

/-- Undo all that a unit did; an abandoned unit has nothing to undo. -/
def Draft.abandon (d : Draft) : Draft :=
  if d.abandoned then d else { d with store := d.saved, abandoned := true }

def Draft.rollback (d : Draft) : Durable := if d.abandoned then d.store else d.saved

def perform : Perform Draft := fun q d =>
  match answer q d.store with
  | (.error (.backend .full), _) => (.error (.backend .full), d.abandon)
  | (reply, store) => (reply, { d with store := store })

def transact {α : Type} (work : Work α) (s : Durable) : Except StoreError α × Durable :=
  match work.run perform (Draft.begin s) with
  | (.ok a, d) => (if d.abandoned then .error (.backend .abandoned) else .ok a, d.store)
  | (.error e, d) => (.error e, d.rollback)

/-! ## Reading and expiry -/

def bestMatch (s : Durable) (a : Address) : Except StoreError (Option RangeMatch) :=
  match Rank.least? Row.rank (s.rows.filter (·.Covers a)) with
  | none => .ok none
  | some row => row.range.map fun range => some ⟨range, range.ownerId.bind s.identity?⟩

def deleteExpired (ttl : Duration) (now : Instant) (s : Durable) : Nat × Durable :=
  let oldest := (Instant.cutoff ttl now).millis
  let kept := s.rows.filter fun r => oldest ≤ r.createdAt
  (s.rows.length - kept.length, { s with rows := kept })

instance : RangeStore Durable where
  bestMatch := bestMatch
  transact := transact
  transcript work s := work.transcript perform (Draft.begin s)
  deleteExpired ttl now s := let (n, s) := s.deleteExpired ttl now; (.ok n, s)
  rangeCount s := s.rows.length
  identityCount s := s.identities.length

/-! ## Rows from outside -/

/-- Put a row in as it is.  Without an id it takes the next one; a given id is never given
again.  Ids and bounds of rows have to differ. -/
def insertRow (id? : Option Int) (first last : Int) (ownerId : Option Int) (createdAt : Int)
    (s : Durable) : Except StoreError Unit × Durable :=
  if id? = none ∧ s.lastRangeId = greatestId then (.error (.backend .full), s)
  else
    let id := id?.getD (s.lastRangeId + 1)
    if s.rows.any (·.id = id) then
      (.error (.backend (.duplicate "address_ranges.id")), s)
    else if s.rows.any fun r => r.first = first ∧ r.last = last then
      (.error (.backend (.duplicate "address_ranges.range_from, address_ranges.range_to")), s)
    else
      (.ok (),
        { s with
          rows := s.rows ++ [⟨id, first, last, ownerId, createdAt⟩]
          lastRangeId := max s.lastRangeId id })

end Durable

end OwnerCache
