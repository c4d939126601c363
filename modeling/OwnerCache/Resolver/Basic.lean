/-
# OwnerCache.Resolver.Basic -- who owns an address

To resolve an address is three steps, each atomic on the store:

* `readCache`: the range that wins the address settles the matter if it is not
  longer than what is accepted, and otherwise leaves its owner as a fallback;
* `Resolver.lookup`: a special-purpose network or else the provider gives a
  finding, or a cause why there is none;
* `conclude`: a finding is stored as one unit of work (`commit`); without one
  the fallback is the answer and the store is left alone.

`Resolver.matchOrCreate` is the three in a row.  The provider and the clock are
operations of a monad, so that a run can be taken with any behaviour of theirs;
calls whose steps overlap are in `OwnerCache.Resolver.Schedule`.
-/
import OwnerCache.Resolver.Event
import OwnerCache.Store.Basic
import OwnerCache.Whois.Finding

namespace OwnerCache

set_option autoImplicit false

/-! ## Settings and capabilities -/

namespace Settings

/-- The longest range accepted without a lookup by default: 256 * 256 * 64 addresses. -/
def defaultAcceptedLength : Nat := 4194304

end Settings

structure Settings where
  /-- Longer cached ranges are looked up again. -/
  acceptedLength : Nat := Settings.defaultAcceptedLength
  /-- The time a provider has for an answer. -/
  timeout : Duration := .ofSeconds 10
deriving DecidableEq, Repr

/-- How a provider meets a question within the time it has. -/
inductive Reply where
  | record (record : Whois.Record)
  | failure (cause : Whois.Error)
  | silence
deriving DecidableEq, Repr

/-- What a resolver decides by. -/
structure Policy where
  settings : Settings
  /-- The name of the special-purpose network of an address. -/
  classify : Address → Option String

/-- A policy, and what a resolver needs from outside. -/
structure Resolver (m : Type → Type) extends Policy where
  /-- Ask the provider. -/
  ask : Address → m Reply
  clock : m Instant

/-! ## Reading the cache -/

inductive ResolveError where
  | notFound (address : Address)
  | store (cause : StoreError)
deriving DecidableEq, Repr

def ResolveError.message : ResolveError → String
  | .notFound a => "no address range covers " ++ a.text
  | .store cause => cause.message

/-- What the cache says about an address. -/
inductive Reading where
  | settled (owner : Option Identity)
  | tooBroad (owner : Option Identity) (length : Nat)
  | absent
deriving DecidableEq, Repr

namespace Reading

/-- The owner to fall back on. -/
def fallback : Reading → Option Identity
  | .settled owner => owner
  | .tooBroad owner _ => owner
  | .absent => none

def events (a : Address) : Reading → List Event
  | .tooBroad _ length => [.tooBroad a length]
  | _ => []

end Reading

variable {σ : Type} [RangeStore σ]

/-- The owner of the range that wins an address, with the length of the range. -/
def matchAddress (s : σ) (a : Address) : Except ResolveError (Option Identity × Nat) :=
  match RangeStore.bestMatch s a with
  | .ok (some found) => .ok (found.owner, found.length)
  | .ok none => .error (.notFound a)
  | .error e => .error (.store e)

def readCache (accepted : Nat) (s : σ) (a : Address) : Except StoreError Reading :=
  match matchAddress s a with
  | .ok (owner, length) =>
    if length ≤ accepted then .ok (.settled owner) else .ok (.tooBroad owner length)
  | .error (.notFound _) => .ok .absent
  | .error (.store e) => .error e

/-! ## Lookup -/

/-- What an answer means for an address. -/
def Settings.interpret (settings : Settings) (a : Address) :
    Reply → Except Whois.Error Whois.Finding × List Event
  | .record record => (Whois.Finding.ofRecord a record, [.received a])
  | .failure cause => (.error cause, [])
  | .silence => (.error (.unavailable (.timedOut settings.timeout)), [])

/-- A finding for an address; the provider is asked only about ordinary addresses. -/
def Resolver.lookup {m : Type → Type} [Monad m] (r : Resolver m) (a : Address) :
    m (Except Whois.Error Whois.Finding × List Event) :=
  match r.classify a with
  | some name => pure (.ok (.reserved a name), [.reserved a name])
  | none => return r.settings.interpret a (← r.ask a)

/-! ## Storing a finding -/

/-- The result of storing a finding, with the event that tells it. -/
structure Committed where
  resolution : Resolution
  event : Event
deriving DecidableEq, Repr

/-- The identity of a name and a country, and whether it is new.  Without a name it always is. -/
def identify (name country : Option String) : Work (Identity × Bool) :=
  match name with
  | some known => do
    match ← Work.request (.findIdentity known country) with
    | some identity => return (identity, false)
    | none => return (← Work.request (.createIdentity (some known) country), true)
  | none => return (← Work.request (.createIdentity none country), true)

/-- Store the block of a finding and give it its owner; a block that is stored already keeps
the owner it has. -/
def commit (finding : Whois.Finding) (now : Instant) : Work Committed := do
  let placed ← Work.request (.createRange finding.block now)
  if placed.inserted then
    let (owner, created) ← identify finding.description finding.country
    Work.request (.attachOwner placed.range.id owner.id)
    return ⟨⟨some owner, created⟩, .attributed placed.range owner⟩
  else
    let owner ← match placed.range.ownerId with
      | some id => Work.request (.getIdentity id)
      | none => pure none
    return ⟨.existing owner, .alreadyOwned placed.range owner⟩

/-! ## Resolving -/

/-- What came of a call: its result, the events it caused and the store it left. -/
structure Outcome (σ : Type) where
  result : Except StoreError Resolution
  events : List Event
  store : σ

/-- Store a finding, or fall back where there is none. -/
def conclude (a : Address) (fallback : Option Identity)
    (found : Except Whois.Error Whois.Finding) (now : Instant) (s : σ) : Outcome σ :=
  match found with
  | .error cause => ⟨.ok (.existing fallback), [.lookupFailed a cause], s⟩
  | .ok finding =>
    match RangeStore.transact (commit finding now) s with
    | (.ok committed, s) => ⟨.ok committed.resolution, [committed.event], s⟩
    | (.error e, s) => ⟨.error e, [], s⟩

/-- Resolve an address from the cache, or else look it up and store what is found. -/
def Resolver.matchOrCreate {m : Type → Type} [Monad m] (r : Resolver m) (a : Address) (s : σ) :
    m (Outcome σ) :=
  match readCache r.settings.acceptedLength s a with
  | .error e => pure ⟨.error e, [], s⟩
  | .ok (.settled owner) => pure ⟨.ok (.existing owner), [], s⟩
  | .ok reading => do
    let (found, events) ← r.lookup a
    let outcome := conclude a reading.fallback found (← r.clock) s
    return { outcome with events := reading.events a ++ events ++ outcome.events }

end OwnerCache
