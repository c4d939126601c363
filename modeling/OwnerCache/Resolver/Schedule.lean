/-
# OwnerCache.Resolver.Schedule -- calls that overlap on one store

Calls on one store run side by side, each under a policy of its own.  Others can
come in between at two points only: while a call waits for its lookup, and
before it stores what it has learned.  So a call is cut into three steps, each
atomic on the store; sweeps and looks, which only ask who owns an address, are
steps of their own.

A schedule is any list of steps.  Calls are numbered in the order they begin; a
step of a call that is not due for it changes nothing, so every list is a
schedule and every interleaving is one.  Three steps of one call in a row are
that call by itself (`run_alone`).

`trace` is what a run lets be seen: step by step what a call returns, what a sweep
deletes, what a look finds, and how much the store holds then.
-/
import OwnerCache.Resolver.Basic

namespace OwnerCache.Schedule

set_option autoImplicit false

variable {σ : Type} [RangeStore σ]

/-! ## One call -/

/-- What a lookup gives if the provider would reply so: an address of a special-purpose network
is settled by its name alone. -/
def lookedUp (policy : Policy) (a : Address) (reply : Reply) : Except Whois.Error Whois.Finding :=
  match policy.classify a with
  | some name => .ok (.reserved a name)
  | none => (policy.settings.interpret a reply).1

/-- How far a call has come. -/
inductive Progress where
  /-- The cache did not settle the matter. -/
  | lookingUp (reading : Reading)
  /-- The lookup is over, and its result is not stored yet. -/
  | informed (reading : Reading) (found : Except Whois.Error Whois.Finding)
  /-- The call is over; without a lookup nothing was found or missed. -/
  | returned (found : Option (Except Whois.Error Whois.Finding))
      (result : Except StoreError Resolution)

structure Call where
  policy : Policy
  address : Address
  progress : Progress

namespace Call

/-- A call begins with its reading of the cache, which may already settle it. -/
def begin (policy : Policy) (a : Address) (s : σ) : Call :=
  { policy := policy
    address := a
    progress :=
      match readCache policy.settings.acceptedLength s a with
      | .error e => .returned none (.error e)
      | .ok (.settled owner) => .returned none (.ok (.existing owner))
      | .ok reading => .lookingUp reading }

/-- The lookup ends, with the provider's reply where it was asked. -/
def answer (reply : Reply) (c : Call) : Call :=
  match c.progress with
  | .lookingUp reading =>
    { c with progress := .informed reading (lookedUp c.policy c.address reply) }
  | _ => c

/-- The call stores what it has learned and returns. -/
def finish (now : Instant) (c : Call) (s : σ) : Call × σ :=
  match c.progress with
  | .informed reading found =>
    let outcome := conclude c.address reading.fallback found now s
    ({ c with progress := .returned (some found) outcome.result }, outcome.store)
  | _ => (c, s)

/-- What the call returned, if it is over. -/
def result? (c : Call) : Option (Except StoreError Resolution) :=
  match c.progress with
  | .returned _ result => some result
  | _ => none

end Call

/-! ## Many calls -/

/-- A store and the calls on it, in the order they began. -/
structure World (σ : Type) where
  store : σ
  calls : List Call := []

inductive Step where
  | begin (policy : Policy) (address : Address)
  | answer (call : Nat) (reply : Reply)
  | finish (call : Nat) (now : Instant)
  | sweep (ttl : Duration) (now : Instant)
  | look (address : Address)

namespace World

def step (w : World σ) : Step → World σ
  | .begin policy a => { w with calls := w.calls ++ [.begin policy a w.store] }
  | .answer i reply => { w with calls := w.calls.modify i (Call.answer reply) }
  | .finish i now =>
    match w.calls[i]? with
    | some c =>
      let (c, s) := c.finish now w.store
      ⟨s, w.calls.set i c⟩
    | none => w
  | .sweep ttl now => { w with store := (RangeStore.deleteExpired ttl now w.store).2 }
  | .look _ => w

def run (w : World σ) (steps : List Step) : World σ := steps.foldl step w

end World

/-! ## What is seen -/

/-- What a step lets be seen. -/
inductive Sight where
  | nothing
  | returned (result : Except StoreError Resolution)
  | deleted (result : Except StoreError Nat)
  | found (result : Except ResolveError (Option Identity × Nat))

def Sight.ofResult? : Option (Except StoreError Resolution) → Sight
  | some result => .returned result
  | none => .nothing

/-- What is seen of a step, and the numbers of ranges and identities after it. -/
structure Seen where
  sight : Sight
  ranges : Nat
  identities : Nat

namespace World

def sight (w : World σ) : Step → Sight
  | .begin policy a => .ofResult? (Call.begin policy a w.store).result?
  | .answer .. => .nothing
  | .finish i now =>
    match w.calls[i]? with
    | some c => if c.result?.isSome then .nothing else .ofResult? (c.finish now w.store).1.result?
    | none => .nothing
  | .sweep ttl now => .deleted (RangeStore.deleteExpired ttl now w.store).1
  | .look a => .found (matchAddress w.store a)

/-- What a run lets be seen, step by step. -/
def trace (w : World σ) : List Step → List Seen
  | [] => []
  | step :: steps =>
    let w' := w.step step
    ⟨w.sight step, RangeStore.rangeCount w'.store, RangeStore.identityCount w'.store⟩ ::
      w'.trace steps

end World

/-! ## A call by itself -/

/-- A resolver whose provider and clock say one thing each. -/
def steady (policy : Policy) (reply : Reply) (now : Instant) : Resolver Id :=
  { policy with ask := fun _ => reply, clock := now }

/-- A call without others in between leaves the store, and returns the result, of a resolver that
gets the same reply at the same time. -/
theorem run_alone (policy : Policy) (a : Address) (reply : Reply) (now : Instant) (s : σ) :
    let w := World.run ⟨s, []⟩ [.begin policy a, .answer 0 reply, .finish 0 now]
    let outcome : Outcome σ := (steady policy reply now).matchOrCreate a s
    w.store = outcome.store ∧ w.calls.map Call.result? = [some outcome.result] := by
  simp only [World.run, World.step, Call.begin, Resolver.matchOrCreate, steady, List.foldl]
  cases h : readCache policy.settings.acceptedLength s a with
  | error e => simp [Call.answer, Call.finish, Call.result?, pure]
  | ok reading =>
    cases reading with
    | settled owner => simp [Call.answer, Call.finish, Call.result?, pure]
    | tooBroad owner length =>
      cases classified : policy.classify a <;>
        simp [Call.answer, Call.finish, Call.result?, Resolver.lookup, lookedUp, classified,
          pure, bind]
    | absent =>
      cases classified : policy.classify a <;>
        simp [Call.answer, Call.finish, Call.result?, Resolver.lookup, lookedUp, classified,
          pure, bind]

end OwnerCache.Schedule
