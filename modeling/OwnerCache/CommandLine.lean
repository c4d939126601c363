/-
# OwnerCache.CommandLine -- a run over a list of arguments

Each argument that is an address, blanks at its ends aside, is resolved and
printed as one line of JSON; the others are skipped.  The first failure of the
store ends the run.  A run that ends well reports what the cache holds; a store can
always count that, so no run fails at its report.  A run with the sweep enabled
sweeps once before it resolves anything.
-/
import OwnerCache.Config
import OwnerCache.Rdap.Exchange
import OwnerCache.Resolver.Basic
import OwnerCache.Net.Reserved
import OwnerCache.Store.Document
import OwnerCache.Sweep

namespace OwnerCache

set_option autoImplicit false

/-- What a run printed, logged and left behind, and the failure that ended it, if any. -/
structure Run (σ : Type) where
  lines : List String := []
  events : List Event := []
  failure : Option StoreError := none
  store : σ

namespace Run

variable {σ : Type}

def exitCode (r : Run σ) : Nat := if r.failure.isSome then 1 else 0

/-- A run preceded by some output. -/
def after (lines : List String) (events : List Event) (r : Run σ) : Run σ :=
  { r with lines := lines ++ r.lines, events := events ++ r.events }

end Run

namespace CommandLine

variable {σ : Type} [RangeStore σ] {m : Type → Type} [Monad m]

/-- The address that an argument spells. -/
def address? (argument : String) : Option Address := Address.read? (Blank.trim argument.toList)

/-- The line printed for an address. -/
def line (a : Address) (r : Resolution) : String :=
  (Json.ofFields (("address", .ofString a.text) :: r.fields)).text

def resolveAll (resolver : Resolver m) : List String → σ → m (Run σ)
  | [], s => pure { store := s }
  | argument :: rest, s =>
    match address? argument with
    | none => return (← resolveAll resolver rest s).after [] [.skipped argument]
    | some a => do
      let outcome ← resolver.matchOrCreate a s
      match outcome.result with
      | .error e => return { events := outcome.events, failure := some e, store := outcome.store }
      | .ok resolution =>
        return (← resolveAll resolver rest outcome.store).after [line a resolution] outcome.events

/-- Report what the cache holds, unless the run failed. -/
def report (r : Run σ) : Run σ :=
  match r.failure with
  | some _ => r
  | none =>
    { r with events := r.events ++
        [.holdings (RangeStore.rangeCount r.store) (RangeStore.identityCount r.store)] }

/-- A run under a configuration. -/
def run (config : Config) (resolver : Resolver m) (arguments : List String) (s : σ) :
    m (Run σ) := do
  let ttl := .ofSeconds config.rangeTtlSecs.toNat
  let (swept, s) ←
    if config.sweepEnabled then (Sweep.runDetached ttl · s) <$> resolver.clock
    else pure ([], s)
  return (report (← resolveAll resolver arguments s)).after [] swept

/-! ## Wiring -/

def settings (config : Config) : Settings :=
  { acceptedLength := config.acceptedRangeLength.toNat
    timeout := .ofSeconds config.whoisTimeoutSecs.toNat }

/-- A provider behind a way to exchange requests. -/
def reply (exchange : Rdap.Exchange) : Reply :=
  match exchange.record with
  | .ok record => .record record
  | .error cause => .failure (.unavailable cause)

/-- Put a question to a provider, if it can be put. -/
def ask (send : Rdap.Request → m Rdap.Exchange) (q : Rdap.Request) : m Reply :=
  match q.fault? with
  | some cause => return .failure (.unavailable cause)
  | none => return reply (← send q)

/-- The resolver of a configuration, over a way to exchange requests. -/
def resolver (config : Config) (send : Rdap.Request → m Rdap.Exchange) (clock : m Instant) :
    Resolver m :=
  { settings := settings config
    classify := Reserved.name?
    ask := fun a => ask send (Rdap.request config.rdapUrl a)
    clock := clock }

/-- The events that are logged: those of level debug only on demand. -/
def logged (config : Config) (events : List Event) : List Event :=
  events.filter fun e => config.debug || e.level ≠ .debug

end CommandLine

end OwnerCache
