/-
# OwnerCache.Resolver.Event -- what is worth logging

An event has a level and a message.  Functions that cause events return them in
order; whether and where they are printed is decided outside.
-/
import OwnerCache.Store.Entity
import OwnerCache.Store.Error
import OwnerCache.Text.Quoted
import OwnerCache.Whois.Error

namespace OwnerCache

set_option autoImplicit false

inductive Level where
  | debug
  | info
  | warn
  | error
deriving DecidableEq, Repr

def Level.text : Level → String
  | .debug => "DEBUG"
  | .info => "INFO"
  | .warn => "WARN"
  | .error => "ERROR"

inductive Event where
  /-- the cached range is longer than what is accepted -/
  | tooBroad (address : Address) (length : Nat)
  | reserved (address : Address) (name : String)
  | received (address : Address)
  | lookupFailed (address : Address) (cause : Whois.Error)
  /-- the range was there before its finding was stored -/
  | alreadyOwned (range : AddressRange) (owner : Option Identity)
  | attributed (range : AddressRange) (owner : Identity)
  | pruned (count : Nat)
  | sweepFailed (cause : StoreError)
  /-- an argument that is no address -/
  | skipped (argument : String)
  | holdings (ranges identities : Nat)
deriving DecidableEq, Repr

namespace Event

def level : Event → Level
  | .reserved .. | .attributed .. => .debug
  | .lookupFailed .. => .warn
  | .sweepFailed .. | .skipped .. => .error
  | _ => .info

private def count (n : Nat) : String := String.ofList (Decimal.write n)

def message : Event → String
  | .tooBroad a length => "existing range for " ++ a.text ++ " is too broad: " ++ count length
  | .reserved a name => a.text ++ " belongs to reserved block " ++ name
  | .received a => "received whois for " ++ a.text
  | .lookupFailed a cause => "unable to query whois for " ++ a.text ++ ": " ++ cause.message
  | .alreadyOwned range owner =>
    "range " ++ range.text ++ " already belongs to " ++ (owner.map Identity.text).getD "nobody"
  | .attributed range owner => "range " ++ range.text ++ " attributed to " ++ owner.text
  | .pruned 0 => "no expired ranges to prune"
  | .pruned (n + 1) => "pruned " ++ count (n + 1) ++ " expired ranges"
  | .sweepFailed cause => "expiry sweep failed: " ++ cause.message
  | .skipped argument => "skipping " ++ Quoted.text argument ++ ": " ++ Address.syntaxError
  | .holdings ranges identities =>
    "cache holds " ++ count ranges ++ " ranges owned by " ++ count identities ++ " identities"

/-- The event as a log line. -/
def text (e : Event) : String := e.level.text ++ " " ++ e.message

end Event

end OwnerCache
