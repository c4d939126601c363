/-
# OwnerCache.Config -- settings from the environment

Each setting has a variable of its own and a default.  A variable counts only if
its value is text; a number is an optional plus sign and decimal digits within
the width of its setting, and anything else leaves the default.  `load` reads a
configuration and `environment` spells one.

`load` has defaults of its own: a text in place of a variable that is unset, and a
number in place of a text that is none.
-/
import OwnerCache.Json.Decode
import OwnerCache.Json.Writer
import OwnerCache.Text.Lowercase

namespace OwnerCache

set_option autoImplicit false

@[ext] structure Config where
  dbPath : String := "ranges.db"
  acceptedRangeLength : UInt32 := 4194304
  rangeTtlSecs : UInt64 := 15552000
  whoisTimeoutSecs : UInt64 := 10
  rdapUrl : String := "https://rdap.org"
  sweepEnabled : Bool := false
  sweepIntervalSecs : UInt64 := 3600
  debug : Bool := false
deriving DecidableEq, Repr

/-- The value of a variable. -/
inductive Variable where
  | unset
  | text (value : String)
  /-- bytes that are not UTF-8 -/
  | undecodable
deriving DecidableEq, Repr

def Variable.text? : Variable → Option String
  | .text value => some value
  | _ => none

abbrev Environment := String → Variable

namespace Config

/-! ## Reading the environment -/

/-- A natural number in decimal, with or without a plus sign. -/
def number? (value : String) : Option Nat :=
  match value.toList with
  | '+' :: cs => Decimal.read? cs
  | cs => Decimal.read? cs

def numberBelow? (bound : Nat) (value : String) : Option Nat := (number? value).filter (· < bound)

def number32? (value : String) : Option UInt32 := (numberBelow? UInt32.size value).map .ofNat

def number64? (value : String) : Option UInt64 := (numberBelow? UInt64.size value).map .ofNat

/-- A numeric setting: the number in the value of its variable, for which `unset` stands if there is
none, or else `other`. -/
def numeric {ν : Type} (read? : String → Option ν) (unset : String) (other : ν)
    (value : Option String) : ν :=
  (read? (value.getD unset)).getD other

/-- `1`, or `true` in any case. -/
def isYes (value : String) : Bool :=
  value == "1" || Lowercase.ofList value.toList == "true".toList

def load (env : Environment) : Config :=
  let text (name : String) : Option String := (env name).text?
  { dbPath := (text "ISPR_DB_PATH").getD "ranges.db"
    acceptedRangeLength :=
      numeric number32? "4194304" 4194304 (text "ISPR_ACCEPTED_RANGE_LENGTH")
    rangeTtlSecs := numeric number64? "15552000" 15552000 (text "ISPR_RANGE_TTL_SECS")
    whoisTimeoutSecs := numeric number64? "10" 10 (text "ISPR_WHOIS_TIMEOUT_SECS")
    rdapUrl := (text "ISPR_RDAP_URL").getD "https://rdap.org"
    sweepEnabled := ((text "ISPR_SWEEP_ENABLED").map isYes).getD false
    sweepIntervalSecs := numeric number64? "3600" 3600 (text "ISPR_SWEEP_INTERVAL_SECS")
    debug := (text "DEBUG").isSome }

/-- The environment that spells a configuration: numbers in decimal, and `DEBUG` only where it
is on. -/
def environment (c : Config) : Environment
  | "ISPR_DB_PATH" => .text c.dbPath
  | "ISPR_ACCEPTED_RANGE_LENGTH" => number c.acceptedRangeLength.toNat
  | "ISPR_RANGE_TTL_SECS" => number c.rangeTtlSecs.toNat
  | "ISPR_WHOIS_TIMEOUT_SECS" => number c.whoisTimeoutSecs.toNat
  | "ISPR_RDAP_URL" => .text c.rdapUrl
  | "ISPR_SWEEP_ENABLED" => .text (if c.sweepEnabled then "true" else "false")
  | "ISPR_SWEEP_INTERVAL_SECS" => number c.sweepIntervalSecs.toNat
  | "DEBUG" => if c.debug then .text "1" else .unset
  | _ => .unset
where
  number (n : Nat) : Variable := .text (String.ofList (Decimal.write n))

/-! ## The JSON form -/

def toJson (c : Config) : Json :=
  .ofFields [("db_path", .ofString c.dbPath),
    ("accepted_range_length", .ofNat c.acceptedRangeLength.toNat),
    ("range_ttl_secs", .ofNat c.rangeTtlSecs.toNat),
    ("whois_timeout_secs", .ofNat c.whoisTimeoutSecs.toNat),
    ("rdap_url", .ofString c.rdapUrl), ("sweep_enabled", .bool c.sweepEnabled),
    ("sweep_interval_secs", .ofNat c.sweepIntervalSecs.toNat), ("debug", .bool c.debug)]

def ofJson? (j : Json) : Option Config := do
  let fields ← j.fields? ["db_path", "accepted_range_length", "range_ttl_secs",
    "whois_timeout_secs", "rdap_url", "sweep_enabled", "sweep_interval_secs", "debug"]
  match fields with
  | [dbPath, accepted, ttl, timeout, rdapUrl, sweep, interval, debug] =>
    return {
      dbPath := ← dbPath.required? Json.asString?
      acceptedRangeLength := .ofNat (← accepted.required? (Json.asNatUpTo? 0xFFFFFFFF))
      rangeTtlSecs := .ofNat (← ttl.required? (Json.asNatUpTo? 0xFFFFFFFFFFFFFFFF))
      whoisTimeoutSecs := .ofNat (← timeout.required? (Json.asNatUpTo? 0xFFFFFFFFFFFFFFFF))
      rdapUrl := ← rdapUrl.required? Json.asString?
      sweepEnabled := ← sweep.required? Json.asBool?
      sweepIntervalSecs := .ofNat (← interval.required? (Json.asNatUpTo? 0xFFFFFFFFFFFFFFFF))
      debug := ← debug.required? Json.asBool? }
  | _ => none

end Config

end OwnerCache
