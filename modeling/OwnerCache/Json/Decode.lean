/-
# OwnerCache.Json.Decode -- values from documents

Decoders are functions `Json → Option α`.  A structure is an object with its
fields as members, in any order and among others, or an array of its fields in
order.  A field given twice is refused, as is a key with a unit that is no
character.  Whether a field may be missing is said where it is taken: `required?`
takes none missing, `optional?` one that an object leaves out, `orElse?` has a
default for all.
-/
import OwnerCache.Json.Reader
import OwnerCache.Net.Address

namespace OwnerCache.Json

set_option autoImplicit false

/-! ## Single values -/

def asString? : Json → Option String
  | .string us => characters? us
  | _ => none

def asBool? : Json → Option Bool
  | .bool b => some b
  | _ => none

/-- An integer literal: digits, with a minus sign for a negative number; zero has no sign. -/
def asInt? : Json → Option Int
  | .number ('-' :: cs) =>
    (Decimal.read? cs).bind fun n => if n = 0 then none else some (-(n : Int))
  | .number cs => (Decimal.read? cs).map Int.ofNat
  | _ => none

/-- An integer between two bounds. -/
def asIntIn? (low high : Int) (j : Json) : Option Int :=
  j.asInt?.bind fun i => if low ≤ i ∧ i ≤ high then some i else none

/-- A signed integer of 64 bits. -/
def asInt64? : Json → Option Int :=
  asIntIn? (-0x8000000000000000) 0x7FFFFFFFFFFFFFFF

/-- A natural number up to a greatest one. -/
def asNatUpTo? (greatest : Nat) (j : Json) : Option Nat :=
  (asIntIn? 0 greatest j).map Int.toNat

/-- An address, as the number of its bits. -/
def asAddressNumber? (j : Json) : Option Address := j.asInt?.bind Address.ofInt?

/-- An address, as a dotted quad. -/
def asAddress? (j : Json) : Option Address := j.asString?.bind Address.ofText?

def asList? {α : Type} (item? : Json → Option α) : Json → Option (List α)
  | .array items => items.mapM item?
  | _ => none

/-! ## Structures -/

/-- A field of a structure: given with a value, absent from an object, or past the end of an
array. -/
inductive Field where
  | given (value : Json)
  | unnamed
  | past

/-- The value of a key that occurs at most once. -/
def lookup? (members : List (String × Json)) (name : String) : Option Field :=
  match members.filter fun member => member.1 == name with
  | [] => some .unnamed
  | [member] => some (.given member.2)
  | _ => none

/-- The fields of a structure with the given names, in their order. -/
def fields? (names : List String) : Json → Option (List Field)
  | .object members => do
    let named ← members.mapM fun (key, value) => (characters? key).map fun name => (name, value)
    names.mapM (lookup? named)
  | .array items =>
    if items.length ≤ names.length then
      some (items.map .given ++ List.replicate (names.length - items.length) .past)
    else none
  | _ => none

namespace Field

/-- A field that has to be there. -/
def required? {α : Type} (value? : Json → Option α) : Field → Option α
  | .given j => value? j
  | _ => none

/-- A document for nothing, or a value. -/
def nullable? {α : Type} (value? : Json → Option α) : Json → Option (Option α)
  | .null => some none
  | j => (value? j).map some

/-- A field that may be null, or missing from an object. -/
def optional? {α : Type} (value? : Json → Option α) : Field → Option (Option α)
  | .given j => nullable? value? j
  | .unnamed => some none
  | .past => none

/-- A field that takes a default when it is missing. -/
def orElse? {α : Type} (fallback : α) (value? : Json → Option α) : Field → Option α
  | .given j => value? j
  | _ => some fallback

end Field

/-! ## Numbers as documents -/

def ofInt (i : Int) : Json := .number (Decimal.writeInt i)

def ofNat (n : Nat) : Json := .number (Decimal.write n)

end OwnerCache.Json
