/-
# OwnerCache.Text.Utf8 -- characters as bytes

`encode` gives the bytes of characters, `decode` reads bytes as UTF-8.  Bytes that
are no character are not an error here: each longest run that starts like a
character and does not become one gives a single `none`, so that a reader can
decide what to make of it.
-/
namespace OwnerCache.Utf8

set_option autoImplicit false

def encode (cs : List Char) : List UInt8 := cs.flatMap String.utf8EncodeChar

/-- A character of which bytes are missing: its bits so far, the continuation bytes still to
come, and the bounds of the next one. -/
structure Opening where
  bits : Nat
  missing : Nat
  low : Nat
  high : Nat

/-- What a byte begins: a whole character, a character of several bytes, or nothing.
The bounds on the second byte leave out overlong forms, surrogates and numbers past 0x10FFFF. -/
inductive Start where
  | whole (c : Char)
  | opened (p : Opening)
  | stray

def start (b : Nat) : Start :=
  if b < 0x80 then .whole (Char.ofNat b)
  else if b < 0xC2 then .stray
  else if b < 0xE0 then .opened ⟨b - 0xC0, 1, 0x80, 0xBF⟩
  else if b < 0xF0 then
    .opened ⟨b - 0xE0, 2, if b = 0xE0 then 0xA0 else 0x80, if b = 0xED then 0x9F else 0xBF⟩
  else if b < 0xF5 then
    .opened ⟨b - 0xF0, 3, if b = 0xF0 then 0x90 else 0x80, if b = 0xF4 then 0x8F else 0xBF⟩
  else .stray

/-- Decode after an opening, if there is one. -/
def decodeFrom : Option Opening → List UInt8 → List (Option Char)
  | none, [] => []
  | some _, [] => [none]
  | pending, b :: bytes =>
    let fresh (broken : List (Option Char)) : List (Option Char) :=
      match start b.toNat with
      | .whole c => broken ++ some c :: decodeFrom none bytes
      | .opened p => broken ++ decodeFrom (some p) bytes
      | .stray => broken ++ none :: decodeFrom none bytes
    match pending with
    | none => fresh []
    | some p =>
      if p.low ≤ b.toNat ∧ b.toNat ≤ p.high then
        let bits := p.bits * 64 + (b.toNat - 0x80)
        if p.missing ≤ 1 then some (Char.ofNat bits) :: decodeFrom none bytes
        else decodeFrom (some ⟨bits, p.missing - 1, 0x80, 0xBF⟩) bytes
      else fresh [none]

def decode (bytes : List UInt8) : List (Option Char) := decodeFrom none bytes

/-- The text, if all bytes belong to characters. -/
def decode? (bytes : List UInt8) : Option (List Char) := (decode bytes).mapM id

/-- The text with U+FFFD for every run of bytes that is no character. -/
def decodeLossy (bytes : List UInt8) : List Char := (decode bytes).map fun c => c.getD '\uFFFD'

end OwnerCache.Utf8
