/-
# OwnerCache.Url.Percent -- bytes as escapes

An escape `%HH` stands for a byte.  `unescape` gives the bytes of a text, where a
percent sign that starts no escape stands for itself.  `escape` writes the
characters of a class as escapes of their UTF-8 bytes and leaves the others alone;
each part of a URL has its class.
-/
import OwnerCache.Text.Hex
import OwnerCache.Text.Utf8

namespace OwnerCache.Percent

set_option autoImplicit false

/-! ## Reading -/

def unescape : List Char → List UInt8
  | [] => []
  | '%' :: a :: b :: rest =>
    match Hex.value? a, Hex.value? b with
    | some high, some low => .ofNat (high * 16 + low) :: unescape rest
    | _, _ => Utf8.encode ['%'] ++ unescape (a :: b :: rest)
  | c :: rest => Utf8.encode [c] ++ unescape rest

/-! ## Writing -/

def escapeByte (b : UInt8) : List Char :=
  '%' :: [b.toNat / 16, b.toNat % 16].map fun digit => (Nat.digitChar digit).toUpper

def escape (escaped : Char → Bool) (cs : List Char) : List Char :=
  cs.flatMap fun c => if escaped c then (Utf8.encode [c]).flatMap escapeByte else [c]

/-! ## Classes -/

/-- Control characters, and everything that is not ASCII: these are escaped everywhere. -/
def isControl (c : Char) : Bool := c < ' ' || '~' < c

def inFragment (c : Char) : Bool := isControl c || c ∈ [' ', '"', '<', '>', '\x60']

def inPath (c : Char) : Bool := inFragment c || c ∈ ['#', '?', '\x7b', '\x7d']

def inCredentials (c : Char) : Bool :=
  inPath c || c ∈ ['/', ':', ';', '=', '@', '[', '\\', ']', '^', '|']

def inQuery (c : Char) : Bool := isControl c || c ∈ [' ', '"', '#', '<', '>']

end OwnerCache.Percent
