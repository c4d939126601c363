/-
# OwnerCache.Time.Duration -- spans of time

A duration is a whole number of nanoseconds.  `text` writes it in the largest of
the units s, ms, µs and ns that it fills, with as many fraction digits as it
needs and no more.
-/
import OwnerCache.Text.Decimal

namespace OwnerCache

set_option autoImplicit false

@[ext] structure Duration where
  nanos : Nat
deriving DecidableEq, Repr

namespace Duration

def ofSeconds (s : Nat) : Duration := ⟨s * 1000000000⟩

def ofMillis (ms : Nat) : Duration := ⟨ms * 1000000⟩

/-- A fraction's digits without the zeros at its end, after a point if any is left. -/
def writeFraction (width n : Nat) : List Char :=
  let kept := ((Decimal.writePadded width n).reverse.dropWhile (· == '0')).reverse
  if kept = [] then [] else '.' :: kept

/-- The duration in a unit of so many nanoseconds, a number with that many zeros. -/
def writeIn (size zeros : Nat) (unit : String) (d : Duration) : List Char :=
  Decimal.write (d.nanos / size) ++ writeFraction zeros (d.nanos % size) ++ unit.toList

def write (d : Duration) : List Char :=
  if 1000000000 ≤ d.nanos then d.writeIn 1000000000 9 "s"
  else if 1000000 ≤ d.nanos then d.writeIn 1000000 6 "ms"
  else if 1000 ≤ d.nanos then d.writeIn 1000 3 "µs"
  else Decimal.write d.nanos ++ ['n', 's']

def text (d : Duration) : String := String.ofList d.write

/-- A span that can be taken from a time: at most `2^63 - 1` milliseconds. -/
def IsMeasurable (d : Duration) : Prop := d.nanos ≤ 0x7FFFFFFFFFFFFFFF * 1000000

instance (d : Duration) : Decidable d.IsMeasurable :=
  inferInstanceAs (Decidable (d.nanos ≤ 0x7FFFFFFFFFFFFFFF * 1000000))

end Duration

end OwnerCache
