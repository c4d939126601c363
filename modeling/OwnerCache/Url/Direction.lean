/-
# OwnerCache.Url.Direction -- which way a label reads

A name with a label that is written from right to left is read as it is meant
only if no label changes its direction on the way.  `Reads` says when that is so:
a label keeps to letters of one direction, starts with one of them, and ends with
one of them or with a digit, marks aside.

The tables hold the characters that a name may have, by the data of Unicode 17.
Other characters, and marks without room of their own, are in a run or in none as
it makes the tables short.
-/
import OwnerCache.Text.Mark

namespace OwnerCache

set_option autoImplicit false

inductive Direction where
  | left
  | right
  /-- digits that go with the letters of Arabic -/
  | arabicDigit
  | digit
  | mark
  | neutral
deriving DecidableEq, Repr

namespace Direction

/-- Where runs of letters that are written from right to left start and end. -/
def rightLetters : List Nat :=
  [ 0x5BE, 0x5F5, 0x608, 0x609, 0x60B, 0x60C, 0x60D, 0x60E, 0x61B, 0x64B, 0x66D, 0x6D6, 0x6E5,
    0x6E7, 0x6EE, 0x6F0, 0x6FA, 0x7F6, 0x7FA, 0x8CA, 0xFBB2, 0xFBC3, 0xFE73, 0xFE74, 0x10800,
    0x1091C, 0x10920, 0x10B36, 0x10B40, 0x10D24, 0x10D4A, 0x10D50, 0x10D6F, 0x10D90, 0x10E80,
    0x10EC8, 0x10F00, 0x10FF7, 0x1E800, 0x1ED3E ]

def arabicDigits : List Nat :=
  [ 0x660, 0x66A, 0x66B, 0x66D, 0x10D30, 0x10D4A, 0x10E60, 0x10E7F ]

/-- Digits outside ASCII that keep their order among letters of both directions. -/
def digits : List Nat :=
  [ 0x6F0, 0x6FA, 0x102E1, 0x102FC ]

/-- Where runs of signs without a direction start and end. -/
def signs : List Nat :=
  [ 0xA1, 0xD8, 0xF7, 0xF8, 0x2B9, 0x2BB, 0x2C2, 0x2D0, 0x2D2, 0x2EE, 0x2EF, 0x300, 0x375, 0x376,
    0x3F6, 0x3F7, 0x58A, 0x590, 0x606, 0x608, 0x609, 0x60B, 0x60C, 0x60D, 0x60E, 0x610, 0x66A,
    0x66B, 0x6DE, 0x6DF, 0x6E9, 0x6EA, 0x7F6, 0x7FA, 0x9F2, 0x9F4, 0x9FB, 0x9FC, 0xAF1, 0xAF2,
    0xBF3, 0xBFB, 0xC78, 0xC7F, 0xE3F, 0xE40, 0xF3A, 0xF3E, 0x1390, 0x139A, 0x1400, 0x1401, 0x169B,
    0x169D, 0x17DB, 0x17DC, 0x17F0, 0x180B, 0x1940, 0x1946, 0x19DE, 0x1A00, 0x200C, 0x214E, 0x218A,
    0x2336, 0x237B, 0x2395, 0x2396, 0x26AC, 0x26AD, 0x2800, 0x2900, 0x2C00, 0x2CE5, 0x2CEB, 0x2CF9,
    0x2D00, 0x2E00, 0x3005, 0x3008, 0x3021, 0x3030, 0x3031, 0x3037, 0x3038, 0x303D, 0x3040, 0x30A0,
    0x30A1, 0x30FB, 0x30FC, 0x31C0, 0x31E6, 0x4DC0, 0x4E00, 0xA490, 0xA4C7, 0xA60D, 0xA610, 0xA673,
    0xA680, 0xA700, 0xA722, 0xA788, 0xA789, 0xA828, 0xA82C, 0xA838, 0xA83A, 0xA874, 0xA878, 0xAB6A,
    0xAB6C, 0xFBC3, 0xFE47, 0x10101, 0x10102, 0x10140, 0x1018D, 0x10190, 0x101A1, 0x1091F, 0x10920,
    0x10B39, 0x10B40, 0x10D6E, 0x10D6F, 0x10ED0, 0x10ED9, 0x11052, 0x11066, 0x11660, 0x1166D,
    0x11FD5, 0x11FF2, 0x16FE2, 0x16FE3, 0x1CC00, 0x1CEF1, 0x1D1E9, 0x1D246, 0x1D300, 0x1D357,
    0x1E2FF, 0x1E300, 0x1EEF0, 0x1F130, 0x1F16D, 0x1F170, 0x1F1AD, 0x1F1AE, 0x1F260, 0x1FBFB ]

/-- Marks that read from left to right by themselves. -/
def leftMarks : List Nat := [0xCBF, 0xCC6, 0x11A07, 0x11A08, 0x11C3F]

def ofChar (c : Char) : Direction :=
  if c.toNat < 0x80 then
    if c.isAlpha then .left else if c.isDigit then .digit else .neutral
  else if Mark.isNonspacing c then if leftMarks.contains c.toNat then .left else .mark
  else if Span.holds rightLetters c then .right
  else if Span.holds arabicDigits c then .arabicDigit
  else if Span.holds digits c then .digit
  else if Span.holds signs c then .neutral
  else .left

/-- Whether a character makes a name read from right to left in part. -/
def turns (d : Direction) : Bool := d == .right || d == .arabicDigit

/-- What a label ends with, marks aside. -/
def ending? (ds : List Direction) : Option Direction := (ds.reverse.dropWhile (· == .mark)).head?

/-- A label, empty or in one direction. -/
def Reads (cs : List Char) : Prop :=
  let ds := cs.map ofChar
  match ds.head? with
  | none => True
  | some .left =>
    ds.any turns = false ∧ (ending? ds = some .left ∨ ending? ds = some .digit)
  | some .right =>
    .left ∉ ds ∧ ¬(.digit ∈ ds ∧ .arabicDigit ∈ ds) ∧
      (ending? ds = some .right ∨ ending? ds = some .digit ∨ ending? ds = some .arabicDigit)
  | some _ => False

instance (cs : List Char) : Decidable (Reads cs) := by
  unfold Reads
  dsimp only
  split <;> infer_instance

end Direction

end OwnerCache
