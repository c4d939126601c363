/-
# OwnerCache.Url.Domain -- domain names in ASCII

A name consists of labels between dots.  `ofChars?` gives its spelling in ASCII:
capitals and compatibility forms are replaced, characters that do not show are
dropped, letters and their marks are joined, and a label that still has other
characters is written as `xn--` and its code.  A name with a character that no name
may have is refused, and so are a label `xn--` that is not such a spelling, a label
too long for a code and a name of which the direction turns.
-/
import OwnerCache.Text.Composition
import OwnerCache.Text.Visible
import OwnerCache.Url.Direction
import OwnerCache.Url.Folding
import OwnerCache.Url.Joining
import OwnerCache.Url.Punycode

namespace OwnerCache.Domain

set_option autoImplicit false

/-! ## Characters -/

/-- Visible characters that no name has: forms with a dot or a space in them, marks of layout and
stand-ins for other characters.  Where runs of them start and end. -/
def refused : List Nat :=
  [ 0xA8, 0xA9, 0xAF, 0xB0, 0xB4, 0xB5, 0xB8, 0xB9, 0x2D8, 0x2DE, 0x37A, 0x37B, 0x384, 0x386,
    0x1FBD, 0x1FBE, 0x1FBF, 0x1FC2, 0x1FCD, 0x1FD0, 0x1FDD, 0x1FE0, 0x1FED, 0x1FEF, 0x1FFD, 0x1FFF,
    0x2017, 0x2018, 0x2024, 0x2027, 0x203E, 0x203F, 0x2488, 0x249C, 0x2FF0, 0x3000, 0x309B, 0x309D,
    0x31EF, 0x31F0, 0x33C2, 0x33C3, 0x33C7, 0x33C8, 0x33D8, 0x33D9, 0xFC5E, 0xFC64, 0xFDFA, 0xFDFC,
    0xFE12, 0xFE13, 0xFE19, 0xFE1A, 0xFE30, 0xFE31, 0xFE49, 0xFE4D, 0xFE52, 0xFE53, 0xFE70, 0xFE71,
    0xFE72, 0xFE73, 0xFE74, 0xFE75, 0xFE76, 0xFE77, 0xFE78, 0xFE79, 0xFE7A, 0xFE7B, 0xFE7C, 0xFE7D,
    0xFE7E, 0xFE7F, 0xFFE3, 0xFFE4, 0xFFFC, 0xFFFE, 0x1F100, 0x1F101 ]

/-- Letters and signs that are younger than the table of visible characters. -/
def younger : List Nat := [0x18CD6, 0x18CD7, 0x3D000, 0x3FC40]

/-- Whether a name may have a character as it is. -/
def isAllowed (c : Char) : Bool :=
  if c.toNat < 0x80 then
    ' ' < c && c ≤ '~' &&
      !(['%', '#', '/', ':', '<', '>', '?', '@', '[', '\\', ']', '^', '|'].contains c)
  else
    (Visible.isVisible c || Mark.isMark c || Joining.isJoiner c || Span.holds younger c)
      && !Span.holds refused c

/-! ## Labels -/

def isAscii (cs : List Char) : Bool := cs.all fun c => c.toNat < 0x80

/-- The most characters of a label that has a code. -/
def maxLength : Nat := 1000

/-- The most characters of a code. -/
def maxCodeLength : Nat := 2000

/-- Whether characters are a label. -/
def isLabel (cs : List Char) : Bool :=
  cs.all isAllowed && !cs.head?.any Mark.isMark && Joining.joinersFit cs
    && (isAscii cs || cs.length ≤ maxLength)

/-- The characters of a name, each as names have it, and joined. -/
def normalize (cs : List Char) : List Char := Composition.compose (cs.flatMap Folding.fold)

/-- Whether a text is spelled as names have it, character by character and as a whole. -/
def isNormal (cs : List Char) : Bool :=
  cs.all (fun c => Folding.fold c == [c]) && Composition.compose cs == cs

/-- A label as it is meant: what follows `xn--` is the code of other characters. -/
def meant? (cs : List Char) : Option (List Char) :=
  match cs with
  | 'x' :: 'n' :: '-' :: '-' :: code =>
    if maxCodeLength < code.length then none
    else
      (Punycode.decode? code).filter fun decoded =>
        !isAscii decoded && isNormal decoded && isLabel decoded
  | _ => if isLabel cs then some cs else none

/-- A label in ASCII. -/
def spell (cs : List Char) : List Char :=
  if isAscii cs then cs else ['x', 'n', '-', '-'] ++ Punycode.encode cs

/-! ## Names -/

def ofChars? (cs : List Char) : Option (List Char) := do
  let meant ← ((normalize cs).splitOn '.').mapM meant?
  if meant.any (·.any fun c => (Direction.ofChar c).turns) ∧ ¬∀ label ∈ meant, Direction.Reads label
  then none
  else return ['.'].intercalate (meant.map spell)

end OwnerCache.Domain
