/-
# OwnerCache.Whois.Description -- a name from free text

Descriptions often go on with contacts and disclaimers.  The name kept is the
first line that is not blank, without the blanks at its ends, cut to `maxLength`
characters.
-/
import OwnerCache.Text.Blank

namespace OwnerCache.Whois.Description

set_option autoImplicit false

/-- The longest name that is kept. -/
def maxLength : Nat := 255

/-- The characters that end a line. -/
def isLineBreak (c : Char) : Bool :=
  let n := c.toNat
  (0x0A ≤ n && n ≤ 0x0D) || (0x1C ≤ n && n ≤ 0x1E) || n == 0x85 || n == 0x2028 || n == 0x2029

/-- The lines of a text, without the blanks at their ends. -/
def lines (cs : List Char) : List (List Char) := (cs.splitOnP isLineBreak).map Blank.trim

/-- The first line that is not blank, cut to the longest name. -/
def name? (cs : List Char) : Option (List Char) :=
  ((lines cs).find? (· ≠ [])).map (·.take maxLength)

def format? (raw : String) : Option String := (name? raw.toList).map String.ofList

end OwnerCache.Whois.Description
