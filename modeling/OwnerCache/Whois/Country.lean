/-
# OwnerCache.Whois.Country -- country codes

A country code is two ASCII letters; the canonical form is in lower case.  Any
other text, blanks at its ends aside, is no country.
-/
import OwnerCache.Text.Blank

namespace OwnerCache.Whois.Country

set_option autoImplicit false

/-- The canonical code that a text spells. -/
def code? (cs : List Char) : Option (List Char) :=
  match Blank.trim cs with
  | [a, b] => if a.isAlpha && b.isAlpha then some [a.toLower, b.toLower] else none
  | _ => none

def normalize? (raw : String) : Option String := (code? raw.toList).map String.ofList

end OwnerCache.Whois.Country
