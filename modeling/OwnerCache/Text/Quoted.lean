/-
# OwnerCache.Text.Quoted -- text between quotes in messages

A message that quotes a text shows every character of it.  Quote and backslash
are escaped by a backslash, four controls have a letter of their own, and any
other invisible character is written as `\u` with its number in braces.
-/
import OwnerCache.Text.Visible

namespace OwnerCache.Quoted

set_option autoImplicit false

/-- The number of a character in lower-case hexadecimal digits. -/
def writeNumber (c : Char) : List Char := Nat.toDigits 16 c.toNat

def escape (c : Char) : List Char :=
  if c = '"' then ['\\', '"']
  else if c = '\\' then ['\\', '\\']
  else if c = '\n' then ['\\', 'n']
  else if c = '\r' then ['\\', 'r']
  else if c = '\t' then ['\\', 't']
  else if c = '\x00' then ['\\', '0']
  else if Visible.isVisible c then [c]
  else ['\\', 'u', '\x7b'] ++ writeNumber c ++ ['\x7d']

def write (cs : List Char) : List Char := '"' :: cs.flatMap escape ++ ['"']

def text (s : String) : String := String.ofList (write s.toList)

end OwnerCache.Quoted
