/-
# OwnerCache.Json.Token -- the tokens of JSON text

`scan` cuts a text into tokens in one pass, one unit of text at a time.  A
string token holds what its escapes denote; `\u` escapes are first kept as
16-bit units and joined to characters when the string is closed.  Everything
outside strings that is neither punctuation nor white space is gathered into
words, and a word has to be a literal or a number.

`write` gives the text of a token.
-/
import OwnerCache.Json.Basic
import OwnerCache.Text.Decimal
import OwnerCache.Text.Hex

namespace OwnerCache.Json

set_option autoImplicit false

inductive Token where
  | openBrace
  | closeBrace
  | openBracket
  | closeBracket
  | comma
  | colon
  | null
  | bool (b : Bool)
  | number (literal : List Char)
  | string (units : List (Option Char))
deriving DecidableEq

/-! ## Numbers -/

/-- Digits without a superfluous zero in front: the integer part of a number. -/
def isIntegerPart : List Char → Bool
  | [c] => c.isDigit
  | c :: cs => c.isDigit && c != '0' && cs.all Char.isDigit
  | [] => false

def isDigits (cs : List Char) : Bool := cs != [] && cs.all Char.isDigit

/-- An exponent after its letter: digits, with or without a sign. -/
def isExponent : List Char → Bool
  | '+' :: cs | '-' :: cs => isDigits cs
  | cs => isDigits cs

/-- A number without a sign: integer part, fraction and exponent. -/
def isUnsigned (cs : List Char) : Bool :=
  let mantissa := cs.takeWhile fun c => c != 'e' && c != 'E'
  let exponent := (cs.dropWhile fun c => c != 'e' && c != 'E')
  let whole := mantissa.takeWhile (· != '.')
  let fraction := mantissa.dropWhile (· != '.')
  isIntegerPart whole && (fraction == [] || isDigits fraction.tail)
    && (exponent == [] || isExponent exponent.tail)

def isNumber : List Char → Bool
  | '-' :: cs => isUnsigned cs
  | cs => isUnsigned cs

/-- The token that a word stands for. -/
def Token.ofWord? (word : List Char) : Option Token :=
  if word = "null".toList then some .null
  else if word = "true".toList then some (.bool true)
  else if word = "false".toList then some (.bool false)
  else if isNumber word then some (.number word)
  else none

/-! ## Strings -/

/-- A piece of a string: a unit of the text, or the 16 bits of an escape. -/
inductive Piece where
  | unit (u : Option Char)
  | bits (n : Nat)

def isHighSurrogate (n : Nat) : Bool := 0xD800 ≤ n && n < 0xDC00

def isLowSurrogate (n : Nat) : Bool := 0xDC00 ≤ n && n < 0xE000

/-- The units that pieces denote: two surrogates in a row make one character,
a surrogate on its own makes none. -/
def joinPieces : List Piece → List (Option Char)
  | .bits hi :: .bits lo :: rest =>
    if isHighSurrogate hi && isLowSurrogate lo then
      some (Char.ofNat (0x10000 + (hi - 0xD800) * 0x400 + (lo - 0xDC00))) :: joinPieces rest
    else (if isHighSurrogate hi || isLowSurrogate hi then none else some (Char.ofNat hi))
      :: joinPieces (.bits lo :: rest)
  | .bits n :: rest =>
    (if isHighSurrogate n || isLowSurrogate n then none else some (Char.ofNat n))
      :: joinPieces rest
  | .unit u :: rest => u :: joinPieces rest
  | [] => []

/-- The character of an escape of one letter. -/
def escaped? (c : Char) : Option Char :=
  if c = '"' ∨ c = '\\' ∨ c = '/' then some c
  else if c = 'b' then some '\x08'
  else if c = 'f' then some '\x0c'
  else if c = 'n' then some '\n'
  else if c = 'r' then some '\r'
  else if c = 't' then some '\t'
  else none

/-! ## Scanning -/

/-- Where a scan stands: between tokens, in a word, in a string, after a backslash,
or in a `\u` escape with so many digits to come.  Words and pieces are held backwards. -/
inductive Scan where
  | between
  | word (taken : List Char)
  | text (pieces : List Piece)
  | escape (pieces : List Piece)
  | hex (pieces : List Piece) (missing value : Nat)

def isSpace (c : Char) : Bool := c == ' ' || c == '\t' || c == '\n' || c == '\r'

def punctuation? (c : Char) : Option Token :=
  if c = '\x7b' then some .openBrace
  else if c = '\x7d' then some .closeBrace
  else if c = '[' then some .openBracket
  else if c = ']' then some .closeBracket
  else if c = ',' then some .comma
  else if c = ':' then some .colon
  else none

/-- Take a character outside strings: the token it completes, if it is one, and how to go on. -/
def Scan.outside (c : Char) : Option Token × Scan :=
  if isSpace c then (none, .between)
  else if c = '"' then (none, .text [])
  else match punctuation? c with
    | some token => (some token, .between)
    | none => (none, .word [c])

def endsWord (c : Char) : Bool := isSpace c || c == '"' || (punctuation? c).isSome

/-- Take one unit of text: the tokens completed by it and how to go on, or nothing on an error. -/
def Scan.step : Scan → Option Char → Option (List Token × Scan)
  | .between, some c => let (token, next) := outside c; some (token.toList, next)
  | .word taken, some c =>
    if endsWord c then do
      let token ← Token.ofWord? taken.reverse
      let (more, next) := outside c
      return (token :: more.toList, next)
    else some ([], .word (c :: taken))
  | .between, none | .word _, none => none
  | .text pieces, u =>
    if u = some '"' then some ([.string (joinPieces pieces.reverse)], .between)
    else if u = some '\\' then some ([], .escape pieces)
    else if u.any (fun c => c.toNat < 0x20) then none
    else some ([], .text (.unit u :: pieces))
  | .escape pieces, some c =>
    if c = 'u' then some ([], .hex pieces 4 0)
    else (escaped? c).map fun e => ([], .text (.unit (some e) :: pieces))
  | .hex pieces missing value, some c => do
    let n := value * 16 + (← Hex.value? c)
    if missing ≤ 1 then return ([], .text (.bits n :: pieces))
    else return ([], .hex pieces (missing - 1) n)
  | .escape _, none | .hex .., none => none

/-- The tokens that end with the text. -/
def Scan.close? : Scan → Option (List Token)
  | .between => some []
  | .word taken => (Token.ofWord? taken.reverse).map fun token => [token]
  | _ => none

/-- A scan under way: the tokens completed so far, the latest first, and the state. -/
abbrev Scanned := List Token × Scan

def Scanned.step (s : Scanned) (u : Option Char) : Option Scanned :=
  (s.2.step u).map fun (tokens, next) => (tokens.reverse ++ s.1, next)

/-- The tokens of a text. -/
def scan (us : List (Option Char)) : Option (List Token) := do
  let (done, state) ← us.foldlM Scanned.step ([], Scan.between)
  return done.reverse ++ (← state.close?)

/-! ## Writing -/

/-- Quote, backslash and controls are escaped, the common ones by a letter; all else stands. -/
def writeCharacter (c : Char) : List Char :=
  if c = '"' then ['\\', '"']
  else if c = '\\' then ['\\', '\\']
  else if c = '\x08' then ['\\', 'b']
  else if c = '\x0c' then ['\\', 'f']
  else if c = '\n' then ['\\', 'n']
  else if c = '\r' then ['\\', 'r']
  else if c = '\t' then ['\\', 't']
  else if c.toNat < 0x20 then
    ['\\', 'u', '0', '0', Nat.digitChar (c.toNat / 16), Nat.digitChar (c.toNat % 16)]
  else [c]

/-- A unit that is no character is written as the replacement character. -/
def writeUnit (u : Option Char) : List Char := writeCharacter (u.getD '\uFFFD')

def Token.write : Token → List Char
  | .openBrace => ['\x7b']
  | .closeBrace => ['\x7d']
  | .openBracket => ['[']
  | .closeBracket => [']']
  | .comma => [',']
  | .colon => [':']
  | .null => "null".toList
  | .bool b => if b then "true".toList else "false".toList
  | .number literal => literal
  | .string us => '"' :: us.flatMap writeUnit ++ ['"']

end OwnerCache.Json
