/-
# OwnerCache.Json.Reader -- documents from tokens

The reader takes tokens one at a time and keeps the arrays and objects that are
still open on a stack, the innermost first.  It never recurs on the nesting of
the text, so any depth is read.  A document is complete when its value is and
nothing is left open.
-/
import OwnerCache.Json.Token

namespace OwnerCache.Json

set_option autoImplicit false

abbrev Key := List (Option Char)

/-- An open array with its items so far, or an open object with its members so far and the
key whose value is under way; the latest first. -/
inductive Frame where
  | array (items : List Json)
  | object (members : List (Key × Json)) (key : Key)

/-- What the reader expects next. -/
inductive Expected where
  /-- a value -/
  | value
  /-- a value, or the end of the array just opened -/
  | item
  /-- a key, or the end of the object just opened -/
  | member
  /-- a key, for an object with these members -/
  | key (members : List (Key × Json))
  /-- the colon after this key -/
  | colon (members : List (Key × Json)) (key : Key)
  /-- whatever follows this value -/
  | after (value : Json)

structure Reader where
  stack : List Frame
  expected : Expected

namespace Reader

def initial : Reader := ⟨[], .value⟩

/-- Take the first token of a value. -/
def beginValue (stack : List Frame) : Token → Option Reader
  | .null => some ⟨stack, .after .null⟩
  | .bool b => some ⟨stack, .after (.bool b)⟩
  | .number literal => some ⟨stack, .after (.number literal)⟩
  | .string us => some ⟨stack, .after (.string us)⟩
  | .openBracket => some ⟨stack, .item⟩
  | .openBrace => some ⟨stack, .member⟩
  | _ => none

/-- Take the token after a value: go on within the innermost frame or close it. -/
def afterValue (value : Json) : List Frame → Token → Option Reader
  | .array items :: stack, .comma => some ⟨.array (value :: items) :: stack, .value⟩
  | .array items :: stack, .closeBracket =>
    some ⟨stack, .after (.array (value :: items).reverse)⟩
  | .object members key :: stack, .comma => some ⟨stack, .key ((key, value) :: members)⟩
  | .object members key :: stack, .closeBrace =>
    some ⟨stack, .after (.object ((key, value) :: members).reverse)⟩
  | _, _ => none

def step (r : Reader) (token : Token) : Option Reader :=
  match r.expected with
  | .value => beginValue r.stack token
  | .item =>
    if token = .closeBracket then some ⟨r.stack, .after (.array [])⟩
    else beginValue (.array [] :: r.stack) token
  | .member =>
    if token = .closeBrace then some ⟨r.stack, .after (.object [])⟩
    else match token with
      | .string key => some ⟨r.stack, .colon [] key⟩
      | _ => none
  | .key members =>
    match token with
    | .string key => some ⟨r.stack, .colon members key⟩
    | _ => none
  | .colon members key =>
    if token = .colon then some ⟨.object members key :: r.stack, .value⟩ else none
  | .after value => afterValue value r.stack token

/-- The document, once it is complete. -/
def finish? (r : Reader) : Option Json :=
  match r.stack, r.expected with
  | [], .after value => some value
  | _, _ => none

end Reader

/-- The document that a list of tokens spells. -/
def ofTokens? (tokens : List Token) : Option Json := do
  (← tokens.foldlM Reader.step Reader.initial).finish?

/-- The document that a text spells. -/
def parse? (us : List (Option Char)) : Option Json := (scan us).bind ofTokens?

def ofText? (s : String) : Option Json := parse? (units s)

end OwnerCache.Json
