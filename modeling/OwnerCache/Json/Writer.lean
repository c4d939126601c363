/-
# OwnerCache.Json.Writer -- documents as text

`tokens` spells a document; the text is the text of its tokens, with nothing in
between.
-/
import OwnerCache.Json.Token

namespace OwnerCache.Json

set_option autoImplicit false

mutual

/-- The tokens that spell a document. -/
def tokens : Json → List Token
  | .null => [.null]
  | .bool b => [.bool b]
  | .number literal => [.number literal]
  | .string us => [.string us]
  | .array [] => [.openBracket, .closeBracket]
  | .array (item :: items) => .openBracket :: tokens item ++ itemTokens items
  | .object [] => [.openBrace, .closeBrace]
  | .object ((key, value) :: members) =>
    .openBrace :: .string key :: .colon :: tokens value ++ memberTokens members

/-- The items after the first, and the end of the array. -/
def itemTokens : List Json → List Token
  | [] => [.closeBracket]
  | item :: items => .comma :: tokens item ++ itemTokens items

/-- The members after the first, and the end of the object. -/
def memberTokens : List (List (Option Char) × Json) → List Token
  | [] => [.closeBrace]
  | (key, value) :: members =>
    .comma :: .string key :: .colon :: tokens value ++ memberTokens members

end

def write (j : Json) : List Char := j.tokens.flatMap Token.write

def text (j : Json) : String := String.ofList j.write

end OwnerCache.Json
