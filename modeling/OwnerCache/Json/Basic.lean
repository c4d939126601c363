/-
# OwnerCache.Json.Basic -- JSON documents

A document is a tree.  Two things in it are kept as they were written, so that
no information is lost before a reader asks for it: a number is its literal, and
a string is a sequence of units, where `none` stands for a unit that is no
character (half of a surrogate pair, or bytes that are not UTF-8).  An object
keeps its members in order, repeated keys included.
-/
namespace OwnerCache

set_option autoImplicit false

inductive Json where
  | null
  | bool (b : Bool)
  | number (literal : List Char)
  | string (units : List (Option Char))
  | array (items : List Json)
  | object (members : List (List (Option Char) × Json))

namespace Json

instance : Inhabited Json := ⟨.null⟩

/-- The characters of a string all of whose units are characters. -/
def characters? (units : List (Option Char)) : Option String :=
  (units.mapM id).map String.ofList

/-- The units of a text. -/
def units (s : String) : List (Option Char) := s.toList.map some

def ofString (s : String) : Json := .string (units s)

/-- A document for a value that may be missing. -/
def ofOption {α : Type} (f : α → Json) : Option α → Json
  | some a => f a
  | none => .null

/-- An object with the given keys, in order. -/
def ofFields (fields : List (String × Json)) : Json :=
  .object (fields.map fun (key, value) => (units key, value))

end Json

end OwnerCache
