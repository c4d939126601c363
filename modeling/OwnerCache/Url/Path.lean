/-
# OwnerCache.Url.Path -- the path of a URL

A path is read element by element.  An element `..` takes back the one before it
and `.` stands for nothing; both may be written with escapes.  All other elements
are kept, with escapes for the characters that a path may not show.

The path of a file starts with one slash, and its first element may be a drive: a
letter with a colon or a bar.  A drive is never taken back.

Tabs and ends of lines do not count, except that one of them after a drive with a
colon sets the drive apart: the rest of the element is kept as another one, even if
it is `..` or `.`.
-/
import OwnerCache.Url.Percent

namespace OwnerCache.Url

set_option autoImplicit false

/-- Tabs and ends of lines do not count in a URL. -/
def isIgnored (c : Char) : Bool := ['\t', '\n', '\r'].contains c

/-- The characters of a text that count. -/
def counted (cs : List Char) : List Char := cs.filter (!isIgnored ·)

namespace Path

/-! ## Elements -/

/-- An element, and whether a slash ends it. -/
structure Element where
  text : List Char
  ended : Bool

/-- The elements of a text; the last one has no slash. -/
def elements (isSlash : Char → Bool) : List Char → List Element
  | [] => [⟨[], false⟩]
  | c :: cs =>
    if isSlash c then ⟨[], true⟩ :: elements isSlash cs
    else
      match elements isSlash cs with
      | e :: rest => { e with text := c :: e.text } :: rest
      | [] => [⟨[c], false⟩]

/-- An element with its escaped dots as dots. -/
def undot : List Char → List Char
  | '%' :: '2' :: 'e' :: rest | '%' :: '2' :: 'E' :: rest => '.' :: undot rest
  | c :: rest => c :: undot rest
  | [] => []

/-! ## Drives -/

def isDrive (cs : List Char) : Bool :=
  match cs with
  | [letter, mark] => letter.isAlpha && (mark == ':' || mark == '|')
  | _ => false

/-- Whether a drive, with a slash or the end after it, is at the front. -/
def startsWithDrive (cs : List Char) : Bool :=
  isDrive (cs.take 2) && ((cs.drop 2).head?.all fun c => ['/', '\\', '?', '#'].contains c)

/-- The drive in front of an element that an ignored character sets apart, and what follows it. -/
def setApart? (cs : List Char) : Option (List Char × List Char) :=
  match cs.dropWhile isIgnored with
  | letter :: more =>
    match more.dropWhile isIgnored with
    | ':' :: after =>
      if letter.isAlpha && after.head?.any isIgnored && after.any (!isIgnored ·) then
        some ([letter, ':'], counted after)
      else none
    | _ => none
  | [] => none

/-! ## Steps -/

/-- A path that is being read. -/
structure Reading where
  path : List Char
  /-- whether its first element is a drive -/
  drive : Bool := false

/-- What follows the last slash. -/
def last (path : List Char) : List Char := (path.reverse.takeWhile (· ≠ '/')).reverse

/-- A path up to its last slash. -/
def upToSlash (path : List Char) : List Char := (path.reverse.dropWhile (· ≠ '/')).reverse

/-- A path that ends in a slash without that slash, unless it is the first one or follows a
drive. -/
def dropSlash (path : List Char) : List Char :=
  let front := path.dropLast
  if path.getLast? = some '/' ∧ '/' ∈ front ∧ ¬startsWithDrive (last front) then front else path

/-- Take back the last element. -/
def shorten (isFile : Bool) (path : List Char) : List Char :=
  let path := dropSlash path
  if isFile && isDrive (last path) && (last path).getLast? == some ':' then path
  else upToSlash path

/-- A path that ends in a slash. -/
def withSlash (path : List Char) : List Char :=
  if path.getLast? = some '/' then path else path ++ ['/']

/-- A path with one more element.  A drive that is the first one gets its colon. -/
def Reading.add (isFile : Bool) (r : Reading) (e : Element) : Reading :=
  let isFirst : Bool := isFile && r.path.length == 1
  let text := Percent.escape Percent.inPath (counted e.text)
  let finish (path : List Char) : List Char := if e.ended then path ++ ['/'] else path
  match if isFirst then setApart? e.text else none with
  | some (drive, rest) =>
    { r with path := finish (r.path ++ drive ++ ['/'] ++ Percent.escape Percent.inPath rest) }
  | none =>
    if undot text = ['.', '.'] then
      let shorter := shorten isFile r.path
      { r with path := if e.ended then withSlash shorter else shorter }
    else if undot text = ['.'] then { r with path := withSlash r.path }
    else if isFirst && isDrive text then
      { path := finish (r.path ++ text.take 1 ++ [':']), drive := true }
    else { r with path := finish (r.path ++ text) }

/-! ## Paths -/

/-- A path that starts with `start` and goes on with the elements of a text. -/
def extend (isFile : Bool) (isSlash : Char → Bool) (start text : List Char) : Reading :=
  (elements isSlash text).foldl (Reading.add isFile) { path := start }

/-- A path with one slash in front. -/
def rooted (path : List Char) : List Char := '/' :: path.dropWhile (· == '/')

end Path

end OwnerCache.Url
