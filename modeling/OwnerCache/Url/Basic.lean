/-
# OwnerCache.Url.Basic -- URLs

A URL is a scheme, a colon and what the scheme leads to.  Two slashes open an
authority: credentials, a host and the number of a service there.  A path follows,
then a query after `?` and a fragment after `#`.  Without any slash the path is
opaque.

Three layouts differ.  The schemes of the web always have a host, whether slashes
open it or not.  Files may have one.  Both read a backslash as a slash, which no
other scheme does.

`parse` gives the parts in their normal spelling, `write` puts them together.
-/
import OwnerCache.Url.Host
import OwnerCache.Url.Path

namespace OwnerCache

set_option autoImplicit false

namespace Url

/-- What the slashes open. -/
structure Authority where
  username : List Char := []
  password : Option (List Char) := none
  host : Option Host := none
  /-- The number of the service on the host, unless it is the one that the scheme implies. -/
  service : Option Nat := none
deriving DecidableEq, Repr

inductive Layout where
  /-- a scheme of the web, with the service that it implies -/
  | web (service : Nat)
  | file
  | other
deriving DecidableEq, Repr

def Layout.ofScheme (scheme : List Char) : Layout :=
  match String.ofList scheme with
  | "http" | "ws" => .web 80
  | "https" | "wss" => .web 443
  | "ftp" => .web 21
  | "file" => .file
  | _ => .other

def Layout.isSlash (l : Layout) (c : Char) : Bool := c == '/' || (c == '\\' && l ≠ .other)

end Url

@[ext] structure Url where
  scheme : List Char
  authority : Option Url.Authority := none
  path : List Char
  query : Option (List Char) := none
  fragment : Option (List Char) := none
deriving DecidableEq, Repr

namespace Url

/-! ## Writing -/

def Authority.write (a : Authority) : List Char :=
  let password := a.password.elim [] (':' :: ·)
  let credentials := a.username ++ password
  credentials ++ (if credentials.isEmpty then [] else ['@'])
    ++ a.host.elim [] Host.write ++ a.service.elim [] fun n => ':' :: Decimal.write n

/-- A path on its own; two slashes in front would read as an authority. -/
def writeAlone (path : List Char) : List Char :=
  match path with
  | '/' :: '/' :: _ => ['/', '.'] ++ path
  | _ => path

def write (u : Url) : List Char :=
  let place := match u.authority with
    | some a => ['/', '/'] ++ a.write ++ u.path
    | none => writeAlone u.path
  u.scheme ++ [':'] ++ place ++ u.query.elim [] ('?' :: ·) ++ u.fragment.elim [] ('#' :: ·)

def text (u : Url) : String := String.ofList u.write

/-! ## Parts -/

def isStop (l : Layout) (c : Char) : Bool := l.isSlash c || c == '?' || c == '#'

/-- The scheme in small letters, and what follows its colon. -/
def scheme? (cs : List Char) : Option (List Char × List Char) :=
  let isSchemeChar (c : Char) : Bool := c.isAlphanum || ['+', '-', '.'].contains c
  let scheme := counted (cs.takeWhile (· ≠ ':'))
  match cs.dropWhile (· ≠ ':') with
  | _ :: rest =>
    if scheme.head?.any Char.isAlpha && scheme.all isSchemeChar then
      some (scheme.map Char.toLower, rest)
    else none
  | [] => none

/-- Everything after the path: the query and the fragment. -/
def withEnd (l : Layout) (u : Url) (rest : List Char) : Url :=
  let isQuoted (c : Char) : Bool := Percent.inQuery c || (c == '\'' && l ≠ .other)
  let afterPath := rest.takeWhile (· ≠ '#')
  let afterQuery := rest.dropWhile (· ≠ '#')
  { u with
    query := if afterPath.isEmpty then none else some (Percent.escape isQuoted (afterPath.drop 1))
    fragment :=
      if afterQuery.isEmpty then none
      else some (Percent.escape Percent.inFragment (afterQuery.drop 1)) }

/-- The number of a service, unless it is implied, and what follows it. -/
def readService (l : Layout) (cs : List Char) : Except Fault (Option Nat × List Char) :=
  let digits := cs.takeWhile Char.isDigit
  let rest := cs.dropWhile Char.isDigit
  let value := Decimal.value digits
  if 0xFFFF < value ∨ rest.head?.any (fun c => !(['/', '\\', '?', '#'].contains c)) then
    .error .badService
  else .ok (if digits.isEmpty ∨ l = .web value then none else some value, rest)

/-- The credentials before the last `@` of an authority, and what follows it. -/
def credentials (zone : List Char) : Authority × List Char :=
  if zone.contains '@' then
    let given := ((zone.reverse.dropWhile (· ≠ '@')).drop 1).reverse
    let secret := (given.dropWhile (· ≠ ':')).drop 1
    let written := Percent.escape Percent.inCredentials
    ({ username := written (given.takeWhile (· ≠ ':'))
       password := if secret.isEmpty then none else some (written secret) },
      (zone.reverse.takeWhile (· ≠ '@')).reverse)
  else ({}, zone)

/-- The characters before the first colon outside brackets. -/
def beforeColon (inBrackets : Bool) : List Char → List Char
  | [] => []
  | c :: cs =>
    if c = ':' ∧ inBrackets = false then []
    else c :: beforeColon (c == '[' || (inBrackets && c != ']')) cs

/-- The host of an authority, if it has one. -/
def host? (l : Layout) (cs : List Char) : Except Fault (Option Host) :=
  match l with
  | .other => if cs.isEmpty then .ok none else some <$> Host.readOpaque cs
  | _ => if cs.isEmpty then .error .emptyHost else some <$> Host.read cs

/-- An authority, and what follows it.  Credentials and a service need a host; so does a bare `@`
with a path. -/
def Authority.read (l : Layout) (cs : List Char) : Except Fault (Authority × List Char) := do
  let zone := cs.takeWhile (!isStop l ·)
  let rest := cs.dropWhile (!isStop l ·)
  if zone = ['@'] ∧ rest ≠ [] then throw .emptyHost
  let (a, place) := credentials zone
  let name := beforeColon false place
  let host ← host? l name
  if host = none ∧ (place.length ≠ name.length ∨ a ≠ {}) then throw .emptyHost
  if place.length = name.length then return ({ a with host := host }, rest)
  let (service, rest) ← readService l (place.drop (name.length + 1) ++ rest)
  return ({ a with host := host, service := service }, rest)

/-! ## Reading -/

/-- The part of a text up to its query and its fragment, and those. -/
def splitEnd (cs : List Char) : List Char × List Char :=
  (cs.takeWhile (fun c => c ≠ '?' ∧ c ≠ '#'), cs.dropWhile fun c => c ≠ '?' ∧ c ≠ '#')

/-- A URL with an authority, from after the slashes. -/
def withAuthority (l : Layout) (scheme cs : List Char) : Except Fault Url := do
  let (a, rest) ← Authority.read l cs
  let (text, rest) := splitEnd rest
  let path := match text with
    | [] => if l = .other then [] else ['/']
    | c :: cs => (Path.extend false l.isSlash ['/'] (if l.isSlash c then cs else c :: cs)).path
  return withEnd l { scheme := scheme, authority := some a, path := path } rest

/-- The host and the path of a file, from after two slashes.  A host that is a drive is part of
the path, the host `localhost` need not be said, and a drive in the path needs no host.  Without a
host the slash after it is an empty element, so that a drive there is not the first one. -/
def hostedFile (zone : List Char) : Except Fault (Option Host × List Char) := do
  let isSlash := Layout.file.isSlash
  let build := Path.extend true isSlash ['/']
  let name := counted (zone.takeWhile (!isSlash ·))
  let after := zone.dropWhile (!isSlash ·)
  if Path.isDrive name then return (none, (build zone).path)
  if name.isEmpty then return (none, (build after).path)
  let host ← Host.read name
  if host = .named "localhost".toList then return (none, (build after).path)
  let r := build (after.drop 1)
  return (if r.drive then none else some host, r.path)

/-- What follows a slash in front of a text. -/
def afterSlash? (isSlash : Char → Bool) (cs : List Char) : Option (List Char) :=
  match cs.dropWhile isIgnored with
  | c :: cs => if isSlash c then some cs else none
  | [] => none

/-- A file, from after the scheme, with the characters that do not count. -/
def ofFile (scheme cs : List Char) : Except Fault Url := do
  let isSlash := Layout.file.isSlash
  let (text, rest) := splitEnd cs
  let alone (text : List Char) := (none, (Path.extend true isSlash ['/'] text).path)
  let (host, path) ← match afterSlash? isSlash text with
    | none => pure (alone text)
    | some text =>
      match afterSlash? isSlash text with
      | none => pure (alone text)
      | some zone => hostedFile zone
  let u : Url := { scheme := scheme, authority := some { host := host }, path := Path.rooted path }
  return withEnd .file u (counted rest)

/-- A URL without an authority, from after the scheme. -/
def withoutAuthority (scheme cs : List Char) : Url :=
  let (text, rest) := splitEnd cs
  let path := match text with
    | '/' :: text => (Path.extend false Layout.other.isSlash ['/'] text).path
    | _ => Percent.escape Percent.isControl text
  withEnd .other { scheme := scheme, path := path } rest

/-- A text without the spaces and control characters at its ends. -/
def trimmed (cs : List Char) : List Char :=
  ((cs.dropWhile (· ≤ ' ')).reverse.dropWhile (· ≤ ' ')).reverse

def parse (s : String) : Except Fault Url :=
  match scheme? (trimmed s.toList) with
  | none => .error .relative
  | some (scheme, rest) =>
    match Layout.ofScheme scheme with
    | .web n =>
      withAuthority (.web n) scheme ((counted rest).dropWhile (Layout.web n).isSlash)
    | .file => ofFile scheme rest
    | .other =>
      match counted rest with
      | '/' :: '/' :: rest => withAuthority .other scheme rest
      | rest => .ok (withoutAuthority scheme rest)

/-! ## Credentials -/

/-- The bytes that a part stands for are UTF-8. -/
def isDecodable (part : List Char) : Bool := (Utf8.decode? (Percent.unescape part)).isSome

/-- A URL without its credentials, so that they are not shown.  Those that are no text stay. -/
def withoutCredentials (u : Url) : Url :=
  match u.authority with
  | some a =>
    if a.host.isSome && isDecodable a.username &&
        (!a.username.isEmpty || a.password.any isDecodable) then
      { u with authority := some { a with username := [], password := none } }
    else u
  | none => u

end Url

end OwnerCache
