/-
# OwnerCache.Store.Location -- where a database is

A database is named by a text.  `:memory:` and the empty text name one that lives
only while it is open; any other text is the path of a file.

A text that starts with `file:` is a URI.  Its path ends at the first `?`, where
options `name=value` begin, separated by `&`; what follows a `#` does not count.
Escapes `%HH` stand for bytes, and `%00` cuts off the rest of its part.  An
authority before the path has to be this host.

`mode` says whether the file may be written and whether it has to be there, `vfs`
how files are reached, `immutable` that nobody writes, and `modeof` names a file
whose permissions a new one takes over; `cache` is checked only, and other options
are left alone.
-/
import OwnerCache.Store.Durable
import OwnerCache.Store.Refusing
import OwnerCache.Text.Decimal
import OwnerCache.Text.Utf8
import OwnerCache.Url.Percent

namespace OwnerCache

set_option autoImplicit false

@[ext] structure Location where
  /-- The path of the file; none for a database that lives only while it is open. -/
  path : Option (List UInt8)
  mustExist : Bool := false
  writable : Bool := true
  /-- The path of a file whose permissions a new one takes over. -/
  model : Option (List UInt8) := none
deriving DecidableEq, Repr

namespace Location

/-! ## Options -/

/-- The ways to open a file. -/
inductive Mode where
  | readOnly
  | readWrite
  | create
  /-- no file at all -/
  | memory
deriving DecidableEq, Repr

namespace Mode

def ofName? : String → Option Mode
  | "ro" => some .readOnly
  | "rw" => some .readWrite
  | "rwc" => some .create
  | "memory" => some .memory
  | _ => none

def rank : Mode → Nat
  | .readOnly => 1
  | .readWrite => 2
  | .create => 3
  | .memory => 4

/-- Where one mode is given after another, the later one may not ask for more; `memory` may
always be asked for. -/
def Allows (given asked : Mode) : Prop := asked = .memory ∨ asked.rank ≤ given.rank

instance (given asked : Mode) : Decidable (given.Allows asked) :=
  inferInstanceAs (Decidable (_ ∨ _))

end Mode

structure Options where
  mode : Mode := .create
  /-- How files are reached. -/
  system : String := "unix"
  /-- The value of the first `immutable`. -/
  immutable : Option Bool := none
  /-- The value of the first `modeof`. -/
  model : Option (List UInt8) := none
deriving DecidableEq, Repr

namespace Options

/-- The systems that reach files, with the one that keeps them in memory. -/
def systems : List String := ["unix", "unix-none", "unix-dotfile", "unix-excl", "memdb"]

/-- The number at the start of a text, in decimal or after `0x` in hexadecimal; one that takes
more than 31 bits counts as zero. -/
def leadingNumber (cs : List Char) : Nat :=
  let hex (cs : List Char) : Nat :=
    ((cs.map Hex.value?).takeWhile Option.isSome).foldl (fun n d => n * 16 + d.getD 0) 0
  let decimal := Decimal.value (cs.takeWhile Char.isDigit)
  let n := match cs with
    | '0' :: 'x' :: rest | '0' :: 'X' :: rest => hex rest
    | _ => decimal
  if n < 0x80000000 then n else 0

/-- `on`, `yes` or `true` in any case, or a number of which the low eight bits are not zero. -/
def isOn (value : String) : Bool :=
  match value.toList with
  | c :: cs =>
    if c.isDigit then leadingNumber (c :: cs) % 256 != 0
    else ["on", "yes", "true"].any fun word => word.toList == (c :: cs).map Char.toLower
  | [] => false

/-- Take an option into account. -/
def add (o : Options) (name : String) (bytes : List UInt8) : Except StoreError Options :=
  let value := String.ofList (Utf8.decodeLossy bytes)
  match name with
  | "vfs" => .ok { o with system := value }
  | "modeof" => .ok { o with model := o.model.or (some bytes) }
  | "immutable" => .ok { o with immutable := o.immutable.or (some (isOn value)) }
  | "cache" =>
    if value = "shared" ∨ value = "private" then .ok o
    else .error (.backend (.unknownMode "cache" value))
  | "mode" =>
    match Mode.ofName? value with
    | none => .error (.backend (.unknownMode "access" value))
    | some mode =>
      if o.mode.Allows mode then .ok { o with mode := mode }
      else .error (.backend (.forbiddenMode value))
  | _ => .ok o

/-- All options in order, then the system. -/
def ofList (given : List (String × List UInt8)) : Except StoreError Options := do
  let o ← given.foldlM (fun o option => o.add option.1 option.2) {}
  if o.system ∈ systems then return o else throw (.backend (.unknownSystem o.system))

end Options

/-! ## Names -/

/-- The bytes of a part of a URI, up to the first that is zero. -/
def unescape (cs : List Char) : List UInt8 := (Percent.unescape cs).takeWhile (· ≠ 0)

/-- An option and its value, which may be empty; without a name it is none. -/
def option? (cs : List Char) : Option (String × List UInt8) :=
  let name := unescape (cs.takeWhile (· ≠ '='))
  if name = [] then none
  else some (String.ofList (Utf8.decodeLossy name), unescape ((cs.dropWhile (· ≠ '=')).drop 1))

/-- What follows an authority, which is this host if it is given at all. -/
def dropAuthority : List Char → Except StoreError (List Char)
  | '/' :: '/' :: rest =>
    let authority := String.ofList (rest.takeWhile (· ≠ '/'))
    if authority = "" ∨ authority = "localhost" then .ok (rest.dropWhile (· ≠ '/'))
    else .error (.backend (.unknownAuthority authority))
  | cs => .ok cs

/-- The location of a path under options. -/
def ofPath (path : List UInt8) (o : Options) : Location :=
  let mayWrite := o.mode ≠ .readOnly
  if o.mode = .memory ∨ path = [] ∨ path = Utf8.encode ":memory:".toList then
    { path := none, writable := mayWrite }
  else
    let writable := mayWrite ∧ o.immutable ≠ some true
    if o.system = "memdb" then { path := none, writable := writable }
    else
      { path := some path
        mustExist := o.mode = .readOnly ∨ o.mode = .readWrite
        writable := writable
        model := o.model }

/-- The location that a URI names, from after its scheme. -/
def ofUri (cs : List Char) : Except StoreError Location := do
  let named := (← dropAuthority cs).takeWhile (· ≠ '#')
  let query := (named.dropWhile (· ≠ '?')).drop 1
  let options ← Options.ofList ((query.splitOn '&').filterMap option?)
  return ofPath (unescape (named.takeWhile (· ≠ '?'))) options

def ofText (name : String) : Except StoreError Location :=
  match name.toList with
  | 'f' :: 'i' :: 'l' :: 'e' :: ':' :: rest => ofUri rest
  | _ => .ok (ofPath (Utf8.encode name.toList) {})

/-! ## Files -/

/-- The byte between the elements of a path. -/
def slash : UInt8 := 0x2F

/-- Go on by one element.  Empty elements and `.` do not count, and `..` takes back the element
before it. -/
def step (reached : List (List UInt8)) (element : List UInt8) : List (List UInt8) :=
  if element = [] ∨ element = Utf8.encode ['.'] then reached
  else if element = Utf8.encode ['.', '.'] then reached.dropLast
  else reached ++ [element]

/-- Where a path starts: at the root, or in a directory. -/
def start (directory : List (List UInt8)) (path : List UInt8) : List (List UInt8) :=
  if path.head? = some slash then [] else directory

/-- The elements of a path from the root on; a relative path starts in a directory. -/
def elements (directory : List (List UInt8)) (path : List UInt8) : List (List UInt8) :=
  (path.splitOn slash).foldl step (start directory path)

/-- The bytes of a path from the root on. -/
def size (elements : List (List UInt8)) : Nat :=
  elements.foldl (fun n element => n + 1 + element.length) 0

/-- What there is at a path. -/
inductive Place where
  /-- nothing, and nothing can be put there -/
  | unreachable
  /-- nothing yet -/
  | vacant
  | directory
  /-- a file that is no database -/
  | foreign
  /-- a file that does not keep what it is given -/
  | device
  /-- a device that has no room -/
  | fullDevice
  | holds (store : Durable)

def Place.IsThere : Place → Prop
  | .unreachable | .vacant => False
  | _ => True

instance (p : Place) : Decidable p.IsThere := by cases p <;> unfold Place.IsThere <;> infer_instance

/-- The paths there are, by their elements. -/
structure Disk where
  /-- Where relative paths start. -/
  directory : List (List UInt8)
  look : List (List UInt8) → Place

/-- The most bytes of an element of a path. -/
def maxElement : Nat := 255

/-- The most bytes of a path on the way to a database; the last eight of them are kept for the
endings of files beside it. -/
def maxSize : Nat := 512

/-- Whether an element may be put after a path on the way to a database.  What is not there yet
may be named, but nothing is under a file, and a directory has no names that are too long. -/
def Disk.Admits (disk : Disk) (reached : List (List UInt8)) (element : List UInt8) : Prop :=
  size (reached ++ [element]) ≤ maxSize - 1 ∧
    match disk.look reached with
    | .directory => element.length ≤ maxElement
    | .unreachable | .vacant => True
    | .foreign | .device | .fullDevice | .holds _ => False

instance (disk : Disk) (reached : List (List UInt8)) (element : List UInt8) :
    Decidable (disk.Admits reached element) := by
  unfold Disk.Admits
  split <;> infer_instance

/-- The elements of a path to a database, each of which is looked at on the way, even if it is
taken back.  Such a path does not lead to the root. -/
def Disk.follow? (disk : Disk) (path : List UInt8) : Option (List (List UInt8)) := do
  let go (reached : List (List UInt8)) (element : List UInt8) : Option (List (List UInt8)) :=
    let next := step reached element
    if next.length ≤ reached.length ∨ disk.Admits reached element then some next else none
  let reached ← (path.splitOn slash).foldlM go (start disk.directory path)
  if reached = [] ∨ maxSize < size reached + 8 then none else some reached

/-- What there is at a path as it is written, each element of which but the last is a directory;
the empty path is nowhere. -/
def Disk.at (disk : Disk) (path : List UInt8) : Place :=
  let go (reached : List (List UInt8)) (element : List UInt8) : Option (List (List UInt8)) :=
    match disk.look reached with
    | .directory => if element.length ≤ maxElement then some (step reached element) else none
    | _ => none
  match (path.splitOn slash).foldlM go (start disk.directory path) with
  | some reached => if path = [] then .unreachable else disk.look reached
  | none => .unreachable

/-- A database that is new.  It has to be set up first, which is writing. -/
def create (l : Location) : Except StoreError (Refusing Durable) :=
  if l.writable then .ok { store := {} } else .error (.backend .readOnly)

/-- The database at a location.  A model counts before the file itself is opened. -/
def connect (name : String) (disk : Disk) (l : Location) : Except StoreError (Refusing Durable) :=
  match l.path with
  | none => l.create
  | some path =>
    match disk.follow? path with
    | none => .error (.backend (.cannotOpen name))
    | some reached =>
      if l.model.any fun model => ¬(disk.at model).IsThere then .error (.backend .unreadable)
      else match disk.look reached with
        | .unreachable | .directory => .error (.backend (.cannotOpen name))
        | .foreign => .error (.backend .notDatabase)
        | .device => .error (.backend (if l.writable then .unreadable else .readOnly))
        | .fullDevice => .error (.backend (if l.writable then .full else .readOnly))
        | .vacant =>
          if l.mustExist then .error (.backend (.cannotOpen name)) else l.create
        | .holds s => .ok (if l.writable then { store := s } else .readOnly s)

end Location

end OwnerCache
