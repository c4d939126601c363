/-
# OwnerCache.Net.Ipv6 -- IPv6 addresses and their text

An address is eight groups of 16 bits.  In its text the groups stand in
hexadecimal between colons; `::` stands for a run of zero groups, and the last
two groups may be written as a dotted quad.  `write` shortens the longest run of
at least two zero groups, the first of several such runs.
-/
import OwnerCache.Net.Address
import OwnerCache.Text.Hex

namespace OwnerCache

set_option autoImplicit false

structure Ipv6 where
  groups : List Nat
  groups_length : groups.length = 8
deriving DecidableEq, Repr

namespace Ipv6

/-! ## Reading -/

/-- One to four digits. -/
def group? (cs : List Char) : Option Nat :=
  if 1 ≤ cs.length ∧ cs.length ≤ 4 then Hex.read? cs else none

/-- The groups at the end of a text, a dotted quad among them. -/
def lastGroups? (cs : List Char) : Option (List Nat) :=
  match Address.read? cs with
  | some a => some [a.value / 0x10000, a.value % 0x10000]
  | none => (group? cs).map ([·])

/-- The groups of a part of a text, which may be empty. -/
def groups? (isLast : Bool) (cs : List Char) : Option (List Nat) :=
  if cs.isEmpty then some []
  else do
    let texts := cs.splitOn ':'
    let front ← texts.dropLast.mapM group?
    let last := texts.getLastD []
    return front ++ (← if isLast then lastGroups? last else (group? last).map ([·]))

/-- The parts before and after the first `::`. -/
def splitAtGap : List Char → Option (List Char × List Char)
  | ':' :: ':' :: rest => some ([], rest)
  | c :: rest => (splitAtGap rest).map fun parts => (c :: parts.1, parts.2)
  | [] => none

def ofGroups? (groups : List Nat) : Option Ipv6 :=
  if h : groups.length = 8 then some ⟨groups, h⟩ else none

/-- The text of an address; `::` stands for at least one group. -/
def read? (cs : List Char) : Option Ipv6 :=
  match splitAtGap cs with
  | none => (groups? true cs).bind ofGroups?
  | some (before, after) => do
    let front ← groups? false before
    let back ← groups? true after
    if front.length + back.length ≤ 7 then
      ofGroups? (front ++ List.replicate (8 - (front.length + back.length)) 0 ++ back)
    else none

/-! ## Writing -/

/-- The number of zero groups from a place on. -/
def zerosAt (a : Ipv6) (place : Nat) : Nat := ((a.groups.drop place).takeWhile (· == 0)).length

/-- The first place of those where the most zero groups start. -/
def gap (a : Ipv6) : Nat :=
  let better (best place : Nat) : Nat := if a.zerosAt best < a.zerosAt place then place else best
  (List.range 8).foldl better 0

def write (a : Ipv6) : List Char :=
  let join (groups : List Nat) : List Char := [':'].intercalate (groups.map Hex.write)
  if 2 ≤ a.zerosAt a.gap then
    join (a.groups.take a.gap) ++ [':', ':'] ++ join (a.groups.drop (a.gap + a.zerosAt a.gap))
  else join a.groups

end Ipv6

end OwnerCache
