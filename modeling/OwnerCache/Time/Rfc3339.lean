/-
# OwnerCache.Time.Rfc3339 -- times as text

`write` is the canonical form in UTC, with a fraction of 0, 3, 6 or 9 digits,
whichever is the first to be exact, and with a sign on years outside 0000 to
9999.  A leap second is the second 60 of its minute.

`read?` accepts more than `write` produces: blanks before each number and
before separators, fields without their leading zeros, a small or a capital `t`
or a space between date and time, any number of fraction digits, and an offset
given as `Z`, `UTC` or hours and minutes.
-/
import OwnerCache.Time.Calendar
import OwnerCache.Time.Instant
import OwnerCache.Text.Blank

namespace OwnerCache

set_option autoImplicit false

namespace Rfc3339

/-! ## Writing -/

/-- Four digits, or a sign and at least four digits for a year that needs more or is negative. -/
def writeYear (year : Int) : List Char :=
  if 0 ≤ year ∧ year ≤ 9999 then Decimal.writePadded 4 year.toNat
  else (if year < 0 then '-' else '+') :: Decimal.writePadded 4 year.natAbs

def writeDate (d : Date) : List Char :=
  writeYear d.year ++ '-' :: Decimal.writePadded 2 d.month ++ '-' :: Decimal.writePadded 2 d.day

/-- A fraction of a second in nanoseconds, with 0, 3, 6 or 9 digits. -/
def writeFraction (nanos : Nat) : List Char :=
  if nanos = 0 then []
  else if nanos % 1000000 = 0 then '.' :: Decimal.writePadded 3 (nanos / 1000000)
  else if nanos % 1000 = 0 then '.' :: Decimal.writePadded 6 (nanos / 1000)
  else '.' :: Decimal.writePadded 9 nanos

/-- The time of day at a second counted from midnight; nanoseconds from 1000000000 on are in
the leap second after it. -/
def writeTime (second nanos : Nat) : List Char :=
  Decimal.writePadded 2 (second / 3600)
    ++ ':' :: Decimal.writePadded 2 (second / 60 % 60)
    ++ ':' :: Decimal.writePadded 2 (second % 60 + nanos / 1000000000)
    ++ writeFraction (nanos % 1000000000)

def write (t : Instant) : List Char :=
  writeDate (Date.ofNumber (t.seconds / 86400))
    ++ 'T' :: writeTime (t.seconds % 86400).toNat t.subsecond ++ ['Z']

def text (t : Instant) : String := String.ofList (write t)

/-! ## Scanning

A scanner takes what it recognises from the front of a text and hands back the rest. -/

/-- Between one and `most` digits. -/
def digits (most : Nat) (cs : List Char) : Option (Nat × List Char) :=
  let run := (cs.take most).takeWhile Char.isDigit
  if run = [] then none else some (Decimal.value run, cs.drop run.length)

/-- A number of at most two digits, after blanks. -/
def field (cs : List Char) : Option (Nat × List Char) := digits 2 (Blank.trimStart cs)

/-- A separator, after blanks. -/
def separator (c : Char) (cs : List Char) : Option (List Char) :=
  match Blank.trimStart cs with
  | x :: rest => if x = c then some rest else none
  | [] => none

/-- A year of at most four digits, or of any number of digits after a sign. -/
def year (cs : List Char) : Option (Int × List Char) :=
  match Blank.trimStart cs with
  | '-' :: rest => (digits rest.length rest).map fun (n, rest) => (-(n : Int), rest)
  | '+' :: rest => (digits rest.length rest).map fun (n, rest) => ((n : Int), rest)
  | rest => (digits 4 rest).map fun (n, rest) => ((n : Int), rest)

def date (cs : List Char) : Option (Date × List Char) := do
  let (y, cs) ← year cs
  let (m, cs) ← field (← separator '-' cs)
  let (d, cs) ← field (← separator '-' cs)
  return (⟨y, m, d⟩, cs)

/-- A point and digits, of which the first nine count; nothing at all is no fraction. -/
def fraction : List Char → Option (Nat × List Char)
  | '.' :: cs =>
    let run := cs.takeWhile Char.isDigit
    if run = [] then none
    else
      let kept := run.take 9
      some (Decimal.value (kept ++ List.replicate (9 - kept.length) '0'), cs.dropWhile Char.isDigit)
  | cs => some (0, cs)

/-- Two digits that stand for at most 99. -/
def pair : List Char → Option (Nat × List Char)
  | a :: b :: rest =>
    if a.isDigit ∧ b.isDigit then some (Decimal.value [a, b], rest) else none
  | _ => none

/-- Hours and minutes east, in seconds, after their sign. -/
def hoursAndMinutes (cs : List Char) : Option (Nat × List Char) := do
  let (h, cs) ← pair cs
  let (m, cs) ← pair (cs.dropWhile fun c => c == ':' || Blank.isBlank c)
  if h < 24 ∧ m < 60 then return (h * 3600 + m * 60, cs) else none

/-- An offset from UTC in seconds. -/
def offset (cs : List Char) : Option (Int × List Char) :=
  if (cs.take 3).map Char.toUpper = ['U', 'T', 'C'] then some (0, cs.drop 3)
  else match cs with
    | 'Z' :: rest | 'z' :: rest => some (0, rest)
    | '+' :: rest => (hoursAndMinutes rest).map fun (n, rest) => ((n : Int), rest)
    | '-' :: rest | '−' :: rest => (hoursAndMinutes rest).map fun (n, rest) => (-(n : Int), rest)
    | _ => none

/-! ## Reading -/

/-- The instant of a date and a time of day at an offset.  The calendar has to have it there
and in UTC. -/
def instant? (d : Date) (hour minute second nanos : Nat) (offset : Int) : Option Instant :=
  if d.IsValid ∧ hour < 24 ∧ minute < 60 ∧ second ≤ 60 then do
    let clock := d.number * 86400 + (hour * 3600 + minute * 60 + min second 59 : Nat)
    let past := nanos + if second = 60 then 1000000000 else 0
    let _ ← Instant.ofSeconds? clock past
    Instant.ofSeconds? (clock - offset) past
  else none

def read? (cs : List Char) : Option Instant := do
  let (d, cs) ← date cs
  match cs with
  | c :: cs =>
    if c = 'T' ∨ c = 't' ∨ c = ' ' then
      let (hour, cs) ← field cs
      let (minute, cs) ← field (← separator ':' cs)
      let (second, cs) ← field (← separator ':' cs)
      let (nanos, cs) ← fraction cs
      let (east, cs) ← offset (Blank.trimStart cs)
      if Blank.trimStart cs = [] then instant? d hour minute second nanos east else none
    else none
  | [] => none

end Rfc3339

end OwnerCache
