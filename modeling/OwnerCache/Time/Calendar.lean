/-
# OwnerCache.Time.Calendar -- days of the proleptic Gregorian calendar

A date names a day; `number` counts days from 1970-01-01 and `ofNumber` finds
the date again.  Both reckon in years that start on the first of March, so that
the leap day is the last of its year, and in cycles of 400, 100, 4 and 1 of
those years.
-/
namespace OwnerCache

set_option autoImplicit false

@[ext] structure Date where
  year : Int
  month : Nat
  day : Nat
deriving DecidableEq, Repr

namespace Date

def isLeap (year : Int) : Bool := year % 4 = 0 && (year % 100 ≠ 0 || year % 400 = 0)

def daysInMonth (year : Int) (month : Nat) : Nat :=
  if month = 2 then (if isLeap year then 29 else 28)
  else if month = 4 ∨ month = 6 ∨ month = 9 ∨ month = 11 then 30 else 31

def IsValid (d : Date) : Prop :=
  1 ≤ d.month ∧ d.month ≤ 12 ∧ 1 ≤ d.day ∧ d.day ≤ daysInMonth d.year d.month

instance (d : Date) : Decidable d.IsValid := by unfold IsValid; infer_instance

/-! ## Years from March -/

/-- Days before a month of a March year; March is month 0. -/
def daysBeforeMonth (month : Nat) : Nat := (153 * month + 2) / 5

/-- The month of a March year that holds its day `n`, counted from 0. -/
def monthOfDay (n : Nat) : Nat := (5 * n + 2) / 153

/-- Days before the March year `y` of a 400-year cycle. -/
def daysBeforeYear (y : Nat) : Nat := 365 * y + y / 4 - y / 100

/-- The March year of a 400-year cycle that holds its day `n`. -/
def yearOfDay (n : Nat) : Nat :=
  let century := min (n / 36524) 3
  let inCentury := n - 36524 * century
  let four := inCentury / 1461
  let inFour := inCentury - 1461 * four
  100 * century + 4 * four + min (inFour / 365) 3

/-! ## Day numbers -/

/-- Days from 0000-03-01 to 1970-01-01. -/
def epochOffset : Int := 719468

/-- Days from 1970-01-01 to a date. -/
def number (d : Date) : Int :=
  let marchMonth := (d.month + 9) % 12
  let marchYear := if d.month ≤ 2 then d.year - 1 else d.year
  let inCycle := daysBeforeYear (marchYear % 400).toNat + daysBeforeMonth marchMonth + (d.day - 1)
  marchYear / 400 * 146097 + inCycle - epochOffset

/-- The date so many days after 1970-01-01. -/
def ofNumber (n : Int) : Date :=
  let fromMarch := n + epochOffset
  let inCycle := (fromMarch % 146097).toNat
  let year := yearOfDay inCycle
  let inYear := inCycle - daysBeforeYear year
  let marchMonth := monthOfDay inYear
  let month := if marchMonth < 10 then marchMonth + 3 else marchMonth - 9
  { year := fromMarch / 146097 * 400 + year + (if month ≤ 2 then 1 else 0)
    month := month
    day := inYear - daysBeforeMonth marchMonth + 1 }

end Date

end OwnerCache
