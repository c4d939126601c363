/-
# OwnerCache.Proofs.Time.Calendar -- every day has a date

`Date.ofNumber` finds, for each day before or after 1970, a date that the calendar has
(`ofNumber_isValid`), and it is the date of that day (`number_ofNumber`).

A day of a 400-year cycle falls into a century, four years of it, one of these, and a day of that
(`Place`).  Years begin in March, so the only ones with a day 365 are those before a leap day.
-/
import OwnerCache.Time.Calendar

namespace OwnerCache.Date

set_option autoImplicit false

/-! ## Days of a cycle -/

/-- Where a day of a 400-year cycle falls. -/
structure Place (n : Nat) where
  century : Nat
  four : Nat
  one : Nat
  day : Nat
  century_le : century ≤ 3
  four_le : four ≤ 24
  one_le : one ≤ 3
  day_le : day ≤ 365
  /-- Only a year that ends with a leap day has so many days. -/
  leap : day = 365 → one = 3 ∧ (four = 24 → century = 3)
  sum : n = 36524 * century + 1461 * four + 365 * one + day

theorem isLeap_iff {year : Int} :
    isLeap year = true ↔ year % 4 = 0 ∧ (year % 100 ≠ 0 ∨ year % 400 = 0) := by
  simp [isLeap]

namespace Place

variable {n : Nat}

/-- The March year of the cycle. -/
def year (p : Place n) : Nat := 100 * p.century + 4 * p.four + p.one

theorem year_lt (p : Place n) : p.year < 400 := by
  have := p.century_le
  have := p.four_le
  have := p.one_le
  unfold year
  omega

theorem daysBeforeYear_year (p : Place n) : daysBeforeYear p.year + p.day = n := by
  have := p.four_le
  have := p.one_le
  have := p.sum
  unfold daysBeforeYear year
  omega

/-- The year has a leap day at its end, in the next calendar year, if it has a day 365. -/
theorem isLeap_succ (p : Place n) (cycle : Int) (last : p.day = 365) :
    isLeap (cycle * 400 + p.year + 1) = true := by
  have := p.century_le
  have := p.four_le
  obtain ⟨one, century⟩ := p.leap last
  rw [isLeap_iff, year, one]
  by_cases four : p.four = 24
  · have := century four
    omega
  · omega

end Place

/-- A day of the cycle falls where `yearOfDay` finds it. -/
theorem exists_place {n : Nat} (lt : n < 146097) : ∃ p : Place n, yearOfDay n = p.year :=
  ⟨{ century := min (n / 36524) 3
     four := (n - 36524 * min (n / 36524) 3) / 1461
     one := min ((n - 36524 * min (n / 36524) 3 -
       1461 * ((n - 36524 * min (n / 36524) 3) / 1461)) / 365) 3
     day := n - 36524 * min (n / 36524) 3 - 1461 * ((n - 36524 * min (n / 36524) 3) / 1461) -
       365 * min ((n - 36524 * min (n / 36524) 3 -
         1461 * ((n - 36524 * min (n / 36524) 3) / 1461)) / 365) 3
     century_le := by omega
     four_le := by omega
     one_le := by omega
     day_le := by omega
     leap := by omega
     sum := by omega }, rfl⟩

/-! ## Days of a year -/

theorem monthOfDay_le {d : Nat} (le : d ≤ 365) : monthOfDay d ≤ 11 := by
  unfold monthOfDay
  omega

theorem daysBeforeMonth_le (d : Nat) : daysBeforeMonth (monthOfDay d) ≤ d := by
  unfold daysBeforeMonth monthOfDay
  omega

/-- A March month counted from January. -/
def ofMarch (month : Nat) : Nat := if month < 10 then month + 3 else month - 9

theorem ofMarch_bounds {month : Nat} (le : month ≤ 11) :
    1 ≤ ofMarch month ∧ ofMarch month ≤ 12 := by
  unfold ofMarch
  split <;> omega

theorem ofMarch_add_nine {month : Nat} (le : month ≤ 11) : (ofMarch month + 9) % 12 = month := by
  unfold ofMarch
  split <;> omega

/-- The day is one of its month. -/
theorem day_le_daysInMonth {d : Nat} (le : d ≤ 365) {year : Int}
    (leap : d = 365 → isLeap year = true) :
    d - daysBeforeMonth (monthOfDay d) + 1 ≤ daysInMonth year (ofMarch (monthOfDay d)) := by
  have most := monthOfDay_le le
  have within : (153 * monthOfDay d) ≤ 5 * d + 2 ∧ 5 * d + 2 < 153 * monthOfDay d + 153 := by
    unfold monthOfDay
    omega
  generalize monthOfDay d = m at *
  unfold daysInMonth ofMarch daysBeforeMonth
  by_cases last : d = 365
  · rw [if_pos (leap last)]
    repeat' split
    all_goals omega
  · repeat' split
    all_goals omega

/-! ## Dates of days -/

/-- What `ofNumber` makes of a day, by the place that it has in its cycle. -/
theorem exists_ofNumber (n : Int) :
    ∃ p : Place ((n + epochOffset) % 146097).toNat,
      let cycle := (n + epochOffset) / 146097
      let month := ofMarch (monthOfDay p.day)
      ofNumber n = ⟨cycle * 400 + p.year + (if month ≤ 2 then 1 else 0), month,
        p.day - daysBeforeMonth (monthOfDay p.day) + 1⟩ := by
  have lt : ((n + epochOffset) % 146097).toNat < 146097 := by omega
  obtain ⟨p, year⟩ := exists_place lt
  have day := p.daysBeforeYear_year
  refine ⟨p, ?_⟩
  have inYear : ((n + epochOffset) % 146097).toNat - daysBeforeYear p.year = p.day := by omega
  simp only [ofNumber, year, inYear]
  rfl

/-- **The calendar has every day.** -/
theorem ofNumber_isValid (n : Int) : (ofNumber n).IsValid := by
  obtain ⟨p, same⟩ := exists_ofNumber n
  have le := p.day_le
  have most := monthOfDay_le le
  have bounds := ofMarch_bounds most
  rw [same]
  refine ⟨bounds.1, bounds.2, Nat.le_add_left .., day_le_daysInMonth le fun last => ?_⟩
  -- Day 365 is in February, so its calendar year is the one after the March year.
  have february : ofMarch (monthOfDay p.day) ≤ 2 := by
    rw [last]
    decide
  simp only [if_pos february]
  exact p.isLeap_succ _ last

/-- **A day is the day of its date.** -/
theorem number_ofNumber (n : Int) : (ofNumber n).number = n := by
  obtain ⟨p, same⟩ := exists_ofNumber n
  have lt := p.year_lt
  have day := p.daysBeforeYear_year
  have le := p.day_le
  have most := monthOfDay_le le
  have before := daysBeforeMonth_le p.day
  have march := ofMarch_add_nine most
  have whole := Int.ediv_mul_add_emod (n + epochOffset) 146097
  rw [same]
  simp only [number, march]
  generalize ofMarch (monthOfDay p.day) = month at *
  generalize (n + epochOffset) / 146097 = cycle at *
  have marchYear : (if month ≤ 2 then cycle * 400 + p.year + (if month ≤ 2 then 1 else 0) - 1
      else cycle * 400 + p.year + (if month ≤ 2 then 1 else 0)) = cycle * 400 + p.year := by
    split <;> omega
  have inCycle : ((cycle * 400 + p.year) % 400).toNat = p.year := by omega
  have cycles : (cycle * 400 + p.year) / 400 = cycle := by omega
  rw [marchYear, inCycle, cycles]
  omega

end OwnerCache.Date
