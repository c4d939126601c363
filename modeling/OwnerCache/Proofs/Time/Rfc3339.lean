/-
# OwnerCache.Proofs.Time.Rfc3339 -- times are read as they were written

Each scanner takes from the front of a text what the writer of its part wrote there, and hands back
the rest (`year_writeYear`, `date_writeDate`, `field_writePadded`, `fraction_writeFraction`).  What
they need to know of the rest is that it does not go on with a digit where a digit could be taken.

The numbers that are found make up the instant again (`instant?_eq`), leap seconds included, since
the calendar has every day.  So what is written is read back (`read?_write`).
-/
import OwnerCache.Proofs.Net.Notation
import OwnerCache.Proofs.Text.Trim
import OwnerCache.Proofs.Time.Calendar
import OwnerCache.Time.Rfc3339

namespace OwnerCache

set_option autoImplicit false

/-! ## Padded numbers -/

namespace Decimal

theorem writePadded_ne_nil (width n : Nat) : writePadded width n ≠ [] := by
  simp [writePadded, write_ne_nil]

theorem isDigit_of_mem_writePadded {width n : Nat} {c : Char} (mem : c ∈ writePadded width n) :
    c.isDigit = true := by
  rcases List.mem_append.mp mem with zero | digit
  · rw [(List.mem_replicate.mp zero).2]
    rfl
  · exact isDigit_of_mem_write digit

theorem value_writePadded (width n : Nat) : value (writePadded width n) = n := by
  rw [value, writePadded, Nat.ofDigitChars_append, Nat.ofDigitChars_replicate_zero, Nat.mul_zero]
  exact value_write n

theorem length_writePadded {width n : Nat} (pos : 0 < width) (lt : n < 10 ^ width) :
    (writePadded width n).length = width := by
  have le := (spells_write pos lt).length_le
  rw [writePadded, List.length_append, List.length_replicate]
  omega

/-- Zeros after digits are further digits. -/
theorem value_append_zeros (cs : List Char) (k : Nat) :
    value (cs ++ List.replicate k '0') = 10 ^ k * value cs := by
  rw [value, Nat.ofDigitChars_append, Nat.ofDigitChars_replicate_zero]
  rfl

end Decimal

namespace Rfc3339

open Decimal Blank

/-! ## Scanners -/

/-- Digits are taken up to the most that may be, or else to where they end. -/
theorem digits_append {most : Nat} {ds rest : List Char} (nonempty : ds ≠ [])
    (all : ∀ c ∈ ds, c.isDigit = true) (le : ds.length ≤ most)
    (ends : ds.length = most ∨ ∀ c ∈ rest.head?, c.isDigit = false) :
    digits most (ds ++ rest) = some (value ds, rest) := by
  have run : ((ds ++ rest).take most).takeWhile Char.isDigit = ds := by
    rw [List.take_append, List.take_of_length_le le, List.takeWhile_append_of_pos all]
    rcases ends with full | stops
    · simp [full]
    · cases rest with
      | nil => simp
      | cons c rest =>
          have other : c.isDigit = false := stops c rfl
          cases most - ds.length <;> simp [other]
  rw [digits]
  simp only [run, if_neg nonempty, List.drop_left]

theorem isBlank_of_isDigit {c : Char} (digit : c.isDigit = true) : isBlank c = false := by
  obtain ⟨low, high⟩ := Char.isDigit_iff_toNat.mp digit
  rw [show '0'.toNat = 48 from rfl] at low
  rw [show '9'.toNat = 57 from rfl] at high
  simp [isBlank]
  omega

/-- A number that is written has no blanks in front. -/
theorem trimStart_writePadded (width n : Nat) (rest : List Char) :
    trimStart (writePadded width n ++ rest) = writePadded width n ++ rest := by
  refine trimStart_eq fun c head => ?_
  rw [List.head?_append_of_ne_nil _ (writePadded_ne_nil width n)] at head
  have first : c ∈ writePadded width n := List.mem_of_mem_head? head
  exact isBlank_of_isDigit (isDigit_of_mem_writePadded first)

theorem field_writePadded {n : Nat} (lt : n < 100) (rest : List Char) :
    field (writePadded 2 n ++ rest) = some (n, rest) := by
  have length : (writePadded 2 n).length = 2 := length_writePadded (by decide) lt
  rw [field, trimStart_writePadded, digits_append (writePadded_ne_nil 2 n)
    (fun _ => isDigit_of_mem_writePadded) (Nat.le_of_eq length) (.inl length), value_writePadded]

theorem separator_cons {c : Char} (solid : isBlank c = false) (rest : List Char) :
    separator c (c :: rest) = some rest := by
  rw [separator, trimStart_eq fun d head => by rwa [← Option.some.inj head]]
  simp

/-- A year without a sign has four digits. -/
theorem year_of_isDigit {c : Char} (digit : c.isDigit = true) (cs : List Char) :
    year (c :: cs) = (digits 4 (c :: cs)).map fun (n, rest) => ((n : Int), rest) := by
  have solid : trimStart (c :: cs) = c :: cs :=
    trimStart_eq fun d head => by rw [← Option.some.inj head]; exact isBlank_of_isDigit digit
  rw [year, solid]
  split
  · rename_i same
    cases same
    exact absurd digit (by decide)
  · rename_i same
    cases same
    exact absurd digit (by decide)
  · rfl

/-- A year is read as it is written if no further digit follows it. -/
theorem year_writeYear (y : Int) {rest : List Char} (ends : ∀ c ∈ rest.head?, c.isDigit = false) :
    year (writeYear y ++ rest) = some (y, rest) := by
  have signed : digits (writePadded 4 y.natAbs ++ rest).length (writePadded 4 y.natAbs ++ rest) =
      some (y.natAbs, rest) := by
    rw [digits_append (writePadded_ne_nil 4 _) (fun _ => isDigit_of_mem_writePadded)
      (by simp) (.inr ends), value_writePadded]
  by_cases plain : 0 ≤ y ∧ y ≤ 9999
  · rw [writeYear, if_pos plain]
    have length : (writePadded 4 y.toNat).length = 4 := length_writePadded (by decide) (by omega)
    have read : digits 4 (writePadded 4 y.toNat ++ rest) = some (y.toNat, rest) := by
      rw [digits_append (writePadded_ne_nil 4 _) (fun _ => isDigit_of_mem_writePadded)
        (Nat.le_of_eq length) (.inl length), value_writePadded]
    obtain ⟨c, cs, first⟩ := List.exists_cons_of_ne_nil (writePadded_ne_nil 4 y.toNat)
    have digit : c.isDigit = true := by
      refine isDigit_of_mem_writePadded (?_ : c ∈ writePadded 4 y.toNat)
      rw [first]
      exact List.mem_cons_self
    rw [first, List.cons_append] at read ⊢
    rw [year_of_isDigit digit, read, Option.map_some]
    simp only [Int.toNat_of_nonneg plain.1]
  · rw [writeYear, if_neg plain]
    by_cases negative : y < 0
    · rw [if_pos negative, List.cons_append, year, trimStart_eq (by simp; decide)]
      simp only [signed, Option.map_some]
      congr 2
      omega
    · rw [if_neg negative, List.cons_append, year, trimStart_eq (by simp; decide)]
      simp only [signed, Option.map_some]
      congr 2
      omega

theorem date_writeDate {d : Date} (month : d.month < 100) (day : d.day < 100) (rest : List Char) :
    date (writeDate d ++ rest) = some (d, rest) := by
  have year : year (writeDate d ++ rest) = some (d.year,
      '-' :: (writePadded 2 d.month ++ '-' :: (writePadded 2 d.day ++ rest))) := by
    rw [writeDate, List.append_assoc, List.append_assoc]
    exact year_writeYear d.year fun c head => by rw [← Option.some.inj head]; rfl
  rw [date, year]
  simp only [Option.bind_eq_bind, Option.bind_some]
  rw [separator_cons rfl]
  simp only [Option.bind_some, field_writePadded month]
  rw [separator_cons rfl]
  simp only [Option.bind_some, field_writePadded day]
  rfl

/-- Digits after the point are read as so many nanoseconds as zeros behind them make nine. -/
theorem fraction_point {width n : Nat} (pos : 0 < width) (le : width ≤ 9) (lt : n < 10 ^ width)
    {rest : List Char} (ends : ∀ c ∈ rest.head?, c.isDigit = false) :
    fraction ('.' :: writePadded width n ++ rest) = some (10 ^ (9 - width) * n, rest) := by
  have digit : ∀ c ∈ writePadded width n, c.isDigit = true :=
    fun _ => isDigit_of_mem_writePadded
  have length := length_writePadded pos lt
  have others : rest.takeWhile Char.isDigit = [] ∧ rest.dropWhile Char.isDigit = rest := by
    cases rest with
    | nil => exact ⟨rfl, rfl⟩
    | cons c rest =>
        have stops : c.isDigit = false := ends c rfl
        simp [stops]
  rw [List.cons_append, fraction]
  simp only [List.takeWhile_append_of_pos digit, List.dropWhile_append_of_pos digit, others,
    List.append_nil, if_neg (writePadded_ne_nil width n)]
  rw [List.take_of_length_le (by omega), length, value_append_zeros, value_writePadded]

/-- The fraction has as many digits as are needed, in threes. -/
theorem fraction_writeFraction {n : Nat} (lt : n < 1000000000) {rest : List Char}
    (ends : ∀ c ∈ rest.head?, c.isDigit = false ∧ c ≠ '.') :
    fraction (writeFraction n ++ rest) = some (n, rest) := by
  have stops : ∀ c ∈ rest.head?, c.isDigit = false := fun c head => (ends c head).1
  rw [writeFraction]
  split
  · rename_i zero
    rw [List.nil_append, zero, fraction]
    rintro cs rfl
    exact (ends '.' rfl).2 rfl
  · split
    · rw [fraction_point (by decide) (by decide) (by omega) stops]
      congr 2
      omega
    · split
      · rw [fraction_point (by decide) (by decide) (by omega) stops]
        congr 2
        omega
      · rw [fraction_point (by decide) (by decide) (by omega) stops]
        congr 2
        omega

/-! ## Instants -/

theorem ofSeconds?_self (t : Instant) : Instant.ofSeconds? t.seconds t.subsecond = some t :=
  dif_pos ⟨t.least_le, t.le_greatest, t.subsecond_lt, t.minute_ends⟩

/-- The parts of an instant make it up again. -/
theorem instant?_eq (t : Instant) :
    let second := (t.seconds % 86400).toNat
    instant? (Date.ofNumber (t.seconds / 86400)) (second / 3600) (second / 60 % 60)
      (second % 60 + t.subsecond / 1000000000) (t.subsecond % 1000000000) 0 = some t := by
  have below := t.subsecond_lt
  have leap := t.minute_ends
  intro second
  have within : second < 86400 ∧ (second : Int) = t.seconds % 86400 := by omega
  have clock : t.seconds / 86400 * 86400 + (second / 3600 * 3600 + second / 60 % 60 * 60 +
      min (second % 60 + t.subsecond / 1000000000) 59 : Nat) = t.seconds := by omega
  have past : t.subsecond % 1000000000 +
      (if second % 60 + t.subsecond / 1000000000 = 60 then 1000000000 else 0) = t.subsecond := by
    split <;> omega
  rw [instant?, if_pos ⟨Date.ofNumber_isValid _, by omega, by omega, by omega⟩,
    Date.number_ofNumber]
  simp only [clock, past, Int.sub_zero, ofSeconds?_self]
  rfl

/-- The parts of a text in the canonical form are what it is an instant of. -/
theorem read?_parts {d : Date} {hour minute second nanos : Nat} (month_lt : d.month < 100)
    (day_lt : d.day < 100) (hour_lt : hour < 100) (minute_lt : minute < 100)
    (second_lt : second < 100) (nanos_lt : nanos < 1000000000) :
    read? (writeDate d ++ 'T' :: (writePadded 2 hour ++ ':' :: (writePadded 2 minute ++ ':' ::
      (writePadded 2 second ++ (writeFraction nanos ++ ['Z']))))) =
      instant? d hour minute second nanos 0 := by
  rw [read?, date_writeDate month_lt day_lt]
  simp only [Option.bind_eq_bind, Option.bind_some, true_or, if_true]
  rw [field_writePadded hour_lt]
  simp only [Option.bind_some]
  rw [separator_cons rfl]
  simp only [Option.bind_some, field_writePadded minute_lt]
  rw [separator_cons rfl]
  simp only [Option.bind_some, field_writePadded second_lt]
  rw [fraction_writeFraction nanos_lt (by simp)]
  rfl

/-- **What is written is read back.** -/
theorem read?_write (t : Instant) : read? (write t) = some t := by
  have below := t.subsecond_lt
  obtain ⟨-, month, -, day⟩ := Date.ofNumber_isValid (t.seconds / 86400)
  have days : Date.daysInMonth (Date.ofNumber (t.seconds / 86400)).year
      (Date.ofNumber (t.seconds / 86400)).month ≤ 31 := by
    unfold Date.daysInMonth
    repeat' split
    all_goals decide
  have parts := read?_parts (d := Date.ofNumber (t.seconds / 86400)) (by omega) (by omega)
    (by omega : (t.seconds % 86400).toNat / 3600 < 100)
    (by omega : (t.seconds % 86400).toNat / 60 % 60 < 100)
    (by omega : (t.seconds % 86400).toNat % 60 + t.subsecond / 1000000000 < 100)
    (by omega : t.subsecond % 1000000000 < 1000000000)
  rw [instant?_eq] at parts
  rw [← parts]
  simp only [write, writeTime, List.append_assoc, List.cons_append]

end Rfc3339

end OwnerCache
