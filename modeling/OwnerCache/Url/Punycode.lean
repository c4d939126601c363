/-
# OwnerCache.Url.Punycode -- any characters as ASCII letters and digits

The ASCII characters of a text come first, then a hyphen if there are any, then
for each other character, by rising number, a count of what lies between it and
the one before: a character is a number and a place, and all places are passed
for a number before the next number comes.

A count is written with 36 digits, the lowest first.  Each digit place has a
threshold; a digit below it is the last.  Thresholds follow a bias that adapts to
the counts seen so far.
-/
namespace OwnerCache.Punycode

set_option autoImplicit false

/-! ## Counts -/

/-- The letters stand for 0 to 25, the decimal digits for 26 to 35. -/
def digit (n : Nat) : Char :=
  if n < 26 then Char.ofNat ('a'.toNat + n) else Char.ofNat ('0'.toNat + (n - 26))

def digitValue? (c : Char) : Option Nat :=
  if 'a' ≤ c ∧ c ≤ 'z' then some (c.toNat - 'a'.toNat)
  else if 'A' ≤ c ∧ c ≤ 'Z' then some (c.toNat - 'A'.toNat)
  else if '0' ≤ c ∧ c ≤ '9' then some (c.toNat - '0'.toNat + 26)
  else none

/-- The threshold at a digit place, of which the first is 36, the second 72 and so on. -/
def threshold (place bias : Nat) : Nat := max 1 (min 26 (place - bias))

theorem threshold_pos (place bias : Nat) : 1 ≤ threshold place bias := Nat.le_max_left _ _

/-- Large counts shift the bias by 36 for each factor of 35. -/
def scale (count shift : Nat) : Nat :=
  if 455 < count then scale (count / 35) (shift + 36) else shift + 36 * count / (count + 38)
termination_by count
decreasing_by omega

/-- The bias after a count, when `size` characters are placed. -/
def adapt (count size : Nat) (first : Bool) : Nat :=
  let damped := if first then count / 700 else count / 2
  scale (damped + damped / size) 0

def writeCount (bias place count : Nat) : List Char :=
  let t := threshold place bias
  if count < t then [digit count]
  else digit (t + (count - t) % (36 - t)) :: writeCount bias (place + 36) ((count - t) / (36 - t))
termination_by count
decreasing_by
  have positive := threshold_pos place bias
  calc (count - threshold place bias) / (36 - threshold place bias)
      ≤ count - threshold place bias := Nat.div_le_self _ _
    _ < count := by omega

/-- Counts and the weights of their digits have 32 bits. -/
def maxCount : Nat := 0xFFFFFFFF

/-- A count at the front of a text, and what follows it. -/
def readCount? (bias : Nat) : List Char → Nat → Nat → Nat → Option (Nat × List Char)
  | [], _, _, _ => none
  | c :: rest, place, weight, count => do
    let d ← digitValue? c
    let t := threshold place bias
    let reached := count + d * weight
    if maxCount < reached then none
    else if d < t then return (reached, rest)
    else if maxCount < weight * (36 - t) then none
    else readCount? bias rest (place + 36) (weight * (36 - t)) reached

theorem length_lt_of_readCount? {bias : Nat} {cs rest : List Char} {place weight count n : Nat}
    (h : readCount? bias cs place weight count = some (n, rest)) : rest.length < cs.length := by
  induction cs generalizing place weight count with
  | nil => simp [readCount?] at h
  | cons c cs ih =>
    rw [readCount?] at h
    cases hd : digitValue? c with
    | none => simp [hd] at h
    | some d =>
      simp only [hd, Option.bind_eq_bind, Option.bind_some] at h
      split at h
      · simp at h
      · split at h
        · simp only [Option.pure_def, Option.some.injEq, Prod.mk.injEq] at h
          simp [h.2]
        · split at h
          · simp at h
          · exact Nat.lt_trans (ih h) (by simp)

/-! ## Writing -/

/-- What a writer knows: the counts written, the places passed since the last one, the bias for
the next and the number of characters placed. -/
structure Writer where
  written : List Char := []
  passed : Nat := 0
  bias : Nat := 72
  placed : Nat

/-- Pass a character of the text while the characters of one number are placed. -/
def Writer.pass (ascii number : Nat) (w : Writer) (c : Char) : Writer :=
  if c.toNat < number then { w with passed := w.passed + 1 }
  else if c.toNat = number then
    { written := w.written ++ writeCount w.bias 36 w.passed
      passed := 0
      bias := adapt w.passed (w.placed + 1) (w.placed == ascii)
      placed := w.placed + 1 }
  else w

/-- Place the characters of each number in turn; `next` is the lowest number left. -/
def Writer.placeAll (cs : List Char) (ascii : Nat) : List Nat → Nat → Writer → Writer
  | [], _, w => w
  | number :: numbers, next, w =>
    let skipped := { w with passed := w.passed + (number - next) * (w.placed + 1) }
    let w := cs.foldl (Writer.pass ascii number) skipped
    placeAll cs ascii numbers (number + 1) { w with passed := w.passed + 1 }

def encode (cs : List Char) : List Char :=
  let ascii := cs.filter fun c => c.toNat < 0x80
  let others := (cs.filter fun c => 0x80 ≤ c.toNat).map Char.toNat
  let numbers := (others.mergeSort (· ≤ ·)).eraseDups
  let counts := (Writer.placeAll cs ascii.length numbers 0x80 { placed := ascii.length }).written
  ascii ++ (if ascii.isEmpty then [] else ['-']) ++ counts

/-! ## Reading -/

/-- Put a character in for each count; `number` and `place` are where the next count starts. -/
def placeCounts? (bias number place : Nat) (placed : List Char) :
    List Char → Option (List Char)
  | [] => some placed
  | c :: rest =>
    match _ : readCount? bias (c :: rest) 36 1 place with
    | none => none
    | some (reached, after) =>
      let size := placed.length + 1
      let found := number + reached / size
      if found.isValidChar then
        placeCounts? (adapt (reached - place) size (place == 0)) found (reached % size + 1)
          (placed.insertIdx (reached % size) (Char.ofNat found)) after
      else none
termination_by cs => cs.length
decreasing_by exact length_lt_of_readCount? ‹_›

/-- The text whose code this is. -/
def decode? (cs : List Char) : Option (List Char) :=
  let counts := (cs.reverse.takeWhile (· ≠ '-')).reverse
  if counts.length = cs.length then placeCounts? 72 0x80 0 [] cs
  else
    let ascii := cs.take (cs.length - counts.length - 1)
    if ascii.isEmpty || ascii.any fun c => 0x80 ≤ c.toNat then none
    else placeCounts? 72 0x80 0 ascii counts

end OwnerCache.Punycode
