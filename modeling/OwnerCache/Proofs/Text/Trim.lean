/-
# OwnerCache.Proofs.Text.Trim -- texts without blanks at their ends

A text is trimmed if it neither starts nor ends with a blank.  `trim` makes every
text so (`trim_isTrimmed`), takes away blanks only, all of them at the ends
(`exists_trim_append`), and leaves a trimmed text as it is
(`IsTrimmed.trim_eq`); so trimming twice is trimming once (`trim_trim`), and blanks
around a text do not matter (`trim_append_of_blank`).
-/
import Mathlib.Data.List.TakeWhile
import OwnerCache.Text.Blank

namespace OwnerCache.Blank

set_option autoImplicit false

/-- No blank stands at either end. -/
structure IsTrimmed (cs : List Char) : Prop where
  head : ∀ c ∈ cs.head?, isBlank c = false
  last : ∀ c ∈ cs.getLast?, isBlank c = false

theorem trimStart_cons_of_blank {c : Char} (blank : isBlank c = true) (cs : List Char) :
    trimStart (c :: cs) = trimStart cs := List.dropWhile_cons_of_pos blank

/-- What does not start with a blank keeps its start. -/
theorem trimStart_eq {cs : List Char} (head : ∀ c ∈ cs.head?, isBlank c = false) :
    trimStart cs = cs := by
  cases cs with
  | nil => rfl
  | cons c cs =>
      have solid : isBlank c = false := head c rfl
      exact List.dropWhile_cons_of_neg (by simp [solid])

theorem head_trimStart (cs : List Char) : ∀ c ∈ (trimStart cs).head?, isBlank c = false := by
  intro c mem
  have solid := List.head?_dropWhile_not isBlank cs
  rw [show (cs.dropWhile isBlank).head? = some c from mem] at solid
  exact solid

/-- The end of a text is the start of its reverse. -/
theorem trimEnd_eq_reverse (cs : List Char) : trimEnd cs = (trimStart cs.reverse).reverse := rfl

theorem trimEnd_eq {cs : List Char} (last : ∀ c ∈ cs.getLast?, isBlank c = false) :
    trimEnd cs = cs := by
  rw [trimEnd_eq_reverse, trimStart_eq (by simpa using last), List.reverse_reverse]

/-- Blanks at the end do not matter. -/
theorem trimEnd_append_of_blank (cs : List Char) {after : List Char}
    (blank : ∀ c ∈ after, isBlank c = true) : trimEnd (cs ++ after) = trimEnd cs := by
  have behind : trimStart (after.reverse ++ cs.reverse) = trimStart cs.reverse :=
    List.dropWhile_append_of_pos fun c mem => blank c (List.mem_reverse.mp mem)
  rw [trimEnd_eq_reverse, List.reverse_append, behind, trimEnd_eq_reverse]

theorem last_trimEnd (cs : List Char) : ∀ c ∈ (trimEnd cs).getLast?, isBlank c = false := by
  rw [trimEnd_eq_reverse, List.getLast?_reverse]
  exact head_trimStart cs.reverse

theorem trimEnd_eq_iff {cs : List Char} :
    trimEnd cs = cs ↔ ∀ c ∈ cs.getLast?, isBlank c = false :=
  ⟨fun same => same ▸ last_trimEnd cs, trimEnd_eq⟩

theorem exists_trimStart_append (cs : List Char) :
    ∃ before, cs = before ++ trimStart cs ∧ ∀ c ∈ before, isBlank c = true := by
  refine ⟨cs.takeWhile isBlank, (List.takeWhile_append_dropWhile).symm, fun c mem => ?_⟩
  exact List.mem_takeWhile_imp mem

theorem exists_trimEnd_append (cs : List Char) :
    ∃ after, cs = trimEnd cs ++ after ∧ ∀ c ∈ after, isBlank c = true := by
  obtain ⟨before, whole, blank⟩ := exists_trimStart_append cs.reverse
  refine ⟨before.reverse, ?_, fun c mem => blank c (List.mem_reverse.mp mem)⟩
  rw [trimEnd_eq_reverse, ← List.reverse_append, ← whole, List.reverse_reverse]

/-- Trimming takes away blanks only, and those at the ends. -/
theorem exists_trim_append (cs : List Char) :
    ∃ before after, cs = before ++ trim cs ++ after ∧
      (∀ c ∈ before, isBlank c = true) ∧ ∀ c ∈ after, isBlank c = true := by
  obtain ⟨before, whole, blank⟩ := exists_trimStart_append cs
  obtain ⟨after, rest, blank'⟩ := exists_trimEnd_append (trimStart cs)
  refine ⟨before, after, ?_, blank, blank'⟩
  rw [trim, List.append_assoc, ← rest]
  exact whole

theorem mem_of_mem_trim {cs : List Char} {c : Char} (mem : c ∈ trim cs) : c ∈ cs := by
  obtain ⟨before, after, whole, -, -⟩ := exists_trim_append cs
  rw [whole]
  exact List.mem_append_left _ (List.mem_append_right _ mem)

/-- What is left of a text when its end is trimmed starts as the text does. -/
theorem head_trimEnd {cs : List Char} (head : ∀ c ∈ cs.head?, isBlank c = false) :
    ∀ c ∈ (trimEnd cs).head?, isBlank c = false := by
  obtain ⟨after, whole, -⟩ := exists_trimEnd_append cs
  intro c mem
  refine head c ?_
  cases left : trimEnd cs with
  | nil => simp [left] at mem
  | cons d ds =>
      obtain rfl : d = c := by simpa [left] using mem
      rw [whole, left]
      rfl

theorem trim_isTrimmed (cs : List Char) : IsTrimmed (trim cs) where
  head := head_trimEnd (head_trimStart cs)
  last := last_trimEnd (trimStart cs)

theorem IsTrimmed.trim_eq {cs : List Char} (trimmed : IsTrimmed cs) : trim cs = cs := by
  rw [trim, trimStart_eq trimmed.head, trimEnd_eq trimmed.last]

theorem trim_trim (cs : List Char) : trim (trim cs) = trim cs := (trim_isTrimmed cs).trim_eq

/-- A text without any blank is trimmed. -/
theorem IsTrimmed.of_forall {cs : List Char} (solid : ∀ c ∈ cs, isBlank c = false) : IsTrimmed cs where
  head c mem := solid c (List.mem_of_mem_head? mem)
  last c mem := solid c (List.mem_of_getLast? mem)

theorem trim_cons_of_blank {c : Char} (blank : isBlank c = true) (cs : List Char) :
    trim (c :: cs) = trim cs := by
  rw [trim, trimStart_cons_of_blank blank, trim]

/-- Of a text of blanks nothing is left, and of any other something. -/
theorem trim_eq_nil_iff {cs : List Char} : trim cs = [] ↔ ∀ c ∈ cs, isBlank c = true := by
  constructor
  · intro nothing
    obtain ⟨before, after, whole, blank, blank'⟩ := exists_trim_append cs
    rw [nothing, List.append_nil] at whole
    rw [whole]
    exact List.forall_mem_append.mpr ⟨blank, blank'⟩
  · intro blank
    have start : trimStart cs = [] := List.dropWhile_eq_nil_iff.mpr blank
    rw [trim, start]
    rfl

/-- Blanks around a text do not matter. -/
theorem trim_append_of_blank {before after : List Char} (blank : ∀ c ∈ before, isBlank c = true)
    (blank' : ∀ c ∈ after, isBlank c = true) (cs : List Char) :
    trim (before ++ cs ++ after) = trim cs := by
  by_cases nothing : ∀ c ∈ cs, isBlank c = true
  · rw [trim_eq_nil_iff.mpr nothing, trim_eq_nil_iff]
    exact List.forall_mem_append.mpr ⟨List.forall_mem_append.mpr ⟨blank, nothing⟩, blank'⟩
  · have behind : trimStart (before ++ cs ++ after) = trimStart (cs ++ after) := by
      rw [List.append_assoc]
      exact List.dropWhile_append_of_pos blank
    -- Something of the text is left, so its start is all that goes there.
    have kept : trimStart (cs ++ after) = trimStart cs ++ after := by
      have left : trimStart cs ≠ [] := fun none => nothing (List.dropWhile_eq_nil_iff.mp none)
      exact List.dropWhile_append.trans (if_neg fun none => left (List.isEmpty_iff.mp none))
    rw [trim, behind, kept, trimEnd_append_of_blank _ blank', trim]

end OwnerCache.Blank
