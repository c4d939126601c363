/-
# OwnerCache.Proofs.Time.Whole -- instants in whole milliseconds

A store of rows keeps an instant as its milliseconds.  Nothing is lost on the
instants that are a whole number of milliseconds after 1970 (`IsWholeMillis`):
they come back as they were (`ofMillis?_millis`) and keep their order
(`le_iff_millis_le`).  Others are rounded down (`IsFloorOf`).

A leap second is neither.  It shares its milliseconds with the second after it,
so it would come back as that one, even if it is round (`IsRound`), with no part
of a millisecond.  The round instants that are whole are those outside of leap
seconds (`isWholeMillis_iff`).
-/
import OwnerCache.Time.Instant

namespace OwnerCache

set_option autoImplicit false

/-- A whole number of milliseconds. -/
def Duration.IsWholeMillis (d : Duration) : Prop := 1000000 ∣ d.nanos

namespace Instant

/-- A whole number of milliseconds after 1970. -/
def IsWholeMillis (t : Instant) : Prop := ∃ ms, ofMillis? ms = some t

/-- No part of a millisecond is left over, in a leap second or outside. -/
def IsRound (t : Instant) : Prop := 1000000 ∣ t.subsecond

instance (t : Instant) : Decidable t.IsRound := inferInstanceAs (Decidable (1000000 ∣ t.subsecond))

theorem ofSeconds?_eq_some {seconds : Int} {subsecond : Nat} {t : Instant}
    (h : ofSeconds? seconds subsecond = some t) : t.seconds = seconds ∧ t.subsecond = subsecond := by
  unfold ofSeconds? at h
  split at h
  · cases h
    exact ⟨rfl, rfl⟩
  · cases h

theorem elapsed_of_ofNanos? {n : Int} {t : Instant} (h : ofNanos? n = some t) :
    t.elapsed = n ∧ ¬ t.IsLeap := by
  obtain ⟨seconds, subsecond⟩ := ofSeconds?_eq_some h
  have below : n % 1000000000 < 1000000000 := Int.emod_lt_of_pos n (by decide)
  have whole := Int.mul_ediv_add_emod n 1000000000
  unfold elapsed IsLeap
  omega

/-- Outside of leap seconds an instant is found again by its nanoseconds. -/
theorem ofNanos?_elapsed {t : Instant} (calm : ¬ t.IsLeap) : ofNanos? t.elapsed = some t := by
  unfold IsLeap at calm
  have seconds : t.elapsed / 1000000000 = t.seconds := by
    unfold elapsed
    omega
  have subsecond : (t.elapsed % 1000000000).toNat = t.subsecond := by
    unfold elapsed
    omega
  rw [ofNanos?, seconds, subsecond]
  exact dif_pos ⟨t.least_le, t.le_greatest, t.subsecond_lt, t.minute_ends⟩

theorem isRound_iff_elapsed {t : Instant} : t.IsRound ↔ (1000000 : Int) ∣ t.elapsed := by
  unfold IsRound elapsed
  omega

theorem millis_of_ofMillis? {ms : Int} {t : Instant} (h : ofMillis? ms = some t) : t.millis = ms := by
  have := (elapsed_of_ofNanos? h).1
  unfold millis
  omega

namespace IsWholeMillis

variable {s t : Instant}

theorem elapsed_eq (whole : t.IsWholeMillis) : t.elapsed = t.millis * 1000000 := by
  obtain ⟨ms, h⟩ := whole
  rw [millis_of_ofMillis? h]
  exact (elapsed_of_ofNanos? h).1

theorem not_isLeap (whole : t.IsWholeMillis) : ¬ t.IsLeap := by
  obtain ⟨ms, h⟩ := whole
  exact (elapsed_of_ofNanos? h).2

/-- Kept as milliseconds, a whole instant comes back. -/
theorem ofMillis?_millis (whole : t.IsWholeMillis) : ofMillis? t.millis = some t := by
  obtain ⟨ms, h⟩ := whole
  rwa [millis_of_ofMillis? h]

/-- Whole instants are in the order of their milliseconds. -/
theorem le_iff_millis_le (hs : s.IsWholeMillis) (ht : t.IsWholeMillis) :
    s ≤ t ↔ s.millis ≤ t.millis := by
  have es := hs.elapsed_eq
  have et := ht.elapsed_eq
  have cs := hs.not_isLeap
  have ct := ht.not_isLeap
  unfold IsLeap at cs ct
  unfold elapsed at es et
  rw [le_def]
  omega

end IsWholeMillis

/-- Of the round instants the whole ones are those outside of leap seconds. -/
theorem isWholeMillis_iff {t : Instant} : t.IsWholeMillis ↔ t.IsRound ∧ ¬ t.IsLeap := by
  constructor
  · intro whole
    exact ⟨isRound_iff_elapsed.mpr ⟨t.millis, by rw [whole.elapsed_eq, Int.mul_comm]⟩,
      whole.not_isLeap⟩
  · rintro ⟨round, calm⟩
    obtain ⟨ms, same⟩ := isRound_iff_elapsed.mp round
    exact ⟨ms, by rw [ofMillis?, Int.mul_comm, ← same, ofNanos?_elapsed calm]⟩

/-- The instant as which milliseconds give back another one, where they do. -/
def kept (t : Instant) : Instant := (ofMillis? t.millis).getD least

theorem least_isWholeMillis : least.IsWholeMillis := ⟨leastSecond * 1000, by decide⟩

theorem kept_isWholeMillis (t : Instant) : t.kept.IsWholeMillis := by
  unfold kept
  cases back : ofMillis? t.millis with
  | none => exact least_isWholeMillis
  | some s => exact ⟨_, back⟩

theorem kept_of_ofMillis? {s t : Instant} (back : ofMillis? t.millis = some s) :
    t.kept = s ∧ t.kept.millis = t.millis := by
  have same : t.kept = s := by rw [kept, back]; rfl
  exact ⟨same, by rw [same, millis_of_ofMillis? back]⟩

/-- Milliseconds give back an instant but for the leap second after the last second there is. -/
theorem ofMillis?_millis_ne_none {t : Instant} (early : t.IsLeap → t.seconds ≠ greatestSecond) :
    ofMillis? t.millis ≠ none := by
  have low := t.least_le
  have high := t.le_greatest
  have below := t.subsecond_lt
  unfold IsLeap at early
  unfold ofMillis? ofNanos? ofSeconds? millis elapsed
  unfold leastSecond greatestSecond at *
  rw [dif_pos]
  · simp
  · omega

/-- Outside of leap seconds milliseconds give back an instant, up to the extreme ones. -/
theorem ofMillis?_millis_eq_kept {t : Instant} (calm : ¬ t.IsLeap) :
    ofMillis? t.millis = some t.kept := by
  obtain ⟨s, back⟩ :=
    Option.ne_none_iff_exists'.mp (ofMillis?_millis_ne_none fun leap => absurd leap calm)
  rw [back, (kept_of_ofMillis? back).1]

/-- The instant is another one rounded down to the millisecond. -/
structure IsFloorOf (s t : Instant) : Prop where
  whole : s.IsWholeMillis
  le : s.elapsed ≤ t.elapsed
  lt : t.elapsed < s.elapsed + 1000000

theorem kept_isFloorOf {t : Instant} (calm : ¬ t.IsLeap) : t.kept.IsFloorOf t := by
  have whole : t.kept.elapsed = t.millis * 1000000 :=
    (elapsed_of_ofNanos? (ofMillis?_millis_eq_kept calm)).1
  refine ⟨t.kept_isWholeMillis, ?_, ?_⟩
  all_goals
    rw [whole]
    unfold millis
    omega

theorem IsWholeMillis.kept_eq {t : Instant} (whole : t.IsWholeMillis) : t.kept = t :=
  (kept_of_ofMillis? whole.ofMillis?_millis).1

end Instant

end OwnerCache
