/-
# OwnerCache.Proofs.Store.Lifetime -- how long ranges are fresh

A time to live ends at a cutoff that is an exact difference or else the least instant
(`Instant.cutoff_isBack`).  So a range that is fresh is fresh for a longer time to live as well, and
at an earlier instant (`isFresh_mono`).  A leap second is the exception once more.  It comes before
the second after it but shares its nanoseconds, so a time to live may reach back less far from it
than from there; only then a range may be fresh later and too old before (`isFresh_mono_iff`).

A time to live that reaches the least instant keeps every range.  Rows from outside may have
milliseconds before all instants; they are the only ones that go (`deleteExpired_of_reaches`).
-/
import OwnerCache.Proofs.Store.Expiry
import OwnerCache.Proofs.Time.Cutoff

namespace OwnerCache

set_option autoImplicit false

/-! ## Freshness -/

namespace AddressRange

variable {now now' : Instant}

/-- A range that is fresh is so for longer and before, by the nanoseconds of the instants. -/
theorem isFresh_mono {ttl ttl' : Duration} (longer : ttl.nanos ≤ ttl'.nanos) (earlier : now' ≤ now)
    (fewer : now'.elapsed ≤ now.elapsed) {r : AddressRange} (fresh : r.IsFresh ttl now) :
    r.IsFresh ttl' now' :=
  Instant.le_trans (Instant.cutoff_le_cutoff longer earlier fewer) fresh

/-- From a leap second a time to live of a second reaches back less far than from a later instant
that has fewer nanoseconds. -/
theorem not_cutoff_le (earlier : now' ≤ now) (more : now.elapsed < now'.elapsed) :
    ¬ Instant.cutoff (.ofSeconds 1) now' ≤ Instant.cutoff (.ofSeconds 1) now := by
  intro le
  have leap : now'.IsLeap := Decidable.not_not.mp fun calm =>
    Int.not_le.mpr more (Instant.elapsed_le_of_le calm earlier)
  have second : (Duration.ofSeconds 1).nanos = 1000000000 := rfl
  have minute := now'.minute_ends leap
  have low := now'.least_le
  have below := now'.subsecond_lt
  obtain ⟨same, -, -⟩ := Instant.cutoff_isBack (.ofSeconds 1) now
  obtain ⟨same', -, stays⟩ := Instant.cutoff_isBack (.ofSeconds 1) now'
  rw [Instant.least_elapsed, second] at same same'
  -- A second leads out of any leap second.
  have calm : ¬ (Instant.cutoff (.ofSeconds 1) now').IsLeap := by
    intro leap'
    have here := (stays leap').2
    unfold Instant.IsLeap at leap leap'
    unfold Instant.elapsed Instant.leastSecond at *
    omega
  have fewer := Instant.elapsed_le_of_le calm le
  unfold Instant.IsLeap at leap
  unfold Instant.elapsed Instant.leastSecond at *
  omega

/-- What is fresh at an instant is fresh at an earlier one, for any times to live of which the one
there is no shorter, just if the earlier one has no more nanoseconds; that is so outside of leap
seconds. -/
theorem isFresh_mono_iff (earlier : now' ≤ now) :
    (∀ ttl ttl' : Duration, ttl.nanos ≤ ttl'.nanos →
      ∀ r : AddressRange, r.IsFresh ttl now → r.IsFresh ttl' now') ↔
    (now'.IsLeap → now'.elapsed ≤ now.elapsed) := by
  constructor
  · intro mono _
    refine Int.not_lt.mp fun more => ?_
    have fresh := mono (.ofSeconds 1) (.ofSeconds 1) (Nat.le_refl _)
      ⟨1, .single ⟨0, by decide⟩, none, Instant.cutoff (.ofSeconds 1) now⟩
      (Or.inr ⟨rfl, Nat.le_refl _⟩)
    exact not_cutoff_le earlier more fresh
  · intro fewer ttl ttl' longer r
    by_cases leap : now'.IsLeap
    · exact isFresh_mono longer earlier (fewer leap)
    · exact isFresh_mono longer earlier (Instant.elapsed_le_of_le leap earlier)

end AddressRange

/-! ## Sweeps that reach the least instant -/

section Reaching

variable {ttl : Duration} {now : Instant}

theorem Volatile.since_least (v : Volatile) : since .least v = v := by
  have all : v.ranges.filter (Instant.least ≤ ·.createdAt) = v.ranges :=
    List.filter_eq_self.mpr fun r _ => decide_eq_true r.createdAt.least_le_all
  simp only [since, keep, all]

theorem Volatile.deleteExpired_of_reaches
    (reaches : now.elapsed - ttl.nanos ≤ Instant.least.elapsed) (v : Volatile) :
    RangeStore.deleteExpired ttl now v = (.ok 0, v) := by
  rw [Volatile.sweptBy.deleteExpired_eq, Instant.cutoff_eq_least reaches, since_least,
    Nat.sub_self]

/-- Only rows from outside go. -/
theorem Durable.deleteExpired_of_reaches
    (reaches : now.elapsed - ttl.nanos ≤ Instant.least.elapsed) (s : Durable) :
    RangeStore.deleteExpired ttl now s =
      (.ok (s.rows.countP (·.createdAt < Instant.least.millis)),
        { s with rows := s.rows.filter (Instant.least.millis ≤ ·.createdAt) }) := by
  have count := length_sub_filter (fun row : Row => Instant.least.millis ≤ row.createdAt) s.rows
  simp only [← decide_not, Int.not_le] at count
  rw [Durable.sweptBy.deleteExpired_eq, Instant.cutoff_eq_least reaches, ← count]
  rfl

end Reaching

namespace Sweep

/-- **Cutoffs saturate.**  In nanoseconds, the cutoff is the greater one of the difference and the
least instant, and outside of leap seconds it is the instant that has these nanoseconds.  So a range
that is fresh is fresh for longer times to live and at earlier instants, up to the nanoseconds of
leap seconds.  A time to live that reaches the least instant lets a sweep in memory delete nothing,
and a sweep of rows those only whose time is before all instants. -/
theorem cutoff_saturates :
    (∀ t, Instant.least ≤ t) ∧
    (∀ (ttl : Duration) (now : Instant),
      let nanos := max Instant.least.elapsed (now.elapsed - ttl.nanos)
      (Instant.cutoff ttl now).elapsed = nanos ∧
        (¬ now.IsLeap → Instant.ofNanos? nanos = some (Instant.cutoff ttl now))) ∧
    (∀ now now' : Instant, now' ≤ now →
      ((∀ ttl ttl' : Duration, ttl.nanos ≤ ttl'.nanos →
          ∀ r : AddressRange, r.IsFresh ttl now → r.IsFresh ttl' now') ↔
        (now'.IsLeap → now'.elapsed ≤ now.elapsed))) ∧
    ∀ (ttl : Duration) (now : Instant), now.elapsed - ttl.nanos ≤ Instant.least.elapsed →
      (∀ v : Volatile, RangeStore.deleteExpired ttl now v = (.ok 0, v)) ∧
      (∀ s : Durable, RangeStore.deleteExpired ttl now s =
        (.ok (s.rows.countP (·.createdAt < Instant.least.millis)),
          { s with rows := s.rows.filter (Instant.least.millis ≤ ·.createdAt) })) ∧
      ∀ t : Instant, Instant.least.millis ≤ t.millis := by
  refine ⟨Instant.least_le_all, fun ttl now => ⟨?_, ?_⟩, fun _ _ => AddressRange.isFresh_mono_iff,
    fun ttl now reaches => ⟨?_, ?_, Instant.least_millis_le⟩⟩
  · exact (Instant.cutoff_isBack ttl now).elapsed_eq
  · exact Instant.ofNanos?_cutoff ttl
  · exact Volatile.deleteExpired_of_reaches reaches
  · exact Durable.deleteExpired_of_reaches reaches

/-- A difference before 1970 that takes a second more for its fraction, a range that is fresh for
longer and before, and a time to live beyond the least instant. -/
theorem cutoff_saturates_before_1970 :
    let now : Instant := ⟨-1, 200000000, by decide, by decide, by decide, by decide⟩
    let earlier : Instant := ⟨-1, 100000000, by decide, by decide, by decide, by decide⟩
    let cutoff : Instant := ⟨-2, 700000000, by decide, by decide, by decide, by decide⟩
    let short : Duration := .ofMillis 500
    let long : Duration := .ofSeconds 0xFFFFFFFFFFFFFFFF
    let range : AddressRange := ⟨1, .single ⟨7, by decide⟩, none, cutoff⟩
    let v : Volatile := ⟨[range], [], 1, 0⟩
    Instant.ofNanos? (-1300000000) = some (Instant.cutoff short now) ∧
      Instant.cutoff short now = cutoff ∧ range.IsFresh short now ∧ range.IsFresh short earlier ∧
      range.IsFresh long now ∧ RangeStore.deleteExpired long now v = (.ok 0, v) := by
  intro now earlier cutoff short long range v
  obtain ⟨-, exact, mono, reaching⟩ := cutoff_saturates
  have fresh : range.IsFresh short now := by decide
  refine ⟨(exact short now).2 (by decide), by decide, fresh, ?_, ?_, ?_⟩
  · exact (mono now earlier (by decide)).mpr (by decide) short short (by decide) range fresh
  · exact (mono now now (by decide)).mpr (by decide) short long (by decide) range fresh
  · exact (reaching long now (by decide)).1 v

/-- A range that is fresh in the second after a leap second and is too old in the leap second, and a
row from before all instants that a sweep deletes for any time to live. -/
theorem isFresh_leap_and_row_before_least :
    let leap : Instant := ⟨1483228799, 1500000000, by decide, by decide, by decide, by decide⟩
    let next : Instant := ⟨1483228800, 0, by decide, by decide, by decide, by decide⟩
    let created : Instant := ⟨1483228799, 950000000, by decide, by decide, by decide, by decide⟩
    let range : AddressRange := ⟨1, .single ⟨7, by decide⟩, none, created⟩
    let long : Duration := .ofSeconds 0xFFFFFFFFFFFFFFFF
    let rows : Durable := (Durable.insertRow (some 1) 5 9 none (-0x8000000000000000) {}).2
    (leap ≤ next ∧ range.IsFresh (.ofMillis 100) next ∧ ¬ range.IsFresh (.ofMillis 100) leap) ∧
      next.elapsed - long.nanos ≤ Instant.least.elapsed ∧ rows.rows.length = 1 ∧
      (RangeStore.deleteExpired long next rows).2.rows = [] := by
  decide

end Sweep

end OwnerCache
