/-
# OwnerCache.Proofs.Time.Cutoff -- the cutoff is a difference that saturates

`Instant.cutoff` takes a duration from an instant in several ways: a duration may be too long to
be measured, it may not lead out of a leap second, and the difference may be no instant.  Counted
in nanoseconds they come to one thing, the difference or else the least instant (`cutoff_isBack`),
since there is no instant only if the difference is before all of them (`lt_least_of_back?`).

Nanoseconds do not tell a leap second from the second after it.  What else there is to know of a
cutoff is that it is not in a later second than the instant, and in a leap second only with it.  So
a duration in whole milliseconds leads from a round instant to a round one, which is a whole number
of milliseconds after 1970 unless it is in a leap second (`cutoff_isWholeMillis`).
-/
import OwnerCache.Proofs.Time.Whole

namespace OwnerCache.Instant

set_option autoImplicit false

theorem least_le_all (t : Instant) : least ≤ t := by
  have low := t.least_le
  rw [le_def]
  unfold least
  simp only
  omega

theorem least_elapsed : least.elapsed = leastSecond * 1000000000 := Int.add_zero _

theorem least_elapsed_le (t : Instant) : least.elapsed ≤ t.elapsed := by
  have low := t.least_le
  rw [least_elapsed, elapsed]
  omega

theorem least_millis_le (t : Instant) : least.millis ≤ t.millis :=
  Int.ediv_le_ediv (by decide) t.least_elapsed_le

/-- Nanoseconds up to the last second that there is are an instant's, or before all instants. -/
theorem lt_least_of_ofNanos? {n : Int} (early : n < (greatestSecond + 1) * 1000000000)
    (missing : ofNanos? n = none) : n < least.elapsed := by
  refine Int.not_le.mp fun late => ?_
  rw [least_elapsed] at late
  unfold leastSecond greatestSecond at *
  have found : leastSecond ≤ n / 1000000000 ∧ n / 1000000000 ≤ greatestSecond ∧
      (n % 1000000000).toNat < 2000000000 ∧
      (1000000000 ≤ (n % 1000000000).toNat → n / 1000000000 % 60 = 59) := by
    unfold leastSecond greatestSecond
    omega
  rw [ofNanos?, ofSeconds?, dif_pos found] at missing
  cases missing

/-! ## Going back -/

/-- An instant with so many nanoseconds that another one goes back to: it is not in a later second
than that one, and in a leap second only with it. -/
structure IsBack (n : Int) (now c : Instant) : Prop where
  elapsed_eq : c.elapsed = n
  seconds_le : c.seconds ≤ now.seconds
  leap : c.IsLeap → now.IsLeap ∧ c.seconds = now.seconds

variable {ttl : Duration} {now c : Instant}

/-- A difference that leaves the leap second of an instant is before the next second. -/
theorem elapsed_sub_lt (leaves : ¬ 1000000000 + ttl.nanos ≤ now.subsecond) :
    now.elapsed - ttl.nanos < (now.seconds + 1) * 1000000000 := by
  unfold elapsed
  omega

theorem isBack_of_back? (back : now.back? ttl = some c) :
    IsBack (now.elapsed - ttl.nanos) now c := by
  unfold back? at back
  split at back
  · split at back
    · rename_i stays
      obtain ⟨seconds, subsecond⟩ := ofSeconds?_eq_some back
      refine ⟨?_, Int.le_of_eq seconds, fun _ => ⟨?_, seconds⟩⟩
      · unfold elapsed
        omega
      · unfold IsLeap
        omega
    · rename_i leaves
      obtain ⟨same, calm⟩ := elapsed_of_ofNanos? back
      have before := elapsed_sub_lt leaves
      refine ⟨same, ?_, fun leap => absurd leap calm⟩
      rw [← same, elapsed] at before
      omega
  · cases back

/-- There is no instant a duration earlier only if it would be before all of them. -/
theorem lt_least_of_back? (missing : now.back? ttl = none) :
    now.elapsed - ttl.nanos < least.elapsed := by
  have high := now.le_greatest
  have below := now.subsecond_lt
  unfold back? at missing
  split at missing
  · split at missing
    · rename_i stays
      have found : leastSecond ≤ now.seconds ∧ now.seconds ≤ greatestSecond ∧
          now.subsecond - ttl.nanos < 2000000000 ∧
          (1000000000 ≤ now.subsecond - ttl.nanos → now.seconds % 60 = 59) :=
        ⟨now.least_le, high, by omega, fun _ => now.minute_ends (by omega)⟩
      rw [ofSeconds?, dif_pos found] at missing
      cases missing
    · rename_i leaves
      have before := elapsed_sub_lt leaves
      exact lt_least_of_ofNanos? (by omega) missing
  · rename_i long
    unfold Duration.IsMeasurable at long
    rw [least_elapsed, elapsed]
    unfold leastSecond greatestSecond at *
    omega

/-! ## Cutoffs -/

/-- A cutoff is the difference or else the least instant. -/
theorem cutoff_isBack (ttl : Duration) (now : Instant) :
    IsBack (max least.elapsed (now.elapsed - ttl.nanos)) now (cutoff ttl now) := by
  unfold cutoff
  cases back : now.back? ttl with
  | none =>
      have before := lt_least_of_back? back
      exact ⟨by rw [Option.getD_none, Int.max_eq_left (by omega)], now.least_le,
        fun leap => absurd leap (by decide)⟩
  | some c =>
      have within := c.least_elapsed_le
      obtain ⟨same, seconds, leap⟩ := isBack_of_back? back
      rw [same] at within
      exact ⟨by rw [Option.getD_some, same, Int.max_eq_right within], seconds, leap⟩

/-- Outside of leap seconds the cutoff is the instant that has the nanoseconds. -/
theorem ofNanos?_cutoff (ttl : Duration) (calm : ¬ now.IsLeap) :
    ofNanos? (max least.elapsed (now.elapsed - ttl.nanos)) = some (cutoff ttl now) := by
  have spec := cutoff_isBack ttl now
  rw [← spec.elapsed_eq]
  exact ofNanos?_elapsed fun leap => calm (spec.leap leap).1

theorem cutoff_eq_least (reaches : now.elapsed - ttl.nanos ≤ least.elapsed) :
    cutoff ttl now = least := by
  have same := (cutoff_isBack ttl now).elapsed_eq
  have low := (cutoff ttl now).least_le
  rw [Int.max_eq_left reaches] at same
  rw [least_elapsed, elapsed] at same
  have seconds : (cutoff ttl now).seconds = leastSecond := by omega
  have subsecond : (cutoff ttl now).subsecond = 0 := by omega
  exact Instant.ext seconds subsecond

/-- The cutoff of a whole time to live at a round instant is a round instant. -/
theorem cutoff_isRound (short : ttl.IsWholeMillis) (round : now.IsRound) :
    (cutoff ttl now).IsRound := by
  have same := (cutoff_isBack ttl now).elapsed_eq
  rw [least_elapsed] at same
  rw [isRound_iff_elapsed] at round ⊢
  unfold Duration.IsWholeMillis at short
  unfold leastSecond at same
  omega

theorem cutoff_isWholeMillis (short : ttl.IsWholeMillis) (round : now.IsRound)
    (calm : ¬ (cutoff ttl now).IsLeap) : (cutoff ttl now).IsWholeMillis :=
  isWholeMillis_iff.mpr ⟨cutoff_isRound short round, calm⟩

/-- Instants outside of leap seconds have no more nanoseconds than later ones. -/
theorem elapsed_le_of_le {s t : Instant} (calm : ¬ s.IsLeap) (le : s ≤ t) :
    s.elapsed ≤ t.elapsed := by
  unfold IsLeap at calm
  unfold elapsed
  rw [le_def] at le
  omega

/-- A cutoff is no later for a longer time to live at an earlier instant, if this has no more
nanoseconds.  If the later cutoff is in a leap second, that is decided by its second, which is the
one of its instant. -/
theorem cutoff_le_cutoff {ttl' : Duration} {now' : Instant} (longer : ttl.nanos ≤ ttl'.nanos)
    (earlier : now' ≤ now) (fewer : now'.elapsed ≤ now.elapsed) :
    cutoff ttl' now' ≤ cutoff ttl now := by
  obtain ⟨same, -, leap⟩ := cutoff_isBack ttl now
  obtain ⟨same', seconds', -⟩ := cutoff_isBack ttl' now'
  have fewest : (cutoff ttl' now').elapsed ≤ (cutoff ttl now).elapsed := by
    rw [same, same']
    omega
  have seconds : (cutoff ttl' now').seconds ≤ (cutoff ttl now).seconds := by
    by_cases h : (cutoff ttl now).IsLeap
    · rw [(leap h).2]
      rw [le_def] at earlier
      omega
    · unfold IsLeap at h
      unfold elapsed at fewest
      omega
  unfold elapsed at fewest
  rw [le_def]
  omega

end OwnerCache.Instant
