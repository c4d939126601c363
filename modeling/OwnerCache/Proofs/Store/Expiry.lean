/-
# OwnerCache.Proofs.Store.Expiry -- which ranges sweeps delete

A sweep keeps what is not below its cutoff.  In memory that is said in the order of instants,
so a range goes exactly if it is not fresh.  Rows have milliseconds only.  Told by the times that
their ranges were created at (`Durable.of`), a sweep of rows deletes no fresh range, and a range
that is not fresh stays only within the millisecond of the cutoff.

Leap seconds are the exception.  A leap second shares its milliseconds with the second after it,
so the milliseconds of two instants are in their order only if the first one is in no leap second
(`Instant.millis_le_of_le`).  Where the cutoff is in one, a sweep of rows may delete ranges that
are fresh, and where a range was created in one, it may outlive its time by up to a second
(`deleteExpired_leap`).

Sweeps one after the other come to the one with the latest cutoff (`IsLatest`), on the scale of the
store: instants in memory, milliseconds in rows.  For this a store only has to be `SweptBy`
cutoffs: each sweep leaves `left c s`, and counts what is missing then.  Of two sweeps the later
cutoff absorbs the other, whichever comes first, and the counts add up.
-/
import OwnerCache.Proofs.Store.Meaning
import OwnerCache.Sweep

namespace OwnerCache

set_option autoImplicit false

/-! ## The order of instants -/

namespace Instant

theorem le_total (s t : Instant) : s ≤ t ∨ t ≤ s := by
  simp only [le_def]
  omega

theorem le_trans {r s t : Instant} (h : r ≤ s) (h' : s ≤ t) : r ≤ t := by
  simp only [le_def] at *
  omega

instance : Std.IsLinearPreorder Instant where
  le_refl t := (le_total t t).elim id id
  le_trans _ _ _ := le_trans
  le_total := le_total

/-- The milliseconds of an instant outside of leap seconds are not beyond those of later ones. -/
theorem millis_le_of_le {s t : Instant} (calm : ¬ s.IsLeap) (le : s ≤ t) : s.millis ≤ t.millis := by
  unfold IsLeap at calm
  unfold millis elapsed
  rw [le_def] at le
  omega

end Instant

/-! ## Sweeps in a row -/

namespace Sweep

variable {σ : Type} [RangeStore σ]

/-- Sweeps one after the other, up to one that fails: how many ranges went in all, and the store
after them. -/
def runAll : List (Duration × Instant) → σ → Except StoreError Nat × σ
  | [], s => (.ok 0, s)
  | (ttl, now) :: later, s =>
    match run ttl now s with
    | (.ok n, _, s) =>
      let (rest, s) := runAll later s
      (rest.map (n + ·), s)
    | (.error e, _, s) => (.error e, s)

/-- One of the sweeps whose cutoff none of the others passes, on a scale. -/
structure IsLatest {β : Type} [LE β] (scale : Instant → β) (sweeps : List (Duration × Instant))
    (ttl : Duration) (now : Instant) : Prop where
  mem : (ttl, now) ∈ sweeps
  latest : ∀ other ∈ sweeps,
    scale (Instant.cutoff other.1 other.2) ≤ scale (Instant.cutoff ttl now)

theorem exists_isLatest {β : Type} [LE β] [DecidableLE β] [Std.IsLinearPreorder β]
    (scale : Instant → β) {sweeps : List (Duration × Instant)} (nonempty : sweeps ≠ []) :
    ∃ ttl now, IsLatest scale sweeps ttl now := by
  let key (p : Duration × Instant) : β := scale (Instant.cutoff p.1 p.2)
  have most : ∀ p ∈ sweeps, key p ≤ key (sweeps.maxOn key nonempty) :=
    fun _ mem => List.le_apply_maxOn_of_mem mem
  exact ⟨_, _, List.maxOn_mem, most⟩

/-- Outside of leap seconds the latest cutoff has the most milliseconds. -/
theorem IsLatest.millis {sweeps : List (Duration × Instant)} {ttl : Duration} {now : Instant}
    (latest : IsLatest id sweeps ttl now)
    (calm : ∀ p ∈ sweeps, ¬ (Instant.cutoff p.1 p.2).IsLeap) :
    IsLatest Instant.millis sweeps ttl now :=
  ⟨latest.mem, fun p mem => Instant.millis_le_of_le (calm p mem) (latest.latest p mem)⟩

/-- What a sweep does is up to its cutoff, and its number is what is missing then. -/
structure SweptBy (left : Instant → σ → σ) : Prop where
  deleteExpired_eq : ∀ ttl now s, RangeStore.deleteExpired ttl now s =
    (.ok (RangeStore.rangeCount s - RangeStore.rangeCount (left (Instant.cutoff ttl now) s)),
      left (Instant.cutoff ttl now) s)
  count_le : ∀ c s, RangeStore.rangeCount (left c s) ≤ RangeStore.rangeCount s

/-- Before or after a sweep with the cutoff `c`, one with the cutoff `d` makes no difference. -/
def Absorbs (left : Instant → σ → σ) (c d : Instant) : Prop :=
  ∀ s, left c (left d s) = left c s ∧ left d (left c s) = left c s

namespace SweptBy

variable {left : Instant → σ → σ}

theorem runAll_cons (swept : SweptBy left) (ttl : Duration) (now : Instant)
    (later : List (Duration × Instant)) (s : σ) :
    let s' := left (Instant.cutoff ttl now) s
    runAll ((ttl, now) :: later) s =
      ((runAll later s').1.map (RangeStore.rangeCount s - RangeStore.rangeCount s' + ·),
        (runAll later s').2) := by
  simp only [runAll, run, swept.deleteExpired_eq]

/-- After a sweep that absorbs them, sweeps find nothing more. -/
theorem runAll_after (swept : SweptBy left) {c : Instant} {sweeps : List (Duration × Instant)}
    (absorbs : ∀ p ∈ sweeps, Absorbs left c (Instant.cutoff p.1 p.2)) (s : σ) :
    runAll sweeps (left c s) = (.ok 0, left c s) := by
  induction sweeps with
  | nil => rfl
  | cons first later ih =>
      obtain ⟨absorbed, rest⟩ := List.forall_mem_cons.mp absorbs
      rw [swept.runAll_cons, (absorbed s).2, ih rest]
      simp only [Except.map, Nat.sub_self]

/-- Sweeps of which one absorbs all come to that one, and their numbers add up to its number. -/
theorem runAll_eq (swept : SweptBy left) {ttl : Duration} {now : Instant}
    {sweeps : List (Duration × Instant)} (mem : (ttl, now) ∈ sweeps)
    (absorbs : ∀ p ∈ sweeps, Absorbs left (Instant.cutoff ttl now) (Instant.cutoff p.1 p.2))
    (s : σ) : runAll sweeps s = RangeStore.deleteExpired ttl now s := by
  induction sweeps generalizing s with
  | nil => cases mem
  | cons first later ih =>
      obtain ⟨absorbed, rest⟩ := List.forall_mem_cons.mp absorbs
      rcases List.mem_cons.mp mem with rfl | mem
      · rw [swept.runAll_cons, swept.runAll_after rest, swept.deleteExpired_eq]
        simp only [Except.map, Nat.add_zero]
      · have fewer := swept.count_le (Instant.cutoff first.1 first.2) s
        have fewest := swept.count_le (Instant.cutoff ttl now)
          (left (Instant.cutoff first.1 first.2) s)
        rw [(absorbed s).1] at fewest
        rw [swept.runAll_cons, ih mem rest, swept.deleteExpired_eq, swept.deleteExpired_eq,
          (absorbed s).1]
        simp only [Except.map, Prod.mk.injEq, Except.ok.injEq, and_true]
        omega

end SweptBy

end Sweep

/-- Of two tests of which one implies the other, the stricter one decides, in either order. -/
theorem filter_absorbs {α : Type} {strict lax : α → Bool} (imp : ∀ x, strict x → lax x)
    (xs : List α) :
    (xs.filter lax).filter strict = xs.filter strict ∧
      (xs.filter strict).filter lax = xs.filter strict := by
  have both : ∀ x, (strict x && lax x) = strict x := by
    intro x
    cases h : strict x with
    | false => rfl
    | true => exact imp x h
  rw [List.filter_filter, List.filter_filter]
  constructor
  · exact List.filter_congr fun x _ => both x
  · exact List.filter_congr fun x _ => by rw [Bool.and_comm, both]

/-- What does not pass a test is what is missing then. -/
theorem length_sub_filter {α : Type} (test : α → Bool) (xs : List α) :
    xs.length - (xs.filter test).length = xs.countP fun x => !test x := by
  have parts := List.length_eq_countP_add_countP test (l := xs)
  simp only [Bool.not_eq_true, Bool.decide_eq_false] at parts
  rw [← List.countP_eq_length_filter]
  omega

/-! ## In memory -/

namespace Volatile

open Sweep

/-- The ranges that were created at a time or later. -/
def since (c : Instant) (v : Volatile) : Volatile := v.keep (c ≤ ·.createdAt)

theorem sweptBy : SweptBy since where
  deleteExpired_eq _ _ _ := rfl
  count_le _ _ := List.length_filter_le _ _

theorem since_absorbs {c d : Instant} (le : d ≤ c) : Absorbs since c d := by
  intro v
  have later : ∀ r : AddressRange, decide (c ≤ r.createdAt) → decide (d ≤ r.createdAt) := by
    intro r fresh
    rw [decide_eq_true_eq] at fresh ⊢
    exact Instant.le_trans le fresh
  obtain ⟨after, before⟩ := filter_absorbs later v.ranges
  constructor
  · simp only [since, keep, after]
  · simp only [since, keep, before]

/-- A sweep deletes the ranges that are not fresh, and counts them. -/
theorem deleteExpired_eq (v : Volatile) (ttl : Duration) (now : Instant) :
    RangeStore.deleteExpired ttl now v =
      (.ok (v.ranges.countP fun r => ¬ r.IsFresh ttl now),
        { v with ranges := v.ranges.filter fun r => r.IsFresh ttl now }) := by
  simp only [decide_not, ← length_sub_filter]
  rfl

end Volatile

/-! ## In rows -/

namespace Durable

open Sweep

theorem sweep_eq (ttl : Duration) (now : Instant) (s : Durable) :
    RangeStore.deleteExpired ttl now s =
      (.ok (s.deleteExpired ttl now).1, (s.deleteExpired ttl now).2) := rfl

/-- The rows whose milliseconds are not below those of a time. -/
def since (c : Instant) (s : Durable) : Durable :=
  { s with rows := s.rows.filter (c.millis ≤ ·.createdAt) }

theorem sweptBy : SweptBy since where
  deleteExpired_eq _ _ _ := rfl
  count_le _ _ := List.length_filter_le _ _

theorem since_absorbs {c d : Instant} (le : d.millis ≤ c.millis) : Absorbs since c d := by
  intro s
  have later : ∀ row : Row,
      decide (c.millis ≤ row.createdAt) → decide (d.millis ≤ row.createdAt) := by
    intro row fresh
    rw [decide_eq_true_eq] at fresh ⊢
    exact Int.le_trans le fresh
  obtain ⟨after, before⟩ := filter_absorbs later s.rows
  constructor
  · simp only [since, after]
  · simp only [since, before]

/-- A range is kept as a row with the milliseconds of the time that it is created at; one that is
stored already stays as it is. -/
theorem createRange_rows (v : Volatile) (left : (of v).lastRangeId ≠ greatestId) (block : Block)
    (createdAt : Instant) :
    (createRange block createdAt (of v)).2.rows =
      (of (Volatile.createRange block createdAt v).2).rows := by
  rw [createRange, if_neg left, Volatile.createRange]
  simp only [find?_spans]
  cases v.ranges.find? (·.block = block) with
  | none => simp [of, Row.of]
  | some range => rfl

/-- A sweep of rows deletes no range that is fresh, unless its cutoff is in a leap second. -/
theorem not_isFresh_of_deleted {ttl : Duration} {now : Instant} {r : AddressRange}
    (calm : ¬ (Instant.cutoff ttl now).IsLeap) (deleted : isKept ttl now r = false) :
    ¬ r.IsFresh ttl now := by
  intro fresh
  have le := Instant.millis_le_of_le calm fresh
  have below : ¬ (Instant.cutoff ttl now).millis ≤ r.createdAt.millis := by
    simpa [isKept] using deleted
  exact below le

/-- A range that is not fresh stays within the millisecond of the cutoff only, unless it was created
in a leap second. -/
theorem millis_eq_of_kept {ttl : Duration} {now : Instant} {r : AddressRange}
    (calm : ¬ r.createdAt.IsLeap) (kept : isKept ttl now r) (stale : ¬ r.IsFresh ttl now) :
    r.createdAt.millis = (Instant.cutoff ttl now).millis := by
  have older := (Instant.le_total (Instant.cutoff ttl now) r.createdAt).resolve_left stale
  have above : (Instant.cutoff ttl now).millis ≤ r.createdAt.millis := by simpa [isKept] using kept
  exact Int.le_antisymm (Instant.millis_le_of_le calm older) above

end Durable

/-! ## Both stores -/

namespace Sweep

/-- **Sweeps are exact and compose.**  In memory a sweep deletes exactly the ranges that are not
fresh, and nothing else changes.  In rows, which have the milliseconds of the times that their
ranges were created at, it deletes no fresh range and leaves a stale one within the millisecond of
the cutoff only, leap seconds aside.  Sweeps in a row, in any order, come to the one with the
latest cutoff, and delete as many ranges in all; in rows, with the latest in milliseconds, which is
the latest one if none of the cutoffs is in a leap second. -/
theorem sweeps_exact :
    (∀ (v : Volatile) ttl now, RangeStore.deleteExpired ttl now v =
      (.ok (v.ranges.countP fun r => ¬ r.IsFresh ttl now),
        { v with ranges := v.ranges.filter fun r => r.IsFresh ttl now })) ∧
    (∀ (v : Volatile) block createdAt, (Durable.of v).lastRangeId ≠ Durable.greatestId →
      (Durable.createRange block createdAt (.of v)).2.rows =
        (Durable.of (Volatile.createRange block createdAt v).2).rows) ∧
    (∀ (v : Volatile) ttl now,
      let kept := Durable.isKept ttl now
      RangeStore.deleteExpired ttl now (Durable.of v) =
        (.ok (v.ranges.countP fun r => !kept r), Durable.of (v.keep kept)) ∧
      ∀ r ∈ v.ranges,
        (¬ (Instant.cutoff ttl now).IsLeap → kept r = false → ¬ r.IsFresh ttl now) ∧
        (¬ r.createdAt.IsLeap → kept r = true → ¬ r.IsFresh ttl now →
          r.createdAt.millis = (Instant.cutoff ttl now).millis)) ∧
    (∀ sweeps, sweeps ≠ [] →
      (∃ ttl now, IsLatest id sweeps ttl now) ∧
      ∃ ttl now, IsLatest Instant.millis sweeps ttl now) ∧
    ∀ sweeps ttl now,
      (IsLatest id sweeps ttl now →
        (∀ v : Volatile, runAll sweeps v = RangeStore.deleteExpired ttl now v) ∧
        ((∀ p ∈ sweeps, ¬ (Instant.cutoff p.1 p.2).IsLeap) →
          IsLatest Instant.millis sweeps ttl now)) ∧
      (IsLatest Instant.millis sweeps ttl now →
        ∀ s : Durable, runAll sweeps s = RangeStore.deleteExpired ttl now s) := by
  refine ⟨Volatile.deleteExpired_eq, fun v block createdAt left => ?_, fun v ttl now => ⟨?_, ?_⟩,
    fun sweeps nonempty => ⟨exists_isLatest id nonempty, exists_isLatest Instant.millis nonempty⟩,
    fun sweeps ttl now => ⟨fun latest => ⟨fun v => ?_, latest.millis⟩, fun latest s => ?_⟩⟩
  · exact Durable.createRange_rows v left block createdAt
  · have deleted := Durable.deleteExpired_of v ttl now
    rw [show (v.keep (Durable.isKept ttl now)).ranges =
      v.ranges.filter (Durable.isKept ttl now) from rfl, length_sub_filter] at deleted
    rw [Durable.sweep_eq, deleted]
  · intro r _
    exact ⟨fun calm => Durable.not_isFresh_of_deleted calm,
      fun calm => Durable.millis_eq_of_kept calm⟩
  · apply Volatile.sweptBy.runAll_eq latest.mem
    intro p mem
    exact Volatile.since_absorbs (latest.latest p mem)
  · apply Durable.sweptBy.runAll_eq latest.mem
    intro p mem
    exact Durable.since_absorbs (latest.latest p mem)

/-- A range that a sweep of rows keeps though it is not fresh, one that it deletes, and two sweeps
of which the second has the later cutoff; then two of which the first has the later one in
milliseconds, in a leap second. -/
theorem sweeps_exact_within :
    let first : Instant := ⟨60, 5999999, by decide, by decide, by decide, by decide⟩
    let second : Instant := ⟨60, 6000000, by decide, by decide, by decide, by decide⟩
    let now : Instant := ⟨61, 6500000, by decide, by decide, by decide, by decide⟩
    let leap : Instant := ⟨1483228799, 1500000000, by decide, by decide, by decide, by decide⟩
    let next : Instant := ⟨1483228800, 0, by decide, by decide, by decide, by decide⟩
    let ttl : Duration := .ofSeconds 1
    let old : AddressRange := ⟨1, .single ⟨7, by decide⟩, none, first⟩
    let stale : AddressRange := ⟨2, .single ⟨8, by decide⟩, none, second⟩
    let late : AddressRange := ⟨3, .single ⟨9, by decide⟩, none, next⟩
    let v : Volatile := ⟨[old, stale, late], [], 3, 0⟩
    let sweeps : List (Duration × Instant) := [(ttl, second), (ttl, now)]
    let leaps : List (Duration × Instant) := [(⟨0⟩, leap), (⟨0⟩, next)]
    (¬ (Instant.cutoff ttl now).IsLeap ∧ Durable.isKept ttl now old = false ∧
        ¬ old.IsFresh ttl now) ∧
      (Durable.isKept ttl now stale = true ∧ ¬ stale.IsFresh ttl now ∧
        stale.createdAt.millis = (Instant.cutoff ttl now).millis) ∧
      (IsLatest id sweeps ttl now ∧ IsLatest Instant.millis sweeps ttl now ∧
        runAll sweeps v = RangeStore.deleteExpired ttl now v ∧
        runAll sweeps (Durable.of v) = RangeStore.deleteExpired ttl now (Durable.of v)) ∧
      IsLatest id leaps ⟨0⟩ next ∧ runAll leaps v = RangeStore.deleteExpired ⟨0⟩ next v ∧
      IsLatest Instant.millis leaps ⟨0⟩ leap ∧
      runAll leaps (Durable.of v) = RangeStore.deleteExpired ⟨0⟩ leap (Durable.of v) := by
  intro first second now leap next ttl old stale late v sweeps leaps
  obtain ⟨-, -, rows, -, composed⟩ := sweeps_exact
  have latest : IsLatest id sweeps ttl now := ⟨by decide, by decide⟩
  obtain ⟨inMemory, calm⟩ := (composed sweeps ttl now).1 latest
  have latest' : IsLatest Instant.millis sweeps ttl now := calm (by decide)
  have last : IsLatest id leaps ⟨0⟩ next := ⟨by decide, by decide⟩
  have last' : IsLatest Instant.millis leaps ⟨0⟩ leap := ⟨by decide, by decide⟩
  refine ⟨⟨by decide, by decide, ?_⟩, ⟨by decide, by decide, ?_⟩,
    ⟨latest, latest', inMemory v, ?_⟩, last, ?_, last', ?_⟩
  · exact ((rows v ttl now).2 old (by decide)).1 (by decide) (by decide)
  · exact ((rows v ttl now).2 stale (by decide)).2 (by decide) (by decide) (by decide)
  · exact (composed sweeps ttl now).2 latest' (.of v)
  · exact ((composed leaps ⟨0⟩ next).1 last).1 v
  · exact (composed leaps ⟨0⟩ leap).2 last' (.of v)

/-- In the leap second at the end of 2016 none of this holds of rows, and the latest cutoff does not
decide.  A range created in it is no longer fresh a half second later, and is kept in another
millisecond than the cutoff; a range created in the second after it is fresh for a sweep in it, and
is deleted; and it is deleted by two sweeps of which the one with the later cutoff keeps it. -/
theorem deleteExpired_leap :
    let leap : Instant := ⟨1483228799, 1500000000, by decide, by decide, by decide, by decide⟩
    let next : Instant := ⟨1483228800, 0, by decide, by decide, by decide, by decide⟩
    let later : Instant := ⟨1483228800, 200000000, by decide, by decide, by decide, by decide⟩
    let block : Block := .single ⟨7, by decide⟩
    let created (t : Instant) : Volatile := (Volatile.createRange block t {}).2
    let rows (t : Instant) : Durable := (Durable.createRange block t {}).2
    let sweeps : List (Duration × Instant) := [(⟨0⟩, leap), (⟨0⟩, next)]
    ((∀ r ∈ (created leap).ranges,
        ¬ r.IsFresh ⟨0⟩ next ∧ r.createdAt.millis ≠ (Instant.cutoff ⟨0⟩ next).millis) ∧
      rows leap = .of (created leap) ∧
      (RangeStore.deleteExpired ⟨0⟩ next (rows leap)).2 = rows leap) ∧
    ((∀ r ∈ (created later).ranges, r.IsFresh ⟨0⟩ leap) ∧ rows later = .of (created later) ∧
      (RangeStore.deleteExpired ⟨0⟩ leap (rows later)).2.rows = []) ∧
    IsLatest id sweeps ⟨0⟩ next ∧ (runAll sweeps (rows later)).2.rows = [] ∧
      (RangeStore.deleteExpired ⟨0⟩ next (rows later)).2 = rows later := by
  intro leap next later block created rows sweeps
  have latest : IsLatest id sweeps ⟨0⟩ next := ⟨by decide, by decide⟩
  exact ⟨⟨by decide, by decide, by decide⟩, ⟨by decide, by decide, by decide⟩, latest, by decide,
    by decide⟩

end Sweep

end OwnerCache
