/-
# OwnerCache.Proofs.Store.Defect -- rows that mean no range

Rows can be put in from outside, so a row may mean no range: its time is no instant, or a bound
is no address.  `Row.Has` says what is wrong with a row, and of several things the one that is
reported; whatever else the row holds, this is all that keeps it from being a range
(`range_eq_error_iff`).

Which row wins an address is settled before any row is looked into, on the numbers as they are
(`Row.key`).  So a defect does harm where its row wins and nowhere else: any other row can be
taken out without a difference (`bestMatch_without`).  A request for a range looks into one row
as well, the stored one of its block or else the new one (`rowFor?`).
-/
import Mathlib.Data.List.Nodup
import Mathlib.Data.Prod.Lex
import OwnerCache.Proofs.Store.Rank
import OwnerCache.Store.Durable

namespace OwnerCache

set_option autoImplicit false

/-! ## What is wrong with a row -/

/-- Milliseconds that are those of an instant. -/
def Instant.IsTime (ms : Int) : Prop :=
  Instant.leastSecond * 1000 ≤ ms ∧ ms < (Instant.greatestSecond + 1) * 1000

theorem Instant.ofMillis?_eq_none_iff {ms : Int} : ofMillis? ms = none ↔ ¬ IsTime ms := by
  unfold ofMillis? ofNanos? ofSeconds? IsTime leastSecond greatestSecond
  split
  · simp only [reduceCtorEq, false_iff, not_not]
    omega
  · simp only [true_iff]
    omega

theorem Instant.exists_of_isTime {ms : Int} (timely : IsTime ms) : ∃ t, ofMillis? ms = some t := by
  apply Option.ne_none_iff_exists'.mp
  intro none
  exact ofMillis?_eq_none_iff.mp none timely

namespace Row

/-- A number of 32 bits: that of an address. -/
def IsBound (value : Int) : Prop := 0 ≤ value ∧ value < 0x100000000

/-- The bounds of a row do not fit, or its time is none. -/
def IsCorrupt (r : Row) : Prop :=
  ¬ IsBound r.first ∨ ¬ IsBound r.last ∨ ¬ Instant.IsTime r.createdAt

/-- The defect of a row: of its time, else of its first bound, else of its last one. -/
inductive Has (r : Row) : Defect → Prop
  | time (untimely : ¬ Instant.IsTime r.createdAt) : Has r (.time r.id r.createdAt)
  | first (timely : Instant.IsTime r.createdAt) (outside : ¬ IsBound r.first) :
      Has r (.bound r.id r.first)
  | last (timely : Instant.IsTime r.createdAt) (inside : IsBound r.first)
      (outside : ¬ IsBound r.last) : Has r (.bound r.id r.last)

theorem isCorrupt_iff {r : Row} : r.IsCorrupt ↔ ∃ d, r.Has d := by
  constructor
  · intro corrupt
    by_cases timely : Instant.IsTime r.createdAt
    · by_cases inside : IsBound r.first
      · have outside : ¬ IsBound r.last :=
          (corrupt.resolve_left (not_not.mpr inside)).resolve_right (not_not.mpr timely)
        exact ⟨_, .last timely inside outside⟩
      · exact ⟨_, .first timely inside⟩
    · exact ⟨_, .time timely⟩
  · rintro ⟨d, untimely | ⟨-, outside⟩ | ⟨-, -, outside⟩⟩
    · exact .inr (.inr untimely)
    · exact .inl outside
    · exact .inr (.inl outside)

theorem bound_of_isBound (id : Int) {value : Int} (inside : IsBound value) :
    ∃ a, bound id value = .ok a := by
  obtain ⟨low, high⟩ := inside
  have fits : value.toNat < 0x100000000 := by omega
  exact ⟨⟨value.toNat, fits⟩, by simp [bound, Address.ofInt?, Address.ofNat?, low, fits]⟩

theorem bound_of_not_isBound (id : Int) {value : Int} (outside : ¬ IsBound value) :
    bound id value = .error (.corrupt (.bound id value)) := by
  have none : Address.ofInt? value = none := by
    unfold IsBound at outside
    unfold Address.ofInt? Address.ofNat?
    split
    · rw [dif_neg]
      omega
    · rfl
  rw [bound, none]

/-- A row that does not mean a range has a defect, and its defect is what is reported. -/
theorem range_eq_error_iff {r : Row} {e : StoreError} :
    r.range = .error e ↔ ∃ d, e = .corrupt d ∧ r.Has d := by
  have reported : ∀ {d}, r.Has d → r.range = .error (.corrupt d) := by
    intro d defect
    cases defect with
    | time untimely =>
        rw [range, Instant.ofMillis?_eq_none_iff.mpr untimely]
        rfl
    | first timely outside =>
        obtain ⟨time, known⟩ := Instant.exists_of_isTime timely
        rw [range, known, bound_of_not_isBound r.id outside]
        rfl
    | last timely inside outside =>
        obtain ⟨time, known⟩ := Instant.exists_of_isTime timely
        obtain ⟨first, here⟩ := bound_of_isBound r.id inside
        rw [range, known, here, bound_of_not_isBound r.id outside]
        rfl
  constructor
  · intro failed
    by_cases corrupt : r.IsCorrupt
    · obtain ⟨d, defect⟩ := isCorrupt_iff.mp corrupt
      rw [reported defect] at failed
      exact ⟨d, (Except.error.inj failed).symm, defect⟩
    · simp only [IsCorrupt, not_or, not_not] at corrupt
      obtain ⟨inside, inside', timely⟩ := corrupt
      obtain ⟨time, known⟩ := Instant.exists_of_isTime timely
      obtain ⟨first, here⟩ := bound_of_isBound r.id inside
      obtain ⟨last, there⟩ := bound_of_isBound r.id inside'
      rw [range, known, here, there] at failed
      cases failed
  · rintro ⟨d, rfl, defect⟩
    exact reported defect

theorem range_eq_corrupt_iff {r : Row} {d : Defect} : r.range = .error (.corrupt d) ↔ r.Has d := by
  rw [range_eq_error_iff]
  constructor
  · rintro ⟨_, ⟨⟩, defect⟩
    exact defect
  · exact fun defect => ⟨d, rfl, defect⟩

/-! ## Which row wins -/

/-- What a row competes by: its length, its first bound and its id, all as they are. -/
def key (r : Row) : ℤ ×ₗ ℤ ×ₗ ℤ :=
  toLex (if 1 < r.last then r.last - r.first else 0, toLex (r.first, r.id))

theorem id_eq_of_key {r r' : Row} (same : r.key = r'.key) : r.id = r'.id := by
  simp only [key, toLex_inj, Prod.mk.injEq] at same
  exact same.2.2

theorem before_iff_key_lt {r r' : Row} (fits : Wide.Fits (r.last - r.first))
    (fits' : Wide.Fits (r'.last - r'.first)) : r.rank.Before r'.rank ↔ r.key < r'.key := by
  simp only [Rank.Before, rank, length, key, Wide.difference_eq fits, Wide.difference_eq fits',
    Prod.Lex.toLex_lt_toLex]

end Row

namespace Durable

variable {s : Durable} {a : Address} {r : Row}

/-- Of the rows that cover an address a row comes first. -/
structure Wins (s : Durable) (a : Address) (r : Row) : Prop where
  stored : r ∈ s.rows
  covers : r.Covers a
  least : ∀ r' ∈ s.rows, r'.Covers a → r' ≠ r → r.key < r'.key

/-- A table: rows under ids that differ, whose bounds have a difference of 64 bits. -/
structure IsTable (s : Durable) : Prop where
  ids : s.rows.Pairwise (·.id ≠ ·.id)
  fits : ∀ r ∈ s.rows, Wide.Fits (r.last - r.first)

/-- The store without the row of an id. -/
def without (s : Durable) (id : Int) : Durable := { s with rows := s.rows.filter (·.id ≠ id) }

theorem IsTable.eq_of_id (table : s.IsTable) {r r' : Row} (mem : r ∈ s.rows) (mem' : r' ∈ s.rows)
    (same : r.id = r'.id) : r = r' :=
  List.inj_on_of_nodup_map (List.pairwise_map.mpr table.ids) mem mem' same

/-- The row that wins an address is the one that is looked into. -/
theorem IsTable.least?_eq_some (table : s.IsTable) :
    Rank.least? Row.rank (s.rows.filter (·.Covers a)) = some r ↔ s.Wins a r := by
  have sound : ∀ {w}, Rank.least? Row.rank (s.rows.filter (·.Covers a)) = some w → s.Wins a w := by
    intro w found
    obtain ⟨mem, least⟩ := Rank.least?_eq_some found
    obtain ⟨stored, covers⟩ := List.mem_filter.mp mem
    refine ⟨stored, by simpa using covers, fun r' mem' covers' other => ?_⟩
    have later := least r' (List.mem_filter.mpr ⟨mem', by simpa using covers'⟩)
    rw [Row.before_iff_key_lt (table.fits r' mem') (table.fits w stored), not_lt] at later
    exact lt_of_le_of_ne later fun same =>
      other (table.eq_of_id mem' stored (Row.id_eq_of_key same).symm)
  refine ⟨sound, fun wins => ?_⟩
  have competes : r ∈ s.rows.filter (·.Covers a) :=
    List.mem_filter.mpr ⟨wins.stored, by simpa using wins.covers⟩
  obtain ⟨w, found⟩ := Rank.exists_least? Row.rank competes
  have first := sound found
  by_cases same : w = r
  · exact same ▸ found
  · exact absurd (first.least r wins.stored wins.covers (Ne.symm same))
      (wins.least w first.stored first.covers same).asymm

/-- Where a row wins, it alone decides. -/
theorem Wins.bestMatch (wins : s.Wins a r) (table : s.IsTable) :
    s.bestMatch a = r.range.map fun range => some ⟨range, range.ownerId.bind s.identity?⟩ := by
  rw [Durable.bestMatch, table.least?_eq_some.mpr wins]

/-- Where a row does not win, it makes no difference. -/
theorem bestMatch_without (table : s.IsTable) (mem : r ∈ s.rows) (loses : ¬ s.Wins a r) :
    s.bestMatch a = (s.without r.id).bestMatch a := by
  have rows : (s.without r.id).rows.filter (·.Covers a) =
      (s.rows.filter (·.Covers a)).filter (·.id ≠ r.id) := by
    simp only [without, List.filter_filter, Bool.and_comm]
  rw [Durable.bestMatch, Durable.bestMatch, rows]
  cases found : Rank.least? Row.rank (s.rows.filter (·.Covers a)) with
  | none =>
      rw [Rank.least?_eq_none_iff.mp found]
      rfl
  | some w =>
      have first := table.least?_eq_some.mp found
      have other : w.id ≠ r.id := fun same =>
        loses (table.eq_of_id first.stored mem same ▸ first)
      rw [Rank.least?_filter found (by simpa using other)]
      rfl

/-- Looking for a match fails exactly where the row that wins has a defect. -/
theorem IsTable.bestMatch_eq_error_iff (table : s.IsTable) {e : StoreError} :
    s.bestMatch a = .error e ↔ ∃ r d, s.Wins a r ∧ r.Has d ∧ e = .corrupt d := by
  constructor
  · intro failed
    rw [Durable.bestMatch] at failed
    cases found : Rank.least? Row.rank (s.rows.filter (·.Covers a)) with
    | none => simp [found] at failed
    | some w =>
        rw [found] at failed
        cases meant : w.range with
        | ok range => simp [meant, Except.map] at failed
        | error e' =>
            obtain ⟨d, rfl, defect⟩ := Row.range_eq_error_iff.mp meant
            simp only [meant, Except.map] at failed
            exact ⟨w, d, table.least?_eq_some.mp found, defect, (Except.error.inj failed).symm⟩
  · rintro ⟨w, d, wins, defect, rfl⟩
    rw [wins.bestMatch table, Row.range_eq_corrupt_iff.mpr defect]
    rfl

/-! ## Requests for a range -/

/-- The row that a request for a range looks into: the stored one of its block, or else the new one.
Without an id for the request there is none. -/
def rowFor? (block : Block) (createdAt : Instant) (s : Durable) : Option Row :=
  if s.lastRangeId = greatestId then none
  else some <| (s.rows.find? (·.Spans block)).getD
    ⟨s.lastRangeId + 1, block.first.value, block.last.value, none, createdAt.millis⟩

theorem createRange_eq (block : Block) (createdAt : Instant) (s : Durable) :
    (createRange block createdAt s).1 =
      match s.rowFor? block createdAt with
      | some row => row.range.map (⟨·, (s.rows.find? (·.Spans block)).isNone⟩)
      | none => .error (.backend .full) := by
  unfold createRange rowFor?
  split
  · rfl
  · cases s.rows.find? (·.Spans block) <;> rfl

/-- A request for a range is answered with a defect exactly where the row that it looks into has it. -/
theorem createRange_eq_corrupt_iff {block : Block} {createdAt : Instant} {d : Defect} :
    (createRange block createdAt s).1 = .error (.corrupt d) ↔
      ∃ row ∈ s.rowFor? block createdAt, row.Has d := by
  rw [createRange_eq]
  cases s.rowFor? block createdAt with
  | none => simp
  | some row =>
      simp only [Option.mem_some_iff, exists_eq_left', ← Row.range_eq_corrupt_iff]
      cases row.range <;> simp [Except.map]

end Durable

end OwnerCache
