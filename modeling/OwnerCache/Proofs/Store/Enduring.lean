/-
# OwnerCache.Proofs.Store.Enduring -- stores that nothing asked of them breaks

Whatever units of work ask for, and whichever errors they pass over, a store of rows stays one that
can be read.  Each row keeps the bounds of a block and the milliseconds of the time that its range
was to be created at (`Row.IsCreated`), so it means a range, and no id is beyond the last one given
(`Durable.Recorded`).  A request keeps this (`Recorded.answer`); of a draft both the store at its
start and the one it has come to keep it, so it does not matter which of the two is left, even if
the unit is abandoned for want of ids halfway (`Draft.Recorded.perform`).

What a request for a range is answered follows (`Answered`): the range with its time rounded down
to the millisecond, or, where there is no id, that the store is full.

`Enduring` is what both stores have of this.
-/
import OwnerCache.Proofs.Store.Asked
import OwnerCache.Proofs.Store.WellFormed

namespace OwnerCache

set_option autoImplicit false

open Work (Asked note createdAt createdAt_append note_of_none note_new note_other)

/-! ## Rows as they were created -/

/-- The row keeps a block, and the milliseconds of the time that its range was to be created at. -/
def Row.IsCreated (times : Int → Option Instant) (row : Row) : Prop :=
  ∃ (block : Block) (time : Instant), times row.id = some time ∧ ¬ time.IsLeap ∧
    row = ⟨row.id, block.first.value, block.last.value, row.ownerId, time.millis⟩

theorem Row.IsCreated.exists_range {times : Int → Option Instant} {row : Row}
    (created : row.IsCreated times) :
    ∃ r time, row.range = .ok r ∧ times r.id = some time ∧ r.createdAt.IsFloorOf time := by
  obtain ⟨block, time, given, calm, same⟩ := created
  refine ⟨⟨row.id, block, row.ownerId, time.kept⟩, time, ?_, given, Instant.kept_isFloorOf calm⟩
  rw [same]
  exact Row.range_mk (Instant.ofMillis?_millis_eq_kept calm)

/-- Another owner does not matter. -/
theorem Row.IsCreated.owned {times : Int → Option Instant} {row : Row}
    (created : row.IsCreated times) (ownerId : Option Int) :
    Row.IsCreated times { row with ownerId := ownerId } := by
  obtain ⟨block, time, given, calm, same⟩ := created
  refine ⟨block, time, given, calm, ?_⟩
  rw [same]

namespace Durable

/-- Every row is as it was created, and no id is beyond the last ones given. -/
structure Recorded (times : Int → Option Instant) (s : Durable) : Prop where
  rows : ∀ row ∈ s.rows, row.IsCreated times
  row_le : ∀ row ∈ s.rows, row.id ≤ s.lastRangeId
  identity_le : ∀ i ∈ s.identities, i.id ≤ s.lastIdentityId

theorem Recorded.intact {times : Int → Option Instant} {s : Durable} (recorded : s.Recorded times) :
    s.Intact where
  readable row mem := by
    obtain ⟨r, -, read, -⟩ := (recorded.rows row mem).exists_range
    exact ⟨r, read⟩
  row_le := recorded.row_le
  identity_le := recorded.identity_le

/-- What a range in a request is answered with: there is no id, or the range has the time that it
was to be created at, rounded down to the millisecond. -/
inductive Answered : List Asked → Prop
  | nil : Answered []
  | other {log : List Asked} {asked : Asked} (earlier : Answered log)
      (other : ∀ block time, asked.request ≠ .createRange block time) : Answered (log ++ [asked])
  | full {log : List Asked} {block : Block} {time : Instant} (earlier : Answered log) :
      Answered (log ++ [⟨.createRange block time, .error (.backend .full)⟩])
  | placed {log : List Asked} {block : Block} {time given : Instant} {placed : Placed}
      (earlier : Answered log)
      (noted : createdAt (log ++ [⟨.createRange block time, .ok placed⟩]) placed.range.id =
        some given)
      (new : placed.inserted = true → given = time)
      (rounded : placed.range.createdAt.IsFloorOf given) :
      Answered (log ++ [⟨.createRange block time, .ok placed⟩])

theorem Answered.full_of_error {log : List Asked} (answered : Answered log) {block : Block}
    {time : Instant} {e : StoreError} (mem : ⟨.createRange block time, .error e⟩ ∈ log) :
    e = .backend .full := by
  induction answered with
  | nil => cases mem
  | other earlier other ih =>
      rcases List.mem_append.mp mem with mem | mem
      · exact ih mem
      · obtain rfl := List.mem_singleton.mp mem
        exact absurd rfl (other block time)
  | full earlier ih =>
      rcases List.mem_append.mp mem with mem | mem
      · exact ih mem
      · cases List.mem_singleton.mp mem
        rfl
  | placed earlier noted new rounded ih =>
      rcases List.mem_append.mp mem with mem | mem
      · exact ih mem
      · cases List.mem_singleton.mp mem

/-! ## Requests -/

section

variable {times : Int → Option Instant} {s : Durable}

/-- A time that is noted for an id not given yet is of no row. -/
theorem Recorded.note (recorded : s.Recorded times) {asked : Asked}
    (fresh : ∀ new time, asked.created? = some (new, time) → s.lastRangeId < new) :
    s.Recorded (note times asked) where
  rows row mem := by
    obtain ⟨block, time, given, calm, same⟩ := recorded.rows row mem
    refine ⟨block, time, ?_, calm, same⟩
    cases created : asked.created? with
    | none => rwa [note_of_none created]
    | some noted =>
        have later := fresh noted.1 noted.2 created
        have before := recorded.row_le row mem
        rwa [note_other created (by omega)]
  row_le := recorded.row_le
  identity_le := recorded.identity_le

/-- The three answers to a request for a range. -/
theorem createRange_cases (recorded : s.Recorded times) (block : Block) {time : Instant}
    (calm : ¬ time.IsLeap) :
    createRange block time s = (.error (.backend .full), s) ∨
      (∃ r given, times r.id = some given ∧ r.createdAt.IsFloorOf given ∧
        createRange block time s =
          (.ok ⟨r, false⟩, { s with lastRangeId := s.lastRangeId + 1 })) ∨
      createRange block time s =
        (.ok ⟨⟨s.lastRangeId + 1, block, none, time.kept⟩, true⟩,
          { s with
            rows := s.rows ++
              [⟨s.lastRangeId + 1, block.first.value, block.last.value, none, time.millis⟩]
            lastRangeId := s.lastRangeId + 1 }) := by
  by_cases full : s.lastRangeId = greatestId
  · exact .inl (createRange_full full block time)
  · rw [createRange, if_neg full]
    cases found : s.rows.find? (·.Spans block) with
    | some row =>
        obtain ⟨r, given, read, noted, rounded⟩ :=
          (recorded.rows row (List.mem_of_find?_eq_some found)).exists_range
        refine .inr (.inl ⟨r, given, noted, rounded, ?_⟩)
        simp only [read]
        rfl
    | none =>
        refine .inr (.inr ?_)
        have read : Row.range
              ⟨s.lastRangeId + 1, block.first.value, block.last.value, none, time.millis⟩ =
            .ok ⟨s.lastRangeId + 1, block, none, time.kept⟩ :=
          Row.range_mk (Instant.ofMillis?_millis_eq_kept calm)
        simp only [read]
        rfl

/-- A whole time comes back as it is. -/
theorem createRange_createdAt {time : Instant} (whole : time.IsWholeMillis) {block : Block}
    {placed : Placed} (created : (createRange block time s).1 = .ok placed)
    (new : placed.inserted = true) : placed.range.createdAt = time := by
  rw [createRange] at created
  split at created
  · cases created
  · split at created
    · rename_i row _
      cases read : row.range with
      | error e => simp [read, Except.map] at created
      | ok r =>
          have stored : (⟨r, false⟩ : Placed) = placed := by simpa [read, Except.map] using created
          rw [← stored] at new
          cases new
    · have read : Row.range
            ⟨s.lastRangeId + 1, block.first.value, block.last.value, none, time.millis⟩ =
          .ok ⟨s.lastRangeId + 1, block, none, time⟩ := Row.range_mk whole.ofMillis?_millis
      have same : (⟨⟨s.lastRangeId + 1, block, none, time⟩, true⟩ : Placed) = placed := by
        simpa [read, Except.map] using created
      rw [← same]

/-- An id that is noted for a request was not given before it. -/
theorem lastRangeId_lt_of_created? (recorded : s.Recorded times) {q : Request} {new : Int}
    {time : Instant} (ordinary : Asked.IsOrdinary ⟨q, (answer q s).1⟩)
    (created : Asked.created? ⟨q, (answer q s).1⟩ = some (new, time)) : s.lastRangeId < new := by
  cases q with
  | createRange block createdAt =>
      rw [answer] at created
      rcases createRange_cases recorded block ordinary with
        full | ⟨r, given, -, -, stored⟩ | inserted
      · rw [full] at created
        cases created
      · rw [stored] at created
        cases created
      · rw [inserted] at created
        cases created
        exact Int.lt_succ _
  | _ => cases created

theorem lastRangeId_le_answer (q : Request) (s : Durable) :
    s.lastRangeId ≤ (answer q s).2.lastRangeId := by
  cases q with
  | createRange block createdAt =>
      rw [answer, createRange]
      split
      · exact Int.le_refl _
      · split <;> (simp only; omega)
  | createIdentity name country =>
      rw [answer, createIdentity]
      split <;> exact Int.le_refl _
  | attachOwner rangeId ownerId =>
      rw [answer, attachOwner]
      repeat' split
      all_goals exact Int.le_refl _
  | _ => exact Int.le_refl _

/-- Ids may be passed over. -/
theorem Recorded.skip (recorded : s.Recorded times) :
    Recorded times { s with lastRangeId := s.lastRangeId + 1 } where
  rows := recorded.rows
  row_le row mem := Int.le_trans (recorded.row_le row mem) (Int.le_of_lt (Int.lt_succ _))
  identity_le := recorded.identity_le

/-- A new row keeps what is noted for its id. -/
theorem Recorded.insert (recorded : s.Recorded times) {time : Instant}
    (noted : times (s.lastRangeId + 1) = some time) (calm : ¬ time.IsLeap) (block : Block) :
    Recorded times
      { s with
        rows := s.rows ++
          [⟨s.lastRangeId + 1, block.first.value, block.last.value, none, time.millis⟩]
        lastRangeId := s.lastRangeId + 1 } where
  rows := List.forall_mem_append.mpr ⟨recorded.rows,
    List.forall_mem_singleton.mpr ⟨block, time, noted, calm, rfl⟩⟩
  row_le := List.forall_mem_append.mpr ⟨recorded.skip.row_le,
    List.forall_mem_singleton.mpr (Int.le_refl _)⟩
  identity_le := recorded.identity_le

theorem Recorded.createIdentity (recorded : s.Recorded times) (name country : Option String) :
    (Durable.createIdentity name country s).2.Recorded times := by
  rw [Durable.createIdentity]
  split
  · exact recorded
  · refine ⟨recorded.rows, recorded.row_le, ?_⟩
    refine List.forall_mem_append.mpr ⟨?_, List.forall_mem_singleton.mpr (Int.le_refl _)⟩
    intro i mem
    exact Int.le_trans (recorded.identity_le i mem) (Int.le_of_lt (Int.lt_succ _))

theorem Recorded.attachOwner (recorded : s.Recorded times) (rangeId ownerId : Int) :
    (Durable.attachOwner rangeId ownerId s).2.Recorded times := by
  rw [Durable.attachOwner]
  split
  · split
    · exact recorded
    · refine ⟨?_, ?_, recorded.identity_le⟩
      · refine List.forall_mem_map.mpr fun row mem => ?_
        split
        · exact (recorded.rows row mem).owned (some ownerId)
        · exact recorded.rows row mem
      · refine List.forall_mem_map.mpr fun row mem => ?_
        split <;> exact recorded.row_le row mem
  · exact recorded

/-- A request leaves every row as it was created. -/
theorem Recorded.answer (recorded : s.Recorded times) {q : Request}
    (ordinary : Asked.IsOrdinary ⟨q, (answer q s).1⟩) :
    (Durable.answer q s).2.Recorded (Work.note times ⟨q, (Durable.answer q s).1⟩) := by
  have before : s.Recorded (Work.note times ⟨q, (Durable.answer q s).1⟩) :=
    recorded.note fun _ _ => lastRangeId_lt_of_created? recorded ordinary
  cases q with
  | createRange block time =>
      rw [Durable.answer] at before ⊢
      rcases createRange_cases recorded block ordinary with
        full | ⟨r, given, -, -, stored⟩ | inserted
      · rwa [full] at before ⊢
      · rw [stored] at before ⊢
        exact before.skip
      · rw [inserted] at before ⊢
        exact before.insert (note_new rfl) ordinary block
  | getIdentity id => exact before
  | findIdentity name country => exact before
  | createIdentity name country => exact before.createIdentity name country
  | attachOwner rangeId ownerId => exact before.attachOwner rangeId ownerId

/-- A request is answered as the times on record say. -/
theorem Recorded.answered {log : List Asked} (recorded : s.Recorded (createdAt log))
    (earlier : Answered log) {q : Request}
    (ordinary : Asked.IsOrdinary ⟨q, (Durable.answer q s).1⟩) :
    Answered (log ++ [⟨q, (Durable.answer q s).1⟩]) := by
  cases q with
  | createRange block time =>
      rw [Durable.answer]
      rcases createRange_cases recorded block ordinary with
        full | ⟨r, given, noted, rounded, stored⟩ | inserted
      · rw [full]
        exact earlier.full
      · rw [stored]
        refine earlier.placed ?_ (fun new => by cases new) rounded
        rwa [createdAt_append, note_of_none rfl]
      · rw [inserted]
        refine earlier.placed ?_ (fun _ => rfl) (Instant.kept_isFloorOf ordinary)
        rw [createdAt_append]
        exact note_new rfl
  | _ => exact earlier.other fun _ _ same => by cases same

end

/-! ## Units of work -/

/-- What a unit of work has come to: both the store at its start and the one it has now are as they
were recorded, so either may be left. -/
structure Draft.Recorded (log : List Asked) (d : Draft) : Prop where
  answered : Answered log
  saved : d.saved.Recorded (createdAt log)
  store : d.store.Recorded (createdAt log)
  saved_le : d.saved.lastRangeId ≤ d.store.lastRangeId

/-- Whatever is asked, and even if the unit is abandoned over it. -/
theorem Draft.Recorded.perform {log : List Asked} {d : Draft} {q : Request}
    (recorded : d.Recorded log) (ordinary : Asked.IsOrdinary ⟨q, (Durable.perform q d).1⟩) :
    Draft.Recorded (log ++ [⟨q, (Durable.perform q d).1⟩]) (Durable.perform q d).2 := by
  obtain ⟨reply, left⟩ := perform_cases q d
  rw [reply] at ordinary ⊢
  have answered := recorded.store.answered recorded.answered ordinary
  have store := recorded.store.answer ordinary
  have saved : d.saved.Recorded (Work.note (createdAt log) ⟨q, (answer q d.store).1⟩) := by
    refine recorded.saved.note fun new time created => ?_
    have := lastRangeId_lt_of_created? recorded.store ordinary created
    exact Int.lt_of_le_of_lt recorded.saved_le this
  have le : d.saved.lastRangeId ≤ (answer q d.store).2.lastRangeId :=
    Int.le_trans recorded.saved_le (lastRangeId_le_answer q d.store)
  rw [← createdAt_append] at store saved
  rcases left with ⟨full, abandoned⟩ | goesOn
  · -- Nothing is noted for an error, so the store as it was before the request stays recorded too.
    have unchanged : d.store.Recorded (createdAt (log ++ [⟨q, (answer q d.store).1⟩])) := by
      rw [createdAt_append, note_of_none (by rw [full, Asked.created?_error])]
      exact recorded.store
    rw [abandoned, Draft.abandon]
    split
    · exact ⟨answered, saved, unchanged, recorded.saved_le⟩
    · exact ⟨answered, saved, saved, Int.le_refl _⟩
  · rw [goesOn]
    exact ⟨answered, saved, store, le⟩

/-- A unit of work leaves the store it has come to, or the one at its start. -/
theorem transact_store {α : Type} (work : Work α) (s : Durable) :
    let d := (work.run perform (Draft.begin s)).2
    (transact work s).2 = d.store ∨ (transact work s).2 = d.saved := by
  rw [transact]
  rcases work.run perform (Draft.begin s) with ⟨_ | _, d⟩
  · simp only [Draft.rollback]
    split
    · exact .inl rfl
    · exact .inr rfl
  · exact .inl rfl

/-- Whatever a unit of work asks and however it ends, its requests are answered as the times on
record say, and the rows that it leaves are as they were created. -/
theorem Recorded.transact {α : Type} {work : Work α} {log : List Asked} {s : Durable}
    (recorded : s.Recorded (createdAt log)) (earlier : Answered log)
    (ordinary : ∀ asked ∈ work.transcript perform (Draft.begin s), asked.IsOrdinary) :
    Answered (log ++ work.transcript perform (Draft.begin s)) ∧
      (Durable.transact work s).2.Recorded
        (createdAt (log ++ work.transcript perform (Draft.begin s))) := by
  have start : (Draft.begin s).Recorded log := ⟨earlier, recorded, recorded, Int.le_refl _⟩
  have after : Draft.Recorded _ (work.run perform (Draft.begin s)).2 :=
    Work.run_keeps (fun _ _ _ kept ordinary => kept.perform ordinary) work start ordinary
  refine ⟨after.answered, ?_⟩
  rcases transact_store work s with left | left
  · rw [left]
    exact after.store
  · rw [left]
    exact after.saved

/-- A sweep takes rows away. -/
theorem Recorded.sweep {times : Int → Option Instant} {s : Durable} (recorded : s.Recorded times)
    (ttl : Duration) (now : Instant) : (s.deleteExpired ttl now).2.Recorded times where
  rows row mem := recorded.rows row (List.mem_filter.mp mem).1
  row_le row mem := recorded.row_le row (List.mem_filter.mp mem).1
  identity_le := recorded.identity_le

/-- The range that wins an address has the time that it was to be created at, rounded down to the
millisecond. -/
theorem Recorded.bestMatch {times : Int → Option Instant} {s : Durable}
    (recorded : s.Recorded times) {a : Address} {m : RangeMatch}
    (found : s.bestMatch a = .ok (some m)) :
    ∃ given, times m.range.id = some given ∧ m.range.createdAt.IsFloorOf given := by
  rw [Durable.bestMatch] at found
  split at found
  · cases found
  · rename_i row least
    have stored : row ∈ s.rows := (List.mem_filter.mp (Rank.least?_eq_some least).1).1
    obtain ⟨r, given, read, noted, rounded⟩ := (recorded.rows row stored).exists_range
    rw [read] at found
    cases found
    exact ⟨given, noted, rounded⟩

end Durable

/-! ## In memory -/

namespace Volatile

theorem exists_of_mem_setOwner {id : Int} {owner : Option Int} {rs : List AddressRange}
    {r : AddressRange} (mem : r ∈ setOwner id owner rs) : ∃ r' ∈ rs, r'.id = r.id := by
  induction rs with
  | nil => cases mem
  | cons x rs ih =>
      by_cases same : x.id = id
      · rw [setOwner, if_pos same] at mem
        rcases List.mem_cons.mp mem with rfl | mem
        · exact ⟨x, by simp, rfl⟩
        · exact ⟨r, by simp [mem], rfl⟩
      · rw [setOwner, if_neg same] at mem
        rcases List.mem_cons.mp mem with rfl | mem
        · exact ⟨r, by simp, rfl⟩
        · obtain ⟨r', mem', known⟩ := ih mem
          exact ⟨r', by simp [mem'], known⟩

/-- No id comes to be beyond the last ones given. -/
theorem intact_answer {v : Volatile} (intact : Legible.Intact v) (q : Request) :
    Legible.Intact (answer q v).2 := by
  obtain ⟨range_le, identity_le⟩ := intact
  have lt (n : Int) : n < n + 1 := Int.lt_succ n
  cases q with
  | createRange block time =>
      simp only [answer, createRange]
      split
      · exact ⟨range_le, identity_le⟩
      · refine ⟨List.forall_mem_append.mpr ⟨?_, by simp⟩, identity_le⟩
        exact fun r mem => Int.le_trans (range_le r mem) (Int.le_of_lt (lt _))
  | getIdentity id => exact ⟨range_le, identity_le⟩
  | findIdentity name country => exact ⟨range_le, identity_le⟩
  | createIdentity name country =>
      refine ⟨range_le, List.forall_mem_append.mpr ⟨?_, ?_⟩⟩
      · exact fun i mem => Int.le_trans (identity_le i mem) (Int.le_of_lt (lt _))
      · exact List.forall_mem_singleton.mpr (Int.le_refl _)
  | attachOwner rangeId ownerId =>
      rw [answer, attach]
      split
      · exact ⟨range_le, identity_le⟩
      · split
        · exact ⟨range_le, identity_le⟩
        · refine ⟨fun r mem => ?_, identity_le⟩
          obtain ⟨r', mem', same⟩ := exists_of_mem_setOwner mem
          rw [← same]
          exact range_le r' mem'

/-- What is asked of a draft, and replied, is what is asked of a copy. -/
theorem transcript_perform {α : Type} (work : Work α) (d : Draft) :
    work.transcript perform d = work.transcript answer d.store := by
  induction work generalizing d with
  | done a => rfl
  | fail e => rfl
  | ask q next ih =>
      obtain ⟨reply, store⟩ := perform_answers q d
      simp only [Work.transcript, ih, reply, store]

/-- In memory no range is refused, and no id is beyond the last ones given. -/
structure Untroubled (log : List Asked) (v : Volatile) : Prop where
  placed : ∀ block time e, ⟨.createRange block time, .error e⟩ ∉ log
  intact : Legible.Intact v

theorem Untroubled.answer {log : List Asked} {v : Volatile} (untroubled : v.Untroubled log)
    (q : Request) : Untroubled (log ++ [⟨q, (answer q v).1⟩]) (Volatile.answer q v).2 := by
  refine ⟨fun block time e mem => ?_, intact_answer untroubled.intact q⟩
  rcases List.mem_append.mp mem with mem | mem
  · exact untroubled.placed block time e mem
  · cases q with
    | createRange block time => cases List.mem_singleton.mp mem
    | _ => cases List.mem_singleton.mp mem

theorem Untroubled.transact {α : Type} {work : Work α} {log : List Asked} {v : Volatile}
    (untroubled : v.Untroubled log) :
    Untroubled (log ++ work.transcript perform (Draft.begin v)) (Volatile.transact work v).2 := by
  have after := @Work.run_keeps _ _ _ (fun _ => True) Untroubled
    (fun _ _ q kept _ => kept.answer q) work _ _ untroubled fun _ _ => trivial
  rw [transcript_perform, transact_onCopy, Work.onCopy]
  rcases ran : work.run Volatile.answer v with ⟨_ | _, copy⟩
  all_goals rw [ran] at after
  · exact ⟨after.placed, untroubled.intact⟩
  · exact after

end Volatile

/-! ## Both stores -/

/-- A store that nothing asked of it breaks. -/
class Enduring (σ : Type) [RangeStore σ] extends Legible σ where
  /-- Ids are left, of both kinds. -/
  HasRoom : σ → Prop
  /-- What a store that was empty once is after some requests. -/
  After : List Asked → σ → Prop
  intact {log : List Asked} {s : σ} : After log s → Legible.Intact s
  full_of_error {log : List Asked} {s : σ} : After log s → ∀ {block time e},
    ⟨.createRange block time, .error e⟩ ∈ log → e = .backend .full
  after_transact {α : Type} {work : Work α} {log : List Asked} {s : σ} : After log s →
    (∀ asked ∈ RangeStore.transcript work s, asked.IsOrdinary) →
      After (log ++ RangeStore.transcript work s) (RangeStore.transact work s).2
  after_sweep {log : List Asked} {s : σ} : After log s → ∀ ttl now,
    After log (RangeStore.deleteExpired ttl now s).2
  hasRoom_of_transact {α : Type} {work : Work α} {s : σ} :
    HasRoom (RangeStore.transact work s).2 → HasRoom s
  hasRoom_of_sweep {s : σ} {ttl : Duration} {now : Instant} :
    HasRoom (RangeStore.deleteExpired ttl now s).2 → HasRoom s
  commit_ok {s : σ} : Legible.Intact s → HasRoom s → ∀ {now : Instant}, ¬ now.IsLeap →
    ∀ f, ∃ committed, (RangeStore.transact (commit f now) s).1 = .ok committed
  /-- What a unit of work asks first is on record. -/
  transcript_ask {α : Type} (q : Request) (next : Except StoreError q.Reply → Work α) (s : σ) :
    ∃ reply rest, RangeStore.transcript (.ask q next) s = ⟨q, reply⟩ :: rest
  replies_ok {α : Type} {work : Work α} {s : σ} {a : α} : work.Strict →
    (RangeStore.transact work s).1 = .ok a →
      ∀ asked ∈ RangeStore.transcript work s, ∃ reply, asked.reply = .ok reply

instance : Enduring Durable where
  HasRoom := Durable.HasRoom
  After log s := Durable.Answered log ∧ s.Recorded (createdAt log)
  intact after := after.2.intact
  full_of_error after := after.1.full_of_error
  after_transact after ordinary := after.2.transact after.1 ordinary
  after_sweep after ttl now := ⟨after.1, after.2.sweep ttl now⟩
  hasRoom_of_transact := Durable.hasRoom_of_transact
  hasRoom_of_sweep room := room
  commit_ok intact room now calm f := by
    obtain ⟨v, means, range_le, -⟩ := Durable.Intact.exists_means intact
    rcases means.transact range_le f now with ⟨stored, -⟩ | ⟨-, cannot⟩
    · exact ⟨_, stored⟩
    · refine absurd ⟨room, ?_⟩ cannot
      exact Instant.ofMillis?_millis_ne_none fun leap => absurd leap calm
  transcript_ask _ _ _ := ⟨_, _, rfl⟩
  replies_ok {_ work s a} strict ended := by
    refine strict.replies_ok (a := a) ?_
    change (Durable.transact work s).1 = _ at ended
    rw [Durable.transact] at ended
    rcases ran : work.run Durable.perform (Durable.Draft.begin s) with ⟨_ | b, d⟩
    all_goals rw [ran] at ended
    · exact ended
    · by_cases abandoned : d.abandoned = true
      · simp [abandoned] at ended
      · simpa [abandoned] using ended

instance : Enduring Volatile where
  HasRoom _ := True
  After log v := v.Untroubled log
  intact after := after.intact
  full_of_error after := fun mem => absurd mem (after.placed _ _ _)
  after_transact after _ := after.transact
  after_sweep after ttl now :=
    ⟨after.placed, fun r mem => after.intact.1 r (List.mem_filter.mp mem).1, after.intact.2⟩
  hasRoom_of_transact _ := trivial
  hasRoom_of_sweep _ := trivial
  commit_ok intact _ now _ f := ⟨_, congrArg Prod.fst (Volatile.transact_commit intact.1 f now)⟩
  transcript_ask _ _ _ := ⟨_, _, rfl⟩
  replies_ok {_ work v a} strict ended := by
    refine strict.replies_ok (a := a) ?_
    change (Volatile.transact work v).1 = _ at ended
    rw [Volatile.transact] at ended
    rcases ran : work.run Volatile.perform (Volatile.Draft.begin v) with ⟨_ | b, d⟩
    all_goals rwa [ran] at ended

end OwnerCache
