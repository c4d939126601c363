/-
# OwnerCache.Proofs.Store.Meaning -- rows that mean ranges

A store of rows that has only been written through its own requests holds, row by
row, what a store in memory could hold: `Durable.Means s v`.  Times are whole
milliseconds there, since rows keep no more.

Each thing the resolver does with a store of rows can then be told in memory:

* the range that wins an address is the same (`Means.bestMatch`);
* storing a finding is `Volatile.register` at a time in whole milliseconds, up to
  an id that is passed over, or it fails for want of an id or of a time and
  changes nothing (`Means.transact`);
* a sweep keeps the ranges that are not older in milliseconds (`Means.sweep`).

`Meaningful` gathers what both stores have of this, so that a property of runs is
proved once for the two.
-/
import OwnerCache.Proofs.Store.Rank
import OwnerCache.Proofs.Store.Register
import OwnerCache.Proofs.Store.Strict
import OwnerCache.Proofs.Time.Whole

namespace OwnerCache

set_option autoImplicit false

/-! ## Rows of ranges -/

namespace Row

/-- The row that keeps a range. -/
def of (r : AddressRange) : Row :=
  ⟨r.id, r.block.first.value, r.block.last.value, r.ownerId, r.createdAt.millis⟩

theorem bound_value (id : Int) (a : Address) : bound id a.value = .ok a := by
  simp [bound, Address.ofInt?, Address.ofNat?, a.value_lt]

/-- The row of a range with a new time means the range at the instant that its milliseconds give. -/
theorem range_mk {id : Int} {block : Block} {ownerId : Option Int} {ms : Int} {time : Instant}
    (kept : Instant.ofMillis? ms = some time) :
    range ⟨id, block.first.value, block.last.value, ownerId, ms⟩ =
      .ok ⟨id, block, ownerId, time⟩ := by
  simp only [range, kept, bound_value]
  rfl

theorem range_of {r : AddressRange} (whole : r.createdAt.IsWholeMillis) :
    (of r).range = .ok r :=
  range_mk whole.ofMillis?_millis

theorem covers_of {r : AddressRange} {a : Address} : (of r).Covers a ↔ a ∈ r.block := by
  simp only [Covers, of, Block.mem_def]
  omega

theorem spans_of {r : AddressRange} {b : Block} : (of r).Spans b ↔ r.block = b := by
  rcases r with ⟨_, ⟨first, last⟩, _, _⟩
  rcases b with ⟨first', last'⟩
  simp only [Spans, of, Block.mk.injEq, Address.ext_iff]
  omega

/-- Ranges that hold an address compete by the same ranks in both forms. -/
theorem rank_of {r : AddressRange} {a : Address} (holds : a ∈ r.block) :
    (of r).rank = Volatile.rank r := by
  have below := r.block.last.value_lt
  rw [Block.mem_def] at holds
  have fits : Wide.Fits ((r.block.last.value : Int) - r.block.first.value) := by
    unfold Wide.Fits
    omega
  have length : (of r).length = r.length := by
    simp only [Row.length, of, AddressRange.length, Block.length, Wide.difference_eq fits]
    split <;> split <;> omega
  simp only [Row.rank, Volatile.rank, length]
  rfl

end Row

namespace Durable

/-- The store of rows that keeps what a store in memory holds. -/
def of (v : Volatile) : Durable := ⟨v.ranges.map Row.of, v.identities, v.lastRangeId, v.lastIdentityId⟩

/-- The rows are those of the ranges of `v`, and nothing of their times is lost. -/
structure Means (s : Durable) (v : Volatile) : Prop where
  eq_of : s = of v
  times : ∀ r ∈ v.ranges, r.createdAt.IsWholeMillis

theorem means_empty : Means {} {} := ⟨rfl, by simp⟩

/-! ## Reading -/

theorem Means.bestMatch {s : Durable} {v : Volatile} (means : s.Means v) (a : Address) :
    s.bestMatch a = .ok (v.bestMatch a) := by
  obtain ⟨rfl, times⟩ := means
  have rows : ((of v).rows.filter fun row => row.Covers a) =
      (v.ranges.filter fun r => a ∈ r.block).map Row.of := by
    simp only [of, List.filter_map, Function.comp_def, Row.covers_of]
  have ranks : ∀ r ∈ v.ranges.filter (fun r => a ∈ r.block), (Row.of r).rank = Volatile.rank r := by
    intro r mem
    exact Row.rank_of (by simpa using (List.mem_filter.mp mem).2)
  rw [Durable.bestMatch, Volatile.bestMatch, rows, Rank.least?_map, Rank.least?_congr ranks]
  cases found : Rank.least? Volatile.rank (v.ranges.filter fun r => a ∈ r.block) with
  | none => rfl
  | some r =>
      have mem : r ∈ v.ranges := (List.mem_filter.mp (Rank.least?_eq_some found).1).1
      simp only [Option.map_some, Row.range_of (times r mem)]
      rfl

/-! ## Storing a finding -/

theorem find?_spans (v : Volatile) (b : Block) :
    (of v).rows.find? (·.Spans b) = (v.ranges.find? (·.block = b)).map Row.of := by
  simp only [of, List.find?_map, Function.comp_def, Row.spans_of]

/-- A range that was just created gets its owner, if the owner is stored. -/
theorem attachOwner_created {v : Volatile} (free : ∀ r ∈ v.ranges, r.id ≠ v.lastRangeId + 1)
    (block : Block) {now : Instant} {time : Instant} (back : Instant.ofMillis? now.millis = some time)
    {owner : Identity} (stored : owner ∈ v.identities) :
    attachOwner (v.lastRangeId + 1) owner.id
        { of v with
          rows := (of v).rows ++
            [⟨v.lastRangeId + 1, block.first.value, block.last.value, none, now.millis⟩]
          lastRangeId := v.lastRangeId + 1 } =
      (.ok (), of (v.place block now.kept owner)) := by
  have known : v.identity? owner.id ≠ none := by
    intro unknown
    simpa using List.find?_eq_none.mp unknown owner stored
  have others : (v.ranges.map Row.of).map (fun row =>
        if row.id = v.lastRangeId + 1 then { row with ownerId := some owner.id } else row) =
      v.ranges.map Row.of := by
    rw [List.map_map]
    refine List.map_congr_left fun r mem => if_neg ?_
    exact free r mem
  refine (if_pos (by simp)).trans ((if_neg known).trans ?_)
  simp only [of, Volatile.place, List.map_append, others, List.map_cons, List.map_nil, Row.of,
    if_true, (Instant.kept_of_ofMillis? back).2]

/-- The identity of a finding is the one known, or else a new one if an id is left. -/
theorem run_identify (f : Whois.Finding) (s : Durable) {v : Volatile}
    (same : s.identities = v.identities) :
    (identify f.description f.country).run answer s =
      match v.known? f with
      | some owner => (.ok (owner, false), s)
      | none =>
        match createIdentity f.description f.country s with
        | (.ok owner, s) => (.ok (owner, true), s)
        | (.error e, s) => (.error e, s) := by
  cases named : f.description with
  | none =>
      simp only [Volatile.known?, named, Option.bind_none, identify]
      rw [Work.run_bind, Work.run_request, answer]
      rcases createIdentity none f.country s with ⟨_ | _, _⟩ <;> rfl
  | some name =>
      have found : findIdentity name f.country s = Volatile.findIdentity name f.country v := by
        rw [findIdentity, same]
        rfl
      simp only [identify, Volatile.known?, named, Option.bind_some]
      rw [Work.run_bind, Work.run_request, answer, found]
      cases Volatile.findIdentity name f.country v with
      | none =>
          simp only
          rw [Work.run_bind, Work.run_request, answer]
          rcases createIdentity (some name) f.country s with ⟨_ | _, _⟩ <;> rfl
      | some owner => rfl

theorem createRange_full {s : Durable} (full : s.lastRangeId = greatestId) (block : Block)
    (now : Instant) : createRange block now s = (.error (.backend .full), s) := if_pos full

/-- A range takes an id even where its block is stored. -/
theorem createRange_stored {v : Volatile} (times : ∀ r ∈ v.ranges, r.createdAt.IsWholeMillis)
    (left : (of v).lastRangeId ≠ greatestId) {block : Block} {range : AddressRange}
    (found : v.ranges.find? (·.block = block) = some range) (now : Instant) :
    createRange block now (of v) =
      (.ok ⟨range, false⟩, of { v with lastRangeId := v.lastRangeId + 1 }) := by
  have means := Row.range_of (times range (List.mem_of_find?_eq_some found))
  refine (if_neg left).trans ?_
  simp only [find?_spans, found, Option.map_some, means]
  rfl

theorem createRange_absent {v : Volatile} (left : (of v).lastRangeId ≠ greatestId) {block : Block}
    (absent : v.ranges.find? (·.block = block) = none) {now time : Instant}
    (back : Instant.ofMillis? now.millis = some time) :
    createRange block now (of v) =
      (.ok ⟨⟨v.lastRangeId + 1, block, none, now.kept⟩, true⟩,
        { of v with
          rows := (of v).rows ++
            [⟨v.lastRangeId + 1, block.first.value, block.last.value, none, now.millis⟩]
          lastRangeId := v.lastRangeId + 1 }) := by
  refine (if_neg left).trans ?_
  simp only [find?_spans, absent, Option.map_none]
  rw [Row.range_mk back, (Instant.kept_of_ofMillis? back).1]
  rfl

/-- A new range whose time does not come back is refused. -/
theorem createRange_untimely {v : Volatile} (left : (of v).lastRangeId ≠ greatestId) {block : Block}
    (absent : v.ranges.find? (·.block = block) = none) {now : Instant}
    (lost : Instant.ofMillis? now.millis = none) :
    ∃ e, (createRange block now (of v)).1 = .error e := by
  refine ⟨.corrupt (.time (v.lastRangeId + 1) now.millis), ?_⟩
  rw [createRange, if_neg left]
  simp only [find?_spans, absent, Option.map_none, Row.range, lost]
  rfl

/-- What storing a finding takes: ids, and a time that comes back from its milliseconds. -/
def CanStore (s : Durable) (now : Instant) : Prop :=
  s.HasRoom ∧ Instant.ofMillis? now.millis ≠ none

/-- What the requests of `commit` come to when they all succeed. -/
def Stores (v : Volatile) (f : Whois.Finding) (now : Instant) : Prop :=
  (commit f now).run answer (of v) =
    (.ok (v.register f now.kept).1,
      of { (v.register f now.kept).2 with lastRangeId := v.lastRangeId + 1 })

theorem stores_stored {v : Volatile} (times : ∀ r ∈ v.ranges, r.createdAt.IsWholeMillis)
    (left : (of v).lastRangeId ≠ greatestId) {f : Whois.Finding} {range : AddressRange}
    (found : v.ranges.find? (·.block = f.block) = some range) (now : Instant) :
    Stores v f now := by
  rw [Stores, commit, Work.run_bind, Work.run_request, answer,
    createRange_stored times left found]
  simp only [Volatile.register, found]
  cases range.ownerId with
  | none => rfl
  | some id => rfl

theorem stores_shared {v : Volatile} (left : (of v).lastRangeId ≠ greatestId)
    (free : ∀ r ∈ v.ranges, r.id ≠ v.lastRangeId + 1) {f : Whois.Finding}
    (absent : v.ranges.find? (·.block = f.block) = none) {now time : Instant}
    (back : Instant.ofMillis? now.millis = some time) {owner : Identity}
    (known : v.known? f = some owner) : Stores v f now := by
  have stored : owner ∈ v.identities := (Volatile.mem_of_known? known).1
  rw [Stores, commit, Work.run_bind, Work.run_request, answer,
    createRange_absent left absent back]
  simp only [if_true]
  rw [Work.run_bind, run_identify f _ (v := v) rfl]
  simp only [Volatile.register, absent, known]
  rw [Work.run_bind, Work.run_request, answer, attachOwner_created free f.block back stored]
  rfl

theorem stores_created {v : Volatile} (left : (of v).lastRangeId ≠ greatestId)
    (left' : (of v).lastIdentityId ≠ greatestId)
    (free : ∀ r ∈ v.ranges, r.id ≠ v.lastRangeId + 1) {f : Whois.Finding}
    (absent : v.ranges.find? (·.block = f.block) = none) {now time : Instant}
    (back : Instant.ofMillis? now.millis = some time) (unknown : v.known? f = none) :
    Stores v f now := by
  let w : Volatile := (Volatile.createIdentity f.description f.country v).2
  have stored : (Volatile.createIdentity f.description f.country v).1 ∈ w.identities := by
    simp [w, Volatile.createIdentity]
  have attached := attachOwner_created (v := w) free f.block back stored
  rw [Stores, commit, Work.run_bind, Work.run_request, answer,
    createRange_absent left absent back]
  simp only [if_true]
  rw [Work.run_bind, run_identify f _ (v := v) rfl]
  simp only [Volatile.register, absent, unknown, createIdentity]
  rw [if_neg left']
  simp only [w, Volatile.createIdentity, of] at attached ⊢
  rw [Work.run_bind, Work.run_request, answer, attached]
  rfl

/-- The requests of the unit of work, answered one after the other: they all succeed, or it cannot
store. -/
theorem run_commit {v : Volatile} (times : ∀ r ∈ v.ranges, r.createdAt.IsWholeMillis)
    (bounded : ∀ r ∈ v.ranges, r.id ≤ v.lastRangeId) (f : Whois.Finding) (now : Instant) :
    Stores v f now ∨
      (∃ e, ((commit f now).run answer (of v)).1 = .error e) ∧ ¬ (of v).CanStore now := by
  by_cases left : (of v).lastRangeId = greatestId
  · refine .inr ⟨⟨.backend .full, ?_⟩, fun can => absurd left (Int.ne_of_lt can.1.1)⟩
    rw [commit, Work.run_bind, Work.run_request, answer, createRange_full left]
  cases found : v.ranges.find? (·.block = f.block) with
  | some range => exact .inl (stores_stored times left found now)
  | none =>
      cases back : Instant.ofMillis? now.millis with
      | none =>
          obtain ⟨e, refused⟩ := createRange_untimely left found back
          refine .inr ⟨⟨e, ?_⟩, fun can => can.2 back⟩
          rw [commit, Work.run_bind, Work.run_request, answer]
          rcases asked : createRange f.block now (of v) with ⟨result, store⟩
          rw [asked] at refused
          subst refused
          rfl
      | some time =>
          have free : ∀ r ∈ v.ranges, r.id ≠ v.lastRangeId + 1 := by
            intro r mem
            have := bounded r mem
            omega
          cases known : v.known? f with
          | some owner => exact .inl (stores_shared left free found back known)
          | none =>
              by_cases full : (of v).lastIdentityId = greatestId
              · refine .inr ⟨⟨.backend .full, ?_⟩, fun can => absurd full (Int.ne_of_lt can.1.2)⟩
                rw [commit, Work.run_bind, Work.run_request, answer,
                  createRange_absent left found back]
                simp only [if_true]
                rw [Work.run_bind, run_identify f _ (v := v) rfl, known]
                simp only [createIdentity]
                rw [if_pos full]
              · exact .inl (stores_created left full free found back known)

theorem register_times {v : Volatile} (times : ∀ r ∈ v.ranges, r.createdAt.IsWholeMillis)
    (f : Whois.Finding) {now : Instant} (whole : now.IsWholeMillis) :
    ∀ r ∈ (v.register f now).2.ranges, r.createdAt.IsWholeMillis := by
  refine Volatile.register_cases (motive := fun _ v => ∀ r ∈ v.ranges, r.createdAt.IsWholeMillis) f
    now v (fun _ _ _ => times) ?_ ?_
  · intro _ owner _
    exact Volatile.forall_mem_place times whole
  · intro _ _
    exact Volatile.forall_mem_place times whole

/-- Storing a finding succeeds as it does in memory, at the time that is kept, or cannot be done
and changes nothing. -/
theorem Means.transact {s : Durable} {v : Volatile} (means : s.Means v)
    (bounded : ∀ r ∈ v.ranges, r.id ≤ v.lastRangeId) (f : Whois.Finding) (now : Instant) :
    (s.transact (commit f now)).1 = .ok (v.register f now.kept).1 ∧
        (s.transact (commit f now)).2.Means
          { (v.register f now.kept).2 with lastRangeId := v.lastRangeId + 1 } ∨
      (∃ e, s.transact (commit f now) = (.error e, s)) ∧ ¬ s.CanStore now := by
  obtain ⟨rfl, times⟩ := means
  rw [transact_onCopy (commit_strict f now), Work.onCopy]
  rcases run_commit times bounded f now with stores | ⟨⟨e, failed⟩, cannot⟩
  · rw [stores]
    exact .inl ⟨rfl, rfl, register_times times f now.kept_isWholeMillis⟩
  · rcases ran : (commit f now).run answer (of v) with ⟨result, store⟩
    rw [ran] at failed
    subst failed
    exact .inr ⟨⟨e, rfl⟩, cannot⟩

/-! ## Expiry -/

/-- The ranges that a sweep of rows keeps: those not older than the cutoff in milliseconds. -/
def isKept (ttl : Duration) (now : Instant) (r : AddressRange) : Bool :=
  (Instant.cutoff ttl now).millis ≤ r.createdAt.millis

theorem deleteExpired_of (v : Volatile) (ttl : Duration) (now : Instant) :
    (of v).deleteExpired ttl now =
      (v.ranges.length - (v.keep (isKept ttl now)).ranges.length, of (v.keep (isKept ttl now))) := by
  have rows : ((of v).rows.filter fun row => (Instant.cutoff ttl now).millis ≤ row.createdAt) =
      (v.keep (isKept ttl now)).ranges.map Row.of := by
    simp only [of, List.filter_map, Function.comp_def, Row.of, Volatile.keep]
    rfl
  simp only [deleteExpired, rows, List.length_map]
  simp only [of, List.length_map]
  rfl

theorem Means.sweep {s : Durable} {v : Volatile} (means : s.Means v) (ttl : Duration)
    (now : Instant) :
    (s.deleteExpired ttl now).1 = v.ranges.length - (v.keep (isKept ttl now)).ranges.length ∧
      (s.deleteExpired ttl now).2.Means (v.keep (isKept ttl now)) := by
  obtain ⟨rfl, times⟩ := means
  rw [deleteExpired_of]
  exact ⟨rfl, rfl, fun r mem => times r (List.mem_filter.mp mem).1⟩

end Durable

/-! ## Both stores -/

namespace Volatile

/-- What comes of storing a finding: nothing, with an error, or what `register` says at some time.
Ids may be passed over. -/
inductive Stored (f : Whois.Finding) (v : Volatile) : Except StoreError Committed → Volatile → Prop
  | refused (e : StoreError) : Stored f v (.error e) v
  | registered (time : Instant) (id : Int) (le : (v.register f time).2.lastRangeId ≤ id) :
      Stored f v (.ok (v.register f time).1) { (v.register f time).2 with lastRangeId := id }

theorem register_lastRangeId_le (f : Whois.Finding) (now : Instant) (v : Volatile) :
    (v.register f now).2.lastRangeId ≤ v.lastRangeId + 1 :=
  register_cases (motive := fun _ w => w.lastRangeId ≤ v.lastRangeId + 1) f now v
    (fun _ _ _ => by omega) (fun _ _ _ => Int.le_refl _) (fun _ _ => Int.le_refl _)

end Volatile

/-- A store whose states can mean stores in memory, and which does as they do. -/
class Meaningful (σ : Type) [RangeStore σ] where
  Means : σ → Volatile → Prop
  bestMatch {s : σ} {v : Volatile} : Means s v → ∀ a, RangeStore.bestMatch s a = .ok (v.bestMatch a)
  transact {s : σ} {v : Volatile} : Means s v → (∀ r ∈ v.ranges, r.id ≤ v.lastRangeId) →
    ∀ f now, ∃ v', v.Stored f (RangeStore.transact (commit f now) s).1 v' ∧
      Means (RangeStore.transact (commit f now) s).2 v'
  deleteExpired {s : σ} {v : Volatile} : Means s v → ∀ ttl now, ∃ test,
    Means (RangeStore.deleteExpired ttl now s).2 (v.keep test)

instance : Meaningful Volatile where
  Means s v := s = v
  bestMatch := by
    rintro s _ rfl a
    rfl
  transact := by
    rintro s _ rfl bounded f now
    have stored := Volatile.transact_commit bounded f now
    refine ⟨_, ?_, rfl⟩
    rw [show RangeStore.transact (commit f now) s = _ from stored]
    exact .registered now _ (Int.le_refl _)
  deleteExpired := by
    rintro s _ rfl ttl now
    exact ⟨fun r => r.IsFresh ttl now, rfl⟩

instance : Meaningful Durable where
  Means := Durable.Means
  bestMatch means a := means.bestMatch a
  transact := by
    intro s v means bounded f now
    rcases means.transact bounded f now with ⟨stored, after⟩ | ⟨⟨e, failed⟩, -⟩
    · refine ⟨_, ?_, after⟩
      rw [show (RangeStore.transact (commit f now) s).1 = _ from stored]
      exact .registered now.kept _ (Volatile.register_lastRangeId_le f now.kept v)
    · refine ⟨v, ?_, ?_⟩
      · rw [show RangeStore.transact (commit f now) s = _ from failed]
        exact .refused e
      · rw [show RangeStore.transact (commit f now) s = _ from failed]
        exact means
  deleteExpired means ttl now := ⟨_, (means.sweep ttl now).2⟩

end OwnerCache
