/-
# OwnerCache.Proofs.Resolver.Agreement -- memory and rows under one schedule

Take one schedule on an empty store in memory and on an empty store of rows.  Rows
keep times in milliseconds and run out of ids, so times and times to live are
whole milliseconds and at the end ids are left.  Milliseconds do not tell a leap
second from the second after it, so nothing is created in a leap second and no
cutoff is in one.  Then nothing that is seen of the two runs differs, and no store
ever answers with an error (`run_agrees`).  With leap seconds runs may differ
(`trace_leap`).

The relation between the two worlds is `Agree`: the calls are the same, and the
rows mean ranges that are those in memory but for their ids, since a request for a
range takes an id of the rows even if the range is stored.  Each step keeps it
(`Agree.step`), and what is seen of each step is the same (`Agree.sight`).
-/
import OwnerCache.Proofs.Resolver.Invariant
import OwnerCache.Proofs.Store.Alike
import OwnerCache.Proofs.Time.Cutoff

namespace OwnerCache

set_option autoImplicit false

/-! ## Stores -/

/-- The rows mean ranges that are those in memory but for their ids, which grow in both. -/
def Durable.Mirrors (s : Durable) (m : Volatile) : Prop :=
  ∃ v, s.Means v ∧ v.Numbered ∧ m.Numbered ∧ v.Alike m

namespace Durable.Mirrors

variable {s : Durable} {m : Volatile}

theorem empty : Mirrors {} {} :=
  ⟨{}, means_empty, Volatile.numbered_empty, Volatile.numbered_empty, Volatile.alike_self {}⟩

theorem matchAddress (mirrors : s.Mirrors m) (a : Address) :
    matchAddress m a = OwnerCache.matchAddress s a := by
  obtain ⟨v, means, numbered, numbered', alike⟩ := mirrors
  have same := alike.bestMatch numbered numbered' a
  have inRows : RangeStore.bestMatch s a = .ok (v.bestMatch a) := means.bestMatch a
  have inMemory : RangeStore.bestMatch m a = .ok (m.bestMatch a) := rfl
  rw [OwnerCache.matchAddress, OwnerCache.matchAddress, inRows, inMemory]
  cases won : v.bestMatch a with
  | none =>
      rw [won] at same
      rw [Option.map_eq_none_iff.mp same.symm]
  | some found =>
      rw [won] at same
      obtain ⟨found', won', pair⟩ := Option.map_eq_some_iff.mp same.symm
      rw [won']
      exact congrArg Except.ok pair

theorem readCache (mirrors : s.Mirrors m) (accepted : Nat) (a : Address) :
    readCache accepted m a = OwnerCache.readCache accepted s a := by
  rw [OwnerCache.readCache, OwnerCache.readCache, mirrors.matchAddress]

theorem counts (mirrors : s.Mirrors m) :
    RangeStore.rangeCount m = RangeStore.rangeCount s ∧
      RangeStore.identityCount m = RangeStore.identityCount s := by
  obtain ⟨v, ⟨rfl, -⟩, -, -, alike⟩ := mirrors
  constructor
  · change m.ranges.length = (v.ranges.map Row.of).length
    rw [List.length_map, alike.length]
  · change m.identities.length = v.identities.length
    rw [alike.identities]

/-- Storing a finding at a whole millisecond gives the same resolution. -/
theorem transact (mirrors : s.Mirrors m) (f : Whois.Finding) {now : Instant}
    (whole : now.IsWholeMillis) (room : (s.transact (commit f now)).2.HasRoom) :
    (m.transact (commit f now)).1.map (·.resolution) =
        (s.transact (commit f now)).1.map (·.resolution) ∧
      (s.transact (commit f now)).2.Mirrors (m.transact (commit f now)).2 := by
  obtain ⟨v, means, numbered, numbered', alike⟩ := mirrors
  have can : s.CanStore now :=
    ⟨hasRoom_of_transact room, by rw [whole.ofMillis?_millis]; simp⟩
  obtain ⟨stored, after⟩ := (means.transact numbered.range_le f now).resolve_right
    fun cannot => cannot.2 can
  rw [whole.kept_eq] at stored after
  obtain ⟨same, alike'⟩ := alike.register f now
  have numberedAfter := (numbered.register f now).skip (Volatile.register_lastRangeId_le f now v)
  rw [Volatile.transact_commit numbered'.range_le f now, stored]
  exact ⟨congrArg Except.ok same.symm, _, after, numberedAfter, numbered'.register f now,
    alike'.skip _⟩

/-- A sweep whose cutoff is at a whole millisecond deletes as many. -/
theorem sweep (mirrors : s.Mirrors m) {ttl : Duration} {now : Instant}
    (cutoff : (Instant.cutoff ttl now).IsWholeMillis) :
    (m.deleteExpired ttl now).1 = (s.deleteExpired ttl now).1 ∧
      (s.deleteExpired ttl now).2.Mirrors (m.deleteExpired ttl now).2 := by
  obtain ⟨v, means, numbered, numbered', alike⟩ := mirrors
  obtain ⟨count, after⟩ := means.sweep ttl now
  have fresh : v.keep (isKept ttl now) = v.keep fun r => r.IsFresh ttl now := by
    have same : ∀ r ∈ v.ranges, isKept ttl now r = decide (r.IsFresh ttl now) := by
      intro r mem
      exact decide_eq_decide.mpr (cutoff.le_iff_millis_le (means.times r mem)).symm
    simp only [Volatile.keep, List.filter_congr same]
  rw [fresh] at count after
  have alike' := alike.keep (fun r => r.IsFresh ttl now) fun _ => rfl
  refine ⟨?_, _, after, numbered.keep _, numbered'.keep _, alike'⟩
  rw [count, alike.length, alike'.length]
  rfl

/-- What rows and memory have in common. -/
theorem rows (mirrors : s.Mirrors m) :
    s.identities = m.identities ∧ ∃ v, s.Means v ∧ SameButIds v.ranges m.ranges := by
  obtain ⟨v, means, numbered, numbered', alike⟩ := mirrors
  refine ⟨?_, v, means, alike.sameButIds numbered numbered'⟩
  rw [means.eq_of]
  exact alike.identities

end Durable.Mirrors

namespace Schedule

/-! ## Calls -/

namespace Call

variable {s : Durable} {m : Volatile}

theorem begin_agrees (mirrors : s.Mirrors m) (policy : Policy) (a : Address) :
    begin policy a m = begin policy a s := by
  rw [begin, begin, mirrors.readCache]

theorem conclude_agrees (mirrors : s.Mirrors m) (a : Address) (fallback : Option Identity)
    (found : Except Whois.Error Whois.Finding) {now : Instant} (whole : now.IsWholeMillis)
    (room : (conclude a fallback found now s).store.HasRoom) :
    (conclude a fallback found now m).result = (conclude a fallback found now s).result ∧
      (conclude a fallback found now s).store.Mirrors (conclude a fallback found now m).store := by
  cases found with
  | error cause => exact ⟨rfl, mirrors⟩
  | ok f =>
      rw [conclude_store] at room
      rw [conclude_result, conclude_result, conclude_store, conclude_store]
      exact mirrors.transact f whole room

/-- A call that ends comes to the same on both stores. -/
theorem finish_agrees (mirrors : s.Mirrors m) (c : Call) {now : Instant}
    (whole : now.IsWholeMillis) (room : (c.finish now s).2.HasRoom) :
    (c.finish now m).1 = (c.finish now s).1 ∧
      (c.finish now s).2.Mirrors (c.finish now m).2 := by
  unfold finish at *
  split at room
  · rename_i reading found progress
    obtain ⟨same, after⟩ := conclude_agrees mirrors c.address reading.fallback found whole room
    simp only [same]
    exact ⟨trivial, after⟩
  · exact ⟨rfl, mirrors⟩

end Call

/-! ## Worlds -/

/-- Times and times to live of a step are whole milliseconds, in leap seconds or outside. -/
def Step.IsWhole : Step → Prop
  | .finish _ now => now.IsRound
  | .sweep ttl now => ttl.IsWholeMillis ∧ now.IsRound
  | _ => True

/-- Neither what a step creates nor the cutoff of its sweep is in a leap second. -/
def Step.IsCalm : Step → Prop
  | .finish _ now => ¬ now.IsLeap
  | .sweep ttl now => ¬ (Instant.cutoff ttl now).IsLeap
  | _ => True

/-- The calls have come equally far, and the rows are those of the ranges in memory. -/
structure Agree (W : World Volatile) (w : World Durable) : Prop where
  calls : W.calls = w.calls
  stores : w.store.Mirrors W.store

theorem hasRoom_of_step {w : World Durable} (step : Step) (room : (w.step step).store.HasRoom) :
    w.store.HasRoom := by
  rcases step_store w step with same | ⟨c, -, reading, f, now, -, after⟩ | ⟨ttl, now, after⟩
  · rwa [same] at room
  · rw [after] at room
    exact Durable.hasRoom_of_transact room
  · rw [after] at room
    exact room

/-- Ids that are left at the end of a run were left all along. -/
theorem hasRoom_of_run {w : World Durable} (steps : List Step)
    (room : (w.run steps).store.HasRoom) : w.store.HasRoom := by
  induction steps generalizing w with
  | nil => exact room
  | cons step steps ih => exact hasRoom_of_step step (ih room)

namespace Agree

variable {W : World Volatile} {w : World Durable}

theorem step (agree : Agree W w) {step : Step} (whole : step.IsWhole) (calm : step.IsCalm)
    (room : (w.step step).store.HasRoom) : Agree (W.step step) (w.step step) := by
  obtain ⟨calls, stores⟩ := agree
  cases step with
  | begin policy a =>
      refine ⟨?_, stores⟩
      simp only [World.step, calls, Call.begin_agrees stores]
  | answer i reply =>
      refine ⟨?_, stores⟩
      simp only [World.step, calls]
  | finish i now =>
      simp only [World.step, calls] at room ⊢
      cases called : w.calls[i]? with
      | none => exact ⟨calls, stores⟩
      | some c =>
          rw [called] at room
          have whole := Instant.isWholeMillis_iff.mpr ⟨whole, calm⟩
          obtain ⟨same, after⟩ := Call.finish_agrees stores c whole room
          exact ⟨by simp only [same], after⟩
  | sweep ttl now =>
      have cutoff := Instant.cutoff_isWholeMillis whole.1 whole.2 calm
      exact ⟨calls, (stores.sweep cutoff).2⟩
  | look a => exact ⟨calls, stores⟩

/-- What is seen of a step is the same. -/
theorem sight (agree : Agree W w) {step : Step} (whole : step.IsWhole) (calm : step.IsCalm)
    (room : (w.step step).store.HasRoom) : W.sight step = w.sight step := by
  obtain ⟨calls, stores⟩ := agree
  cases step with
  | begin policy a => simp only [World.sight, Call.begin_agrees stores]
  | answer i reply => rfl
  | finish i now =>
      simp only [World.step, World.sight, calls] at room ⊢
      cases called : w.calls[i]? with
      | none => rfl
      | some c =>
          rw [called] at room
          have whole := Instant.isWholeMillis_iff.mpr ⟨whole, calm⟩
          simp only [(Call.finish_agrees stores c whole room).1]
  | sweep ttl now =>
      have cutoff := Instant.cutoff_isWholeMillis whole.1 whole.2 calm
      exact congrArg (fun n => Sight.deleted (.ok n)) (stores.sweep cutoff).1
  | look a => exact congrArg Sight.found (stores.matchAddress a)

end Agree

/-- No error of a store is seen. -/
def Sight.IsAnswer : Sight → Prop
  | .returned (.error _) => False
  | .deleted (.error _) => False
  | .found (.error (.store _)) => False
  | _ => True

theorem matchAddress_isAnswer (m : Volatile) (a : Address) :
    (Sight.found (matchAddress m a)).IsAnswer := by
  have read : RangeStore.bestMatch m a = .ok (m.bestMatch a) := rfl
  rw [matchAddress, read]
  cases m.bestMatch a <;> trivial

theorem begin_isAnswer (m : Volatile) (policy : Policy) (a : Address) :
    (Sight.ofResult? (Call.begin policy a m).result?).IsAnswer := by
  have read : RangeStore.bestMatch m a = .ok (m.bestMatch a) := rfl
  rw [Call.begin, readCache, matchAddress, read]
  cases m.bestMatch a with
  | none => trivial
  | some found =>
      by_cases short : found.length ≤ policy.settings.acceptedLength
      · simp only [short, if_true]
        trivial
      · simp only [short, if_false]
        trivial

theorem finish_isAnswer {m : Volatile} (bounded : ∀ r ∈ m.ranges, r.id ≤ m.lastRangeId) {c : Call}
    (under : c.result?.isSome = false) (now : Instant) :
    (Sight.ofResult? (c.finish now m).1.result?).IsAnswer := by
  cases progress : c.progress with
  | lookingUp reading => simp [Call.finish, Call.result?, progress, Sight.ofResult?, Sight.IsAnswer]
  | returned found result => simp [Call.result?, progress] at under
  | informed reading found =>
      simp only [Call.finish, progress, Call.result?, Sight.ofResult?]
      cases found with
      | error cause => trivial
      | ok f =>
          have stored : RangeStore.transact (commit f now) m = _ :=
            Volatile.transact_commit bounded f now
          rw [conclude_result, stored]
          trivial

/-- A store in memory whose ids are bounded always answers. -/
theorem sight_isAnswer (W : World Volatile)
    (bounded : ∀ r ∈ W.store.ranges, r.id ≤ W.store.lastRangeId) (step : Step) :
    (W.sight step).IsAnswer := by
  cases step with
  | begin policy a => exact begin_isAnswer W.store policy a
  | answer i reply => trivial
  | finish i now =>
      simp only [World.sight]
      cases W.calls[i]? with
      | none => trivial
      | some c =>
          by_cases ended : c.result?.isSome
          · simp only [ended, if_true]
            trivial
          · simp only [ended]
            exact finish_isAnswer bounded (by simpa using ended) now
  | sweep ttl now => trivial
  | look a => exact matchAddress_isAnswer W.store a

theorem Agree.trace {W : World Volatile} {w : World Durable} (agree : Agree W w) {steps : List Step}
    (whole : ∀ step ∈ steps, step.IsWhole) (calm : ∀ step ∈ steps, step.IsCalm)
    (room : (w.run steps).store.HasRoom) :
    W.trace steps = w.trace steps ∧ (∀ seen ∈ W.trace steps, seen.sight.IsAnswer) ∧
      Agree (W.run steps) (w.run steps) := by
  induction steps generalizing W w with
  | nil => exact ⟨rfl, by simp [World.trace], agree⟩
  | cons step steps ih =>
      have left : (w.step step).store.HasRoom := hasRoom_of_run steps room
      obtain ⟨whole', whole⟩ := List.forall_mem_cons.mp whole
      obtain ⟨calm', calm⟩ := List.forall_mem_cons.mp calm
      have after := agree.step whole' calm' left
      obtain ⟨rest, answers, final⟩ := ih after whole calm room
      obtain ⟨ranges, identities⟩ := after.stores.counts
      refine ⟨?_, ?_, final⟩
      · simp only [World.trace, agree.sight whole' calm' left, ranges, identities, rest]
      · intro seen mem
        rcases List.mem_cons.mp mem with rfl | mem
        · obtain ⟨v, -, -, numbered, -⟩ := agree.stores
          exact sight_isAnswer W numbered.range_le step
        · exact answers seen mem

/-- **Memory and rows agree under every schedule** in whole milliseconds, leap seconds aside, that
leaves ids.  The same is seen of both, answers and no errors; identities are the same, and rows mean
the same ranges but for their ids, which are in the same order. -/
theorem run_agrees {steps : List Step} (whole : ∀ step ∈ steps, step.IsWhole)
    (calm : ∀ step ∈ steps, step.IsCalm) (room : (asRows steps).store.HasRoom) :
    World.trace ⟨({} : Volatile), []⟩ steps = World.trace ⟨({} : Durable), []⟩ steps ∧
      (∀ seen ∈ World.trace ⟨({} : Volatile), []⟩ steps, seen.sight.IsAnswer) ∧
      (asRows steps).store.identities = (inMemory steps).store.identities ∧
      ∃ v, (asRows steps).store.Means v ∧ SameButIds v.ranges (inMemory steps).store.ranges := by
  have start : Agree ⟨{}, []⟩ ⟨{}, []⟩ := ⟨rfl, .empty⟩
  obtain ⟨same, answers, final⟩ := start.trace whole calm room
  obtain ⟨identities, ranges⟩ := final.stores.rows
  exact ⟨same, answers, identities, ranges⟩

/-- Two calls for one address that overlap, a third for another, a look and a sweep in the leap
second at the end of 2016, whose cutoff is a minute earlier: the second call takes an id of the rows
for nothing. -/
theorem run_agrees_overlapping :
    let policy : Policy := ⟨{}, fun _ => some "Private"⟩
    let near : Address := ⟨7, by decide⟩
    let far : Address := ⟨9, by decide⟩
    let now : Instant := ⟨1483228741, 0, by decide, by decide, by decide, by decide⟩
    let leap : Instant := ⟨1483228799, 1500000000, by decide, by decide, by decide, by decide⟩
    let steps : List Step :=
      [.begin policy near, .begin policy near, .answer 1 .silence, .answer 0 .silence,
        .finish 0 now, .finish 1 now, .begin policy far, .answer 2 .silence,
        .finish 2 now, .look near, .sweep (.ofSeconds 60) leap]
    (∀ step ∈ steps, step.IsWhole) ∧ (∀ step ∈ steps, step.IsCalm) ∧
      (asRows steps).store.HasRoom ∧
      World.trace ⟨({} : Volatile), []⟩ steps = World.trace ⟨({} : Durable), []⟩ steps ∧
      (∃ v, (asRows steps).store.Means v ∧ SameButIds v.ranges (inMemory steps).store.ranges) ∧
      (inMemory steps).store.ranges.map (·.id) = [1, 2] ∧
      (asRows steps).store.rows.map (·.id) = [1, 3] := by
  intro policy near far now leap steps
  have whole : ∀ step ∈ steps, step.IsWhole := by
    have round : now.IsRound ∧ leap.IsRound := by decide
    simp [steps, Step.IsWhole, round, Duration.IsWholeMillis, Duration.ofSeconds]
  have calm : ∀ step ∈ steps, step.IsCalm := by
    have calm : ¬ now.IsLeap ∧ ¬ (Instant.cutoff (.ofSeconds 60) leap).IsLeap := by decide
    simp [steps, Step.IsCalm, calm]
  have room : (asRows steps).store.HasRoom := ⟨by decide, by decide⟩
  obtain ⟨same, -, -, ranges⟩ := run_agrees whole calm room
  exact ⟨whole, calm, room, same, ranges, by decide, by decide⟩

/-- In the leap second at the end of 2016 memory and rows differ.  A range created in the second
after it is fresh for a sweep in it, which leaves it in memory and deletes its row; and a range
created in it is kept as one created in the second after it. -/
theorem trace_leap :
    let policy : Policy := ⟨{}, fun _ => some "Private"⟩
    let leap : Instant := ⟨1483228799, 1500000000, by decide, by decide, by decide, by decide⟩
    let later : Instant := ⟨1483228800, 200000000, by decide, by decide, by decide, by decide⟩
    let created (now : Instant) : List Step :=
      [.begin policy ⟨7, by decide⟩, .answer 0 .silence, .finish 0 now]
    let swept : List Step := created later ++ [.sweep ⟨0⟩ leap]
    ((∀ step ∈ swept, step.IsWhole) ∧ (asRows swept).store.HasRoom ∧
      World.trace ⟨({} : Volatile), []⟩ swept ≠ World.trace ⟨({} : Durable), []⟩ swept) ∧
    (∀ step ∈ created leap, step.IsWhole) ∧ (asRows (created leap)).store.HasRoom ∧
      ¬ ∃ v, (asRows (created leap)).store.Means v ∧
        SameButIds v.ranges (inMemory (created leap)).store.ranges := by
  intro policy leap later created swept
  have round : leap.IsRound ∧ later.IsRound := by decide
  refine ⟨⟨?_, ⟨by decide, by decide⟩, ?_⟩, ?_, ⟨by decide, by decide⟩, ?_⟩
  · simp [swept, created, Step.IsWhole, round, Duration.IsWholeMillis]
  · intro same
    have counts := congrArg (List.map (·.ranges)) same
    revert counts
    decide
  · simp [created, Step.IsWhole, round]
  · rintro ⟨v, means, same⟩
    have times : v.ranges.map (·.createdAt) = [leap] := by
      have times := congrArg (List.map (·.createdAt)) same.rest
      rw [List.map_map, List.map_map] at times
      exact times.trans (by decide)
    obtain ⟨r, mem, here⟩ := List.mem_map.mp (times ▸ List.mem_singleton_self leap)
    have calm : ¬ leap.IsLeap := here ▸ (means.times r mem).not_isLeap
    exact calm (by decide)

end Schedule

end OwnerCache
