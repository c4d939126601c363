/-
# OwnerCache.Proofs.Resolver.Invariant -- what every schedule keeps

A step of a schedule changes the store in two ways only: a call that has a
finding stores it, or a sweep deletes (`step_store`).  A finding that a call holds
came from a lookup for its address under its own policy, however long ago
(`Call.IsHonest`), so a store changes only by findings that some policy could give
(`Answers`).

`run_invariant` packs the induction over schedules.  A property of stores in
memory that storing such a finding and deleting ranges keep holds of what either
store means after every schedule; from empty stores these are `inMemory_has` and
`asRows_has`.
-/
import OwnerCache.Proofs.Store.Meaning
import OwnerCache.Resolver.Schedule

namespace OwnerCache.Schedule

set_option autoImplicit false

variable {σ : Type} [RangeStore σ]

/-- What a lookup under one of the policies can find. -/
def Answers (allowed : Policy → Prop) (f : Whois.Finding) : Prop :=
  ∃ policy a reply, allowed policy ∧ lookedUp policy a reply = .ok f

/-- A schedule whose calls are under certain policies. -/
def Under (allowed : Policy → Prop) (steps : List Step) : Prop :=
  ∀ policy a, .begin policy a ∈ steps → allowed policy

/-! ## Calls -/

/-- What a call has learned is what its policy makes of a reply. -/
structure Call.IsHonest (allowed : Policy → Prop) (c : Call) : Prop where
  policy : allowed c.policy
  found : ∀ reading f, c.progress = .informed reading (.ok f) →
    ∃ reply, lookedUp c.policy c.address reply = .ok f

namespace Call.IsHonest

variable {allowed : Policy → Prop} {c : Call}

theorem begin {policy : Policy} (a : Address) (s : σ) (h : allowed policy) :
    (Call.begin policy a s).IsHonest allowed := by
  refine ⟨h, ?_⟩
  intro reading f informed
  simp only [Call.begin] at informed
  split at informed <;> cases informed

theorem answer (honest : c.IsHonest allowed) (reply : Reply) :
    (c.answer reply).IsHonest allowed := by
  unfold Call.answer
  split
  · refine ⟨honest.policy, ?_⟩
    intro reading f informed
    exact ⟨reply, (Progress.informed.inj informed).2⟩
  · exact honest

theorem finish (honest : c.IsHonest allowed) (now : Instant) (s : σ) :
    (c.finish now s).1.IsHonest allowed := by
  unfold Call.finish
  split
  · exact ⟨honest.policy, fun _ _ informed => nomatch informed⟩
  · exact honest

end Call.IsHonest

/-- All calls of a world are honest. -/
def World.IsHonest (allowed : Policy → Prop) (w : World σ) : Prop :=
  ∀ c ∈ w.calls, c.IsHonest allowed

theorem mem_modify {α : Type} {f : α → α} {xs : List α} {i : Nat} {y : α} (mem : y ∈ xs.modify i f) :
    ∃ x ∈ xs, y = x ∨ y = f x := by
  induction xs generalizing i with
  | nil => simp at mem
  | cons x xs ih =>
      cases i with
      | zero =>
          rcases List.mem_cons.mp (by simpa using mem) with rfl | mem
          · exact ⟨x, by simp, .inr rfl⟩
          · exact ⟨y, by simp [mem], .inl rfl⟩
      | succ i =>
          rcases List.mem_cons.mp (by simpa using mem) with rfl | mem
          · exact ⟨y, by simp, .inl rfl⟩
          · obtain ⟨z, hz, same⟩ := ih mem
            exact ⟨z, by simp [hz], same⟩

theorem World.IsHonest.step {allowed : Policy → Prop} {w : World σ} (honest : w.IsHonest allowed)
    {step : Step} (under : ∀ policy a, step = .begin policy a → allowed policy) :
    (w.step step).IsHonest allowed := by
  intro c mem
  cases step with
  | begin policy a =>
      rcases List.mem_append.mp mem with mem | mem
      · exact honest c mem
      · obtain rfl := List.mem_singleton.mp mem
        exact .begin a w.store (under policy a rfl)
  | answer i reply =>
      obtain ⟨c', mem', rfl | rfl⟩ := mem_modify mem
      · exact honest c mem'
      · exact (honest c' mem').answer reply
  | finish i now =>
      simp only [World.step] at mem
      split at mem
      · rename_i c' called
        rcases List.mem_or_eq_of_mem_set mem with mem | rfl
        · exact honest c mem
        · exact (honest c' (List.mem_of_getElem? called)).finish now w.store
      · exact honest c mem
  | sweep ttl now => exact honest c mem
  | look a => exact honest c mem

/-! ## The store -/

theorem conclude_store (a : Address) (fallback : Option Identity) (f : Whois.Finding) (now : Instant)
    (s : σ) :
    (conclude a fallback (.ok f) now s).store = (RangeStore.transact (commit f now) s).2 := by
  rw [conclude]
  rcases RangeStore.transact (commit f now) s with ⟨_ | _, _⟩ <;> rfl

theorem conclude_result (a : Address) (fallback : Option Identity) (f : Whois.Finding)
    (now : Instant) (s : σ) :
    (conclude a fallback (.ok f) now s).result =
      (RangeStore.transact (commit f now) s).1.map (·.resolution) := by
  rw [conclude]
  rcases RangeStore.transact (commit f now) s with ⟨_ | _, _⟩ <;> rfl

/-- All that a step can do to the store. -/
theorem step_store (w : World σ) (step : Step) :
    (w.step step).store = w.store ∨
      (∃ c ∈ w.calls, ∃ reading f now, c.progress = .informed reading (.ok f) ∧
        (w.step step).store = (RangeStore.transact (commit f now) w.store).2) ∨
      ∃ ttl now, (w.step step).store = (RangeStore.deleteExpired ttl now w.store).2 := by
  cases step with
  | begin policy a => exact .inl rfl
  | answer i reply => exact .inl rfl
  | finish i now =>
      cases called : w.calls[i]? with
      | none => exact .inl (by simp [World.step, called])
      | some c =>
          have mem : c ∈ w.calls := List.mem_of_getElem? called
          cases progress : c.progress with
          | lookingUp reading => exact .inl (by simp [World.step, called, Call.finish, progress])
          | returned found result =>
              exact .inl (by simp [World.step, called, Call.finish, progress])
          | informed reading found =>
              cases found with
              | error cause =>
                  exact .inl (by simp [World.step, called, Call.finish, progress, conclude])
              | ok f =>
                  refine .inr (.inl ⟨c, mem, reading, f, now, progress, ?_⟩)
                  simp only [World.step, called, Call.finish, progress, conclude_store]
  | sweep ttl now => exact .inr (.inr ⟨ttl, now, rfl⟩)
  | look a => exact .inl rfl

/-- A property of stores in memory that the steps of a schedule keep. -/
structure Kept (allowed : Policy → Prop) (P : Volatile → Prop) : Prop where
  stored : ∀ {v v' : Volatile} {f : Whois.Finding} {result : Except StoreError Committed},
    v.Numbered → P v → Answers allowed f → v.Stored f result v' → P v'
  swept : ∀ {v : Volatile}, P v → ∀ test, P (v.keep test)

theorem numbered_stored {v v' : Volatile} {f : Whois.Finding} {result : Except StoreError Committed}
    (numbered : v.Numbered) (stored : v.Stored f result v') : v'.Numbered := by
  cases stored with
  | refused e => exact numbered
  | registered time id le => exact (numbered.register f time).skip le

variable [Meaningful σ]

/-- A world whose store means a numbered store in memory with a property. -/
def World.Has (P : Volatile → Prop) (w : World σ) : Prop :=
  ∃ v, Meaningful.Means w.store v ∧ v.Numbered ∧ P v

theorem World.Has.step {allowed : Policy → Prop} {P : Volatile → Prop} (kept : Kept allowed P)
    {w : World σ} (has : w.Has P) (honest : w.IsHonest allowed) (step : Step) :
    (w.step step).Has P := by
  obtain ⟨v, means, numbered, holds⟩ := has
  rcases step_store w step with same | ⟨c, mem, reading, f, now, informed, after⟩ | ⟨ttl, now, after⟩
  · exact ⟨v, by rwa [same], numbered, holds⟩
  · have answers : Answers allowed f := by
      obtain ⟨reply, found⟩ := (honest c mem).found reading f informed
      exact ⟨c.policy, c.address, reply, (honest c mem).policy, found⟩
    obtain ⟨v', stored, means'⟩ := Meaningful.transact means numbered.range_le f now
    exact ⟨v', by rwa [after], numbered_stored numbered stored,
      kept.stored numbered holds answers stored⟩
  · obtain ⟨test, means'⟩ := Meaningful.deleteExpired means ttl now
    exact ⟨v.keep test, by rwa [after], numbered.keep test, kept.swept holds test⟩

/-- What storing a finding and deleting ranges keep, every schedule keeps. -/
theorem run_invariant {allowed : Policy → Prop} {P : Volatile → Prop} (kept : Kept allowed P)
    {steps : List Step} (under : Under allowed steps) {w : World σ} (has : w.Has P)
    (honest : w.IsHonest allowed) : (w.run steps).Has P := by
  induction steps generalizing w with
  | nil => exact has
  | cons step steps ih =>
      refine ih (fun policy a mem => under policy a (by simp [mem])) (has.step kept honest step) ?_
      exact honest.step fun policy a same => under policy a (by simp [same])

/-! ## From empty stores -/

/-- What a schedule makes of an empty store in memory. -/
def inMemory (steps : List Step) : World Volatile := World.run ⟨{}, []⟩ steps

/-- What a schedule makes of an empty store of rows. -/
def asRows (steps : List Step) : World Durable := World.run ⟨{}, []⟩ steps

variable {allowed : Policy → Prop} {P : Volatile → Prop} {steps : List Step}

theorem inMemory_has (kept : Kept allowed P) (start : P {}) (under : Under allowed steps) :
    (inMemory steps).store.Numbered ∧ P (inMemory steps).store := by
  obtain ⟨v, same, numbered, holds⟩ := run_invariant (w := ⟨({} : Volatile), []⟩) kept under
    ⟨{}, rfl, Volatile.numbered_empty, start⟩ (by simp [World.IsHonest])
  cases same
  exact ⟨numbered, holds⟩

theorem asRows_has (kept : Kept allowed P) (start : P {}) (under : Under allowed steps) :
    ∃ v, (asRows steps).store.Means v ∧ v.Numbered ∧ P v :=
  run_invariant (w := ⟨({} : Durable), []⟩) kept under
    ⟨{}, Durable.means_empty, Volatile.numbered_empty, start⟩ (by simp [World.IsHonest])

end OwnerCache.Schedule
