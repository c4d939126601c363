/-
# OwnerCache.Proofs.Resolver.History -- what a run has stored, and for whom

`World.storings` lists the units of work of a run that store a finding, in order:
whose call it was, what the call had found, what it returned, and whether there
was a range more afterwards.  They are the calls that ended with a finding, and
no others (`hasStored_run`).

`step_moves` says once what a step does to the meaning of a well-formed store.  It
leaves it alone, it is a sweep, or it is the entry of the history that the step
makes, with the effect of storing its finding.  By induction over the steps
(`run_keeps`) a well-formed store stays so, its identities only grow
(`run_identities`), and without sweeps its ranges only grow as well (`run_grows`).
-/
import OwnerCache.Proofs.Resolver.Invariant
import OwnerCache.Proofs.Store.WellFormed

namespace OwnerCache.Schedule

set_option autoImplicit false

variable {σ : Type} [RangeStore σ]

/-! ## The history of a run -/

/-- A unit of work that stores a finding, or fails to. -/
structure Storing where
  call : Nat
  finding : Whois.Finding
  /-- What the call returns. -/
  result : Except StoreError Resolution
  /-- Whether there are more ranges after it than before. -/
  inserted : Bool
deriving DecidableEq

/-- What a result tells of an owner; a failure tells of none. -/
def told : Except StoreError Resolution → Resolution
  | .ok res => res
  | .error _ => {}

/-- What a call is about to store. -/
def Call.finding? (c : Call) : Option Whois.Finding :=
  match c.progress with
  | .informed _ (.ok f) => some f
  | _ => none

theorem Call.finding?_eq_some {c : Call} {f : Whois.Finding} :
    c.finding? = some f ↔ ∃ reading, c.progress = .informed reading (.ok f) := by
  unfold finding?
  cases c.progress with
  | lookingUp reading => simp
  | returned found result => simp
  | informed reading found => cases found <;> simp

/-- A call with a finding ends with what comes of storing it. -/
theorem Call.finish_of_finding {c : Call} {f : Whois.Finding} (finding : c.finding? = some f)
    (now : Instant) (s : σ) :
    let (result, store) := RangeStore.transact (commit f now) s
    c.finish now s =
      ({ c with progress := .returned (some (.ok f)) (result.map (·.resolution)) }, store) := by
  obtain ⟨reading, informed⟩ := finding?_eq_some.mp finding
  simp only [finish, informed, conclude_result, conclude_store]

/-- A call without one leaves the store alone. -/
theorem Call.finish_store_of_none {c : Call} (nothing : c.finding? = none) (now : Instant) (s : σ) :
    (c.finish now s).2 = s := by
  unfold finding? at nothing
  unfold finish
  cases progress : c.progress with
  | lookingUp reading => rfl
  | returned found result => rfl
  | informed reading found =>
      cases found with
      | error cause => rfl
      | ok f => simp [progress] at nothing

/-- The unit of work of a call with a finding, on a store. -/
def Storing.of (call : Nat) (f : Whois.Finding) (now : Instant) (s : σ) : Storing :=
  let (result, store) := RangeStore.transact (commit f now) s
  { call := call
    finding := f
    result := result.map (·.resolution)
    inserted := RangeStore.rangeCount s < RangeStore.rangeCount store }

namespace World

/-- The unit of work that a step is, if it is one. -/
def storing? (w : World σ) : Step → Option Storing
  | .finish i now => (w.calls[i]?.bind Call.finding?).map fun f => .of i f now w.store
  | _ => none

/-- The units of work of a run. -/
def storings (w : World σ) : List Step → List Storing
  | [] => []
  | step :: steps => (w.storing? step).toList ++ (w.step step).storings steps

theorem run_append (w : World σ) (steps later : List Step) :
    w.run (steps ++ later) = (w.run steps).run later := List.foldl_append

end World

/-- Every unit of work of a run has its place in it. -/
theorem exists_of_mem_storings {w : World σ} {steps : List Step} {e : Storing}
    (mem : e ∈ w.storings steps) : ∃ before step later, steps = before ++ step :: later ∧
      (w.run before).storing? step = some e := by
  induction steps generalizing w with
  | nil => simp [World.storings] at mem
  | cons step steps ih =>
      rcases List.mem_append.mp mem with now | mem
      · exact ⟨[], step, steps, rfl, Option.mem_toList.mp now⟩
      · obtain ⟨before, step', later, rfl, stores⟩ := ih mem
        exact ⟨step :: before, step', later, rfl, stores⟩

/-- No ranges are deleted on the way. -/
def Sweepless (steps : List Step) : Prop := ∀ ttl now, .sweep ttl now ∉ steps

theorem Sweepless.head {step : Step} {steps : List Step} (sweepless : Sweepless (step :: steps)) :
    ∀ ttl now, step ≠ .sweep ttl now := fun ttl now same => sweepless ttl now (by simp [same])

theorem Sweepless.tail {step : Step} {steps : List Step} (sweepless : Sweepless (step :: steps)) :
    Sweepless steps := fun ttl now mem => sweepless ttl now (by simp [mem])

theorem Sweepless.append_iff {steps later : List Step} :
    Sweepless (steps ++ later) ↔ Sweepless steps ∧ Sweepless later := by
  simp only [Sweepless, List.mem_append, not_or, forall_and]

/-! ## Calls that ended with a finding -/

/-- The call has stored a finding, or failed to, and returned. -/
def Call.HasStored (c : Call) (f : Whois.Finding) (result : Except StoreError Resolution) : Prop :=
  c.progress = .returned (some (.ok f)) result

namespace Call.HasStored

variable {c : Call} {f : Whois.Finding} {result : Except StoreError Resolution}

theorem not_begin {policy : Policy} {a : Address} {s : σ} :
    ¬ (Call.begin policy a s).HasStored f result := by
  intro stored
  simp only [HasStored, Call.begin] at stored
  split at stored <;> cases stored

theorem answer_iff {reply : Reply} : (c.answer reply).HasStored f result ↔ c.HasStored f result := by
  unfold Call.answer HasStored
  cases progress : c.progress <;> simp [progress]

theorem finish_iff {now : Instant} {s : σ} :
    (c.finish now s).1.HasStored f result ↔ c.HasStored f result ∨
      c.finding? = some f ∧
        (RangeStore.transact (commit f now) s).1.map (·.resolution) = result := by
  unfold Call.finish HasStored Call.finding?
  cases progress : c.progress with
  | lookingUp reading => simp [progress]
  | returned found result => simp [progress]
  | informed reading found =>
      cases found with
      | error cause => simp
      | ok g =>
          simp only [conclude_result, Progress.returned.injEq, Option.some.injEq, Except.ok.injEq,
            reduceCtorEq, false_or]
          refine and_congr_right ?_
          rintro rfl
          rfl

end Call.HasStored

/-- The call with a number has stored a finding, or failed to, and returned. -/
def World.HasStored (w : World σ) (i : Nat) (f : Whois.Finding)
    (result : Except StoreError Resolution) : Prop :=
  ∃ c, w.calls[i]? = some c ∧ c.HasStored f result

/-- The unit of work of a step is that of the call which the step ends. -/
theorem exists_storing?_finish {w : World σ} {j : Nat} {now : Instant} {i : Nat} {f : Whois.Finding}
    {result : Except StoreError Resolution} :
    (∃ e, w.storing? (.finish j now) = some e ∧ e.call = i ∧ e.finding = f ∧ e.result = result) ↔
      j = i ∧ w.calls[j]?.bind Call.finding? = some f ∧
        (RangeStore.transact (commit f now) w.store).1.map (·.resolution) = result := by
  simp only [World.storing?, Option.map_eq_some_iff]
  constructor
  · rintro ⟨_, ⟨g, found, rfl⟩, rfl, rfl, rfl⟩
    exact ⟨rfl, found, rfl⟩
  · rintro ⟨rfl, found, rfl⟩
    exact ⟨_, ⟨f, found, rfl⟩, rfl, rfl, rfl⟩

/-- After a step a call has stored a finding if it had before, or if the step is its unit of work. -/
theorem hasStored_step (w : World σ) (step : Step) (i : Nat) (f : Whois.Finding)
    (result : Except StoreError Resolution) :
    (w.step step).HasStored i f result ↔ w.HasStored i f result ∨
      ∃ e, w.storing? step = some e ∧ e.call = i ∧ e.finding = f ∧ e.result = result := by
  cases step with
  | begin policy a =>
      simp only [World.HasStored, World.step, World.storing?, reduceCtorEq, false_and, exists_false,
        or_false]
      rcases Nat.lt_trichotomy i w.calls.length with before | rfl | after
      · rw [List.getElem?_append_left before]
      · simp [Call.HasStored.not_begin]
      · have grown : (w.calls ++ [Call.begin policy a w.store]).length ≤ i := by
          rw [List.length_append]
          exact after
        rw [List.getElem?_eq_none grown, List.getElem?_eq_none (Nat.le_of_lt after)]
  | answer j reply =>
      simp only [World.HasStored, World.step, World.storing?, reduceCtorEq, false_and, exists_false,
        or_false, List.getElem?_modify]
      by_cases same : j = i
      · subst same
        cases w.calls[j]? with
        | none => simp
        | some c => simp [Call.HasStored.answer_iff]
      · simp [same]
  | finish j now =>
      rw [exists_storing?_finish]
      simp only [World.HasStored, World.step]
      cases called : w.calls[j]? with
      | none => simp
      | some c =>
          by_cases same : j = i
          · subst same
            have within : j < w.calls.length := (List.getElem?_eq_some_iff.mp called).1
            simp only [called, List.getElem?_set_self within, Option.some.injEq, exists_eq_left',
              Call.HasStored.finish_iff, Option.bind_some, true_and]
          · simp [List.getElem?_set_ne same, same]
  | sweep ttl now => simp [World.HasStored, World.step, World.storing?]
  | look a => simp [World.HasStored, World.step, World.storing?]

/-- The history of a run holds the calls that stored a finding in it, and no others. -/
theorem hasStored_run (w : World σ) (steps : List Step) (i : Nat) (f : Whois.Finding)
    (result : Except StoreError Resolution) :
    (w.run steps).HasStored i f result ↔ w.HasStored i f result ∨
      ∃ e ∈ w.storings steps, e.call = i ∧ e.finding = f ∧ e.result = result := by
  induction steps generalizing w with
  | nil => simp [World.run, World.storings]
  | cons step steps ih =>
      change ((w.step step).run steps).HasStored i f result ↔ _
      rw [ih, hasStored_step, or_assoc]
      simp only [World.storings, List.mem_append, Option.mem_toList, or_and_right, exists_or]

/-! ## What a step does to the meaning of a store -/

variable [Legible σ]

open Legible Meaningful

/-- What a step can do to the store in memory that a store means, with the unit of work that the
step is. -/
inductive Moves (v : Volatile) : Step → Option Storing → Volatile → Prop
  | idle (step : Step) : Moves v step none v
  | swept (ttl : Duration) (now : Instant) (test : AddressRange → Bool) :
      Moves v (.sweep ttl now) none (v.keep test)
  | stored (step : Step) (e : Storing) (v' : Volatile) (effect : v.Effect e.finding e.result v')
      (inserted : e.inserted = decide (v.ranges.length < v'.ranges.length)) :
      Moves v step (some e) v'

theorem step_moves {w : World σ} {v : Volatile} (means : Means w.store v) (h : v.WellFormed)
    (step : Step) : ∃ v', Means (w.step step).store v' ∧ Moves v step (w.storing? step) v' := by
  cases step with
  | begin policy a => exact ⟨v, means, .idle _⟩
  | answer i reply => exact ⟨v, means, .idle _⟩
  | finish i now =>
      cases called : w.calls[i]? with
      | none =>
          simp only [World.step, World.storing?, called, Option.bind_none, Option.map_none]
          exact ⟨v, means, .idle _⟩
      | some c =>
          simp only [World.step, World.storing?, called, Option.bind_some]
          cases finding : c.finding? with
          | none =>
              rw [Call.finish_store_of_none finding]
              exact ⟨v, means, .idle _⟩
          | some f =>
              rw [Call.finish_of_finding finding]
              obtain ⟨v', stored, means'⟩ := Meaningful.transact means h.range_le f now
              refine ⟨v', means', .stored _ _ v' stored.effect ?_⟩
              simp only [Storing.of, rangeCount_eq means, rangeCount_eq means']
  | sweep ttl now =>
      obtain ⟨test, means'⟩ := Meaningful.deleteExpired means ttl now
      exact ⟨v.keep test, means', .swept ttl now test⟩
  | look a => exact ⟨v, means, .idle _⟩

namespace Moves

variable {v v' : Volatile} {step : Step} {e? : Option Storing}

theorem wellFormed (moves : Moves v step e? v') (h : v.WellFormed) : v'.WellFormed := by
  cases moves with
  | idle => exact h
  | swept ttl now test => exact h.keep test
  | stored step e v' effect => exact h.effect effect

/-- Identities are never changed or removed. -/
theorem identities (moves : Moves v step e? v') : v.identities <+: v'.identities := by
  cases moves with
  | idle => exact List.prefix_refl _
  | swept ttl now test => exact List.prefix_refl _
  | stored step e v' effect => exact effect.grows.identities

/-- Only sweeps change or remove ranges. -/
theorem grows (moves : Moves v step e? v') (unswept : ∀ ttl now, step ≠ .sweep ttl now) :
    v.Grows v' := by
  cases moves with
  | idle => exact .refl v
  | swept ttl now test => exact absurd rfl (unswept ttl now)
  | stored step e v' effect => exact effect.grows

end Moves

/-- A unit of work has the effect of storing its finding. -/
theorem storing_effect {w : World σ} {v : Volatile} (means : Means w.store v) (h : v.WellFormed)
    {step : Step} {e : Storing} (stores : w.storing? step = some e) :
    ∃ v', Means (w.step step).store v' ∧ v'.WellFormed ∧ v.Effect e.finding e.result v' ∧
      e.inserted = decide (v.ranges.length < v'.ranges.length) := by
  obtain ⟨v', means', moves⟩ := step_moves means h step
  refine ⟨v', means', moves.wellFormed h, ?_⟩
  rw [stores] at moves
  cases moves with
  | stored step e v' effect inserted => exact ⟨effect, inserted⟩

/-- What the steps of a run keep, the run keeps. -/
theorem run_keeps {P : Volatile → Prop} {w : World σ} {v : Volatile} (means : Means w.store v)
    (h : v.WellFormed) (holds : P v) {steps : List Step}
    (kept : ∀ step ∈ steps, ∀ {u u' : Volatile} {e? : Option Storing}, u.WellFormed → P u →
      Moves u step e? u' → P u') :
    ∃ v', Means (w.run steps).store v' ∧ v'.WellFormed ∧ P v' := by
  induction steps generalizing w v with
  | nil => exact ⟨v, means, h, holds⟩
  | cons step steps ih =>
      obtain ⟨u, means', moves⟩ := step_moves means h step
      exact ih means' (moves.wellFormed h) (kept step (by simp) h holds moves)
        fun later mem => kept later (by simp [mem])

/-- Identities that are stored stay stored. -/
theorem run_identities {w : World σ} {v : Volatile} (means : Means w.store v) (h : v.WellFormed)
    (steps : List Step) :
    ∃ v', Means (w.run steps).store v' ∧ v'.WellFormed ∧ v.identities <+: v'.identities :=
  run_keeps (P := fun u => v.identities <+: u.identities) means h (List.prefix_refl _)
    fun _ _ _ _ _ _ before moves => before.trans moves.identities

/-- Without sweeps ranges that are stored stay stored. -/
theorem run_grows {w : World σ} {v : Volatile} (means : Means w.store v) (h : v.WellFormed)
    {steps : List Step} (sweepless : Sweepless steps) :
    ∃ v', Means (w.run steps).store v' ∧ v'.WellFormed ∧ v.Grows v' :=
  run_keeps (P := fun u => v.Grows u) means h (.refl v)
    fun _ mem _ _ _ _ before moves => before.trans (moves.grows fun ttl now same =>
      sweepless ttl now (same ▸ mem))

end OwnerCache.Schedule
