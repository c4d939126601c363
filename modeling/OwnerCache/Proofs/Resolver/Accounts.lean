/-
# OwnerCache.Proofs.Resolver.Accounts -- the accounts of a run

Sweeps delete ranges, and leave the identities that owned them.  So the identities
keep accounts of a run: there are as many as calls that reported a new one, whoever
was ever named as an owner is still there, and a name and a country that some call
stored a range for are those of the same identity ever after (`storings_known`).

A call that waits has an owner at hand already, for it read the cache when it
began.  What it stands by is that owner until it returns, and then what it returned
(`Call.standing`).  `Balanced` is the invariant: what all calls stand by, against the
identities.  A call changes what it stands by only in the unit of work that stores
its finding, and reports nobody new before.

`run_accounts` has both stores, from empty ones, and all schedules.
-/
import OwnerCache.Proofs.Resolver.History
import OwnerCache.Proofs.Store.Match

namespace OwnerCache.Schedule

set_option autoImplicit false

variable {σ : Type} [RangeStore σ]

/-! ## What calls stand by -/

/-- What a call stands by: the owner to fall back on as long as it waits, then what it returned. -/
def Call.standing (c : Call) : Resolution :=
  match c.progress with
  | .lookingUp reading => .existing reading.fallback
  | .informed reading _ => .existing reading.fallback
  | .returned _ result => told result

/-- Whether the call reported a new identity. -/
def Call.hasCreated (c : Call) : Bool := c.result?.any fun result => (told result).created

theorem Call.hasCreated_eq (c : Call) : c.hasCreated = c.standing.created := by
  unfold hasCreated result? standing
  cases c.progress <;> rfl

theorem Call.standing_of_result {c : Call} {res : Resolution} (result : c.result? = some (.ok res)) :
    c.standing = res := by
  unfold result? at result
  unfold standing
  cases progress : c.progress with
  | lookingUp reading => simp [progress] at result
  | informed reading found => simp [progress] at result
  | returned found outcome =>
      simp only [progress, Option.some.injEq] at result
      rw [result]
      rfl

/-- An answer changes what a call knows, not what it stands by. -/
theorem Call.standing_answer (reply : Reply) (c : Call) : (c.answer reply).standing = c.standing := by
  unfold answer standing
  cases progress : c.progress <;> simp [progress]

/-- A call that has nothing to store returns what it stands by. -/
theorem Call.standing_finish_of_none {c : Call} (nothing : c.finding? = none) (now : Instant) (s : σ) :
    (c.finish now s).1.standing = c.standing := by
  unfold finding? at nothing
  unfold finish standing
  cases progress : c.progress with
  | lookingUp reading => simp [progress]
  | returned found result => simp [progress]
  | informed reading found =>
      cases found with
      | error cause => rfl
      | ok f => simp [progress] at nothing

/-- A call that stores a finding stands by what comes of it. -/
theorem Call.standing_finish {c : Call} {f : Whois.Finding} (finding : c.finding? = some f)
    (i : Nat) (now : Instant) (s : σ) :
    (c.finish now s).1.standing = told (Storing.of i f now s).result := by
  rw [Call.finish_of_finding finding]
  rfl

/-- A call that still has to store its finding has reported nobody new. -/
theorem Call.created_of_finding {c : Call} {f : Whois.Finding} (finding : c.finding? = some f) :
    c.standing.created = false := by
  obtain ⟨reading, informed⟩ := finding?_eq_some.mp finding
  simp only [standing, informed, Resolution.existing]

/-- What the calls stand by, in the order they began. -/
def World.standings (w : World σ) : List Resolution := w.calls.map Call.standing

/-! ## The balance -/

/-- As many identities as were reported new, and all owners named are among them. -/
structure Balanced (standings : List Resolution) (identities : List Identity) : Prop where
  created : standings.countP (·.created) = identities.length
  stored : ∀ r ∈ standings, ∀ i, r.owner = some i → i ∈ identities

namespace Balanced

variable {standings : List Resolution} {identities grown : List Identity} {r : Resolution}

/-- One more stands by an owner known before. -/
theorem append (balanced : Balanced standings identities) (old : r.created = false)
    (known : ∀ i, r.owner = some i → i ∈ identities) :
    Balanced (standings ++ [r]) identities where
  created := by simp [List.countP_append, balanced.created, old]
  stored x mem i owner := by
    rcases List.mem_append.mp mem with mem | mem
    · exact balanced.stored x mem i owner
    · obtain rfl := List.mem_singleton.mp mem
      exact known i owner

/-- One who had reported nobody new reports what has been stored. -/
theorem set (balanced : Balanced standings identities) {k : Nat} {before : Resolution}
    (here : standings[k]? = some before) (old : before.created = false)
    (grows : identities <+: grown)
    (length : grown.length = identities.length + if r.created then 1 else 0)
    (known : ∀ i, r.owner = some i → i ∈ grown) : Balanced (standings.set k r) grown where
  created := by
    obtain ⟨within, same⟩ := List.getElem?_eq_some_iff.mp here
    rw [List.countP_set within, same, balanced.created, length]
    simp [old]
  stored x mem i owner := by
    rcases List.mem_or_eq_of_mem_set mem with mem | rfl
    · exact grows.subset (balanced.stored x mem i owner)
    · exact known i owner

end Balanced

variable [Legible σ]

open Legible Meaningful

/-- A call begins by standing by an owner that is stored. -/
theorem standing_begin {s : σ} {v : Volatile} (means : Means s v) (policy : Policy) (a : Address) :
    (Call.begin policy a s).standing.created = false ∧
      ∀ i, (Call.begin policy a s).standing.owner = some i → i ∈ v.identities := by
  simp only [Call.begin, readCache_eq means, Volatile.reading]
  cases won : v.bestMatch a with
  | none => exact ⟨rfl, fun i none => absurd none (Option.some_ne_none i).symm⟩
  | some m =>
      have owner := (Volatile.range_of_bestMatch won).2.2
      by_cases short : m.length ≤ policy.settings.acceptedLength
      · simp only [short, if_true]
        exact ⟨rfl, fun i found => Volatile.mem_of_ownerOf (owner ▸ found)⟩
      · simp only [short, if_false]
        exact ⟨rfl, fun i found => Volatile.mem_of_ownerOf (owner ▸ found)⟩

/-- Every step keeps the balance. -/
theorem Balanced.step {w : World σ} {v v' : Volatile} (means : Means w.store v) {step : Step}
    (moves : Moves v step (w.storing? step) v') (balanced : Balanced w.standings v.identities) :
    Balanced (w.step step).standings v'.identities := by
  cases step with
  | begin policy a =>
      change Moves v _ none v' at moves
      obtain ⟨old, known⟩ := standing_begin means policy a
      cases moves
      simpa [World.standings, World.step] using balanced.append old known
  | answer k reply =>
      change Moves v _ none v' at moves
      have same : (w.step (.answer k reply)).standings = w.standings := by
        refine List.ext_getElem? fun j => ?_
        simp only [World.standings, World.step, List.getElem?_map, List.getElem?_modify]
        cases w.calls[j]? with
        | none => rfl
        | some c =>
            by_cases here : k = j
            · simp [here, Call.standing_answer]
            · simp [here]
      cases moves
      rwa [same]
  | finish k now =>
      cases called : w.calls[k]? with
      | none =>
          simp only [World.storing?, called, Option.bind_none, Option.map_none] at moves
          cases moves
          simpa only [World.step, called] using balanced
      | some c =>
          have here : w.standings[k]? = some c.standing := by simp [World.standings, called]
          have after : (w.step (.finish k now)).standings =
              w.standings.set k (c.finish now w.store).1.standing := by
            simp only [World.standings, World.step, called, List.map_set]
          simp only [World.storing?, called, Option.bind_some] at moves
          rw [after]
          cases finding : c.finding? with
          | none =>
              rw [finding] at moves
              cases moves
              obtain ⟨within, same⟩ := List.getElem?_eq_some_iff.mp here
              rwa [Call.standing_finish_of_none finding now w.store, ← same,
                List.set_getElem_self]
          | some f =>
              rw [finding, Option.map_some] at moves
              rw [Call.standing_finish finding k now w.store]
              cases moves with
              | stored step e v' effect inserted =>
                  have old := Call.created_of_finding finding
                  cases result : (Storing.of k f now w.store).result with
                  | error cause =>
                      rw [result] at effect
                      obtain rfl := effect.eq_of_error
                      exact balanced.set here old (List.prefix_refl _) rfl fun i none =>
                        absurd none (Option.some_ne_none i).symm
                  | ok res =>
                      rw [result] at effect
                      exact balanced.set here old effect.grows.identities effect.length_identities
                        fun i owner => effect.owner_mem owner
  | sweep ttl now =>
      change Moves v _ none v' at moves
      cases moves <;> exact balanced
  | look a =>
      change Moves v _ none v' at moves
      cases moves
      exact balanced

theorem Balanced.run {w : World σ} {v : Volatile} (means : Means w.store v) (h : v.WellFormed)
    (balanced : Balanced w.standings v.identities) (steps : List Step) :
    ∃ v', Means (w.run steps).store v' ∧ v'.WellFormed ∧
      Balanced (w.run steps).standings v'.identities := by
  induction steps generalizing w v with
  | nil => exact ⟨v, means, h, balanced⟩
  | cons step steps ih =>
      obtain ⟨v', means', moves⟩ := step_moves means h step
      exact ih means' (moves.wellFormed h) (balanced.step means moves)

/-! ## Names -/

/-- Who adds a range under a name gets the identity that is known by it at the end. -/
theorem storings_known {w : World σ} {v v' : Volatile} (means : Means w.store v) (h : v.WellFormed)
    {steps : List Step} (means' : Means (w.run steps).store v') {e : Storing}
    (here : e ∈ w.storings steps) (inserted : e.inserted = true) (named : e.finding.description ≠ none) :
    ∃ i created, e.result = .ok ⟨some i, created⟩ ∧ v'.known? e.finding = some i := by
  obtain ⟨before, step, later, rfl, stores⟩ := exists_of_mem_storings here
  obtain ⟨u, meansU, hu, -⟩ := run_identities means h before
  obtain ⟨u', meansU', hu', effect, grown⟩ := storing_effect meansU hu stores
  have longer : u.ranges.length < u'.ranges.length := by simpa [inserted] using grown
  cases result : e.result with
  | error cause =>
      rw [result] at effect
      rw [effect.eq_of_error] at longer
      exact absurd longer (Nat.lt_irrefl _)
  | ok res =>
      rw [result] at effect
      obtain ⟨i, owner, known⟩ := effect.known named longer
      obtain ⟨last, meansLast, -, lasting⟩ := run_identities meansU' hu' later
      rw [World.run_append] at means'
      have same : last.identities = v'.identities :=
        (identities_eq meansLast).symm.trans (identities_eq means')
      exact ⟨i, res.created, by rw [← owner], Volatile.known?_of_prefix (same ▸ lasting) known⟩

/-- Calls that insert ranges under one name and country return one identity. -/
theorem storings_shared {w : World σ} {v : Volatile} (means : Means w.store v) (h : v.WellFormed)
    {steps : List Step} {e e' : Storing} (here : e ∈ w.storings steps) (here' : e' ∈ w.storings steps)
    (inserted : e.inserted = true) (inserted' : e'.inserted = true)
    (named : e.finding.description ≠ none)
    (name : e.finding.description = e'.finding.description)
    (country : e.finding.country = e'.finding.country) :
    ∃ owner created created',
      (w.run steps).HasStored e.call e.finding (.ok ⟨some owner, created⟩) ∧
      (w.run steps).HasStored e'.call e'.finding (.ok ⟨some owner, created'⟩) := by
  obtain ⟨v', means', -⟩ := run_identities means h steps
  have stored : ∀ e ∈ w.storings steps, (w.run steps).HasStored e.call e.finding e.result :=
    fun e mem => (hasStored_run ..).mpr (.inr ⟨e, mem, rfl, rfl, rfl⟩)
  obtain ⟨i, created, result, known⟩ := storings_known means h means' here inserted named
  obtain ⟨j, created', result', known'⟩ :=
    storings_known means h means' here' inserted' (name ▸ named)
  have same : v'.known? e.finding = v'.known? e'.finding := by
    rw [Volatile.known?, Volatile.known?, name, country]
  obtain rfl : i = j := Option.some.inj (known.symm.trans (same.trans known'))
  exact ⟨i, created, created', result ▸ stored e here, result' ▸ stored e' here'⟩

/-! ## The accounts -/

/-- What the identities tell of a run, at some point and at any later one. -/
structure Accounts (w : World σ) (steps later : List Step) : Prop where
  /-- There are as many identities as calls that reported a new one. -/
  created : (w.run steps).calls.countP Call.hasCreated = (identities (w.run steps).store).length
  /-- Identities are never changed or deleted. -/
  lasting : identities (w.run steps).store <+: identities (w.run (steps ++ later)).store
  /-- The owner that is found for an address stays stored under its id. -/
  found : ∀ a owner length, matchAddress (w.run steps).store a = .ok (some owner, length) →
    (identities (w.run (steps ++ later)).store).find? (·.id = owner.id) = some owner
  /-- The owner that a call returned stays stored under its id. -/
  returned : ∀ c ∈ (w.run steps).calls, ∀ owner created,
    c.result? = some (.ok ⟨some owner, created⟩) →
    (identities (w.run (steps ++ later)).store).find? (·.id = owner.id) = some owner
  /-- Calls that inserted ranges under one name and country returned one identity. -/
  shared : ∀ e ∈ w.storings steps, ∀ e' ∈ w.storings steps, e.inserted → e'.inserted →
    e.finding.description ≠ none → e.finding.description = e'.finding.description →
    e.finding.country = e'.finding.country →
    ∃ owner created created',
      (w.run steps).HasStored e.call e.finding (.ok ⟨some owner, created⟩) ∧
      (w.run steps).HasStored e'.call e'.finding (.ok ⟨some owner, created'⟩)

theorem accounts_of_empty {w : World σ} (means : Means w.store {}) (idle : w.calls = [])
    (steps later : List Step) : Accounts w steps later := by
  have start : Balanced w.standings ([] : List Identity) := by
    constructor <;> simp [World.standings, idle]
  obtain ⟨v, here, h, balanced⟩ := Balanced.run means .empty start steps
  obtain ⟨v', there, h', grows⟩ := run_identities here h later
  have stays : ∀ {i : Identity}, i ∈ v.identities →
      (identities (w.run (steps ++ later)).store).find? (·.id = i.id) = some i := by
    intro i stored
    rw [World.run_append, identities_eq there]
    exact h'.identity?_of_mem (grows.subset stored)
  refine ⟨?_, ?_, ?_, ?_, ?_⟩
  · rw [identities_eq here, ← balanced.created, World.standings, List.countP_map]
    exact List.countP_congr fun c _ => by simp [Call.hasCreated_eq]
  · rwa [World.run_append, identities_eq here, identities_eq there]
  · intro a owner length found
    rw [matchAddress_eq here] at found
    cases won : v.bestMatch a with
    | none => simp [won] at found
    | some m =>
        have named : m.owner = some owner := by
          rw [won] at found
          exact (Prod.mk.inj (Except.ok.inj found)).1
        exact stays (Volatile.mem_of_ownerOf ((Volatile.range_of_bestMatch won).2.2 ▸ named))
  · intro c mem owner created returned
    refine stays (balanced.stored c.standing (List.mem_map_of_mem mem) owner ?_)
    rw [Call.standing_of_result returned]
  · intro e mem e' mem' inserted inserted' named name country
    exact storings_shared means .empty mem mem' inserted inserted' named name country

/-- **The identities keep the accounts of every run** from an empty store, sweeps included, in memory
and as rows. -/
theorem run_accounts (steps later : List Step) :
    Accounts (⟨{}, []⟩ : World Volatile) steps later ∧
      Accounts (⟨{}, []⟩ : World Durable) steps later :=
  ⟨accounts_of_empty rfl rfl steps later, accounts_of_empty Durable.means_empty rfl steps later⟩

end OwnerCache.Schedule
