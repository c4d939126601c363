/-
# OwnerCache.Proofs.Resolver.Unanimity -- calls that store one block agree on its owner

Several calls may find the same block while none of them has stored it, and their
providers may contradict each other about its owner.  Without sweeps they agree all
the same: whoever stores a block, or finds it stored, returns the owner that its
range has at the end (`storings_owner`), and there is one range for a block.

What carries this over the run is that an owner, once stored, is never changed, and
is not lost as long as it was stored (`Volatile.Owned`).  A range with an owner that
is not stored would be given one by the identity that takes its id.

Who decided is a matter of counting.  The ranges for a block at the end are those at
the start and one for each unit of work that inserted it (`countP_inserted`), so of
the calls that store a new block one inserted it, and as nobody creates an identity
without inserting a range for it, one at most did that.

`run_unanimous` puts this together for the calls of a run, from every well-formed
store.
-/
import OwnerCache.Proofs.Resolver.History

namespace OwnerCache

set_option autoImplicit false

namespace Volatile

/-- Every owner of a range is stored. -/
def Owned (v : Volatile) : Prop :=
  ∀ r ∈ v.ranges, ∀ id ∈ r.ownerId, v.identity? id ≠ none

variable {v v' : Volatile}

theorem Owned.createIdentity (owned : v.Owned) (name country : Option String) :
    (Volatile.createIdentity name country v).2.Owned := by
  intro r mem id owner
  obtain ⟨i, known⟩ := Option.ne_none_iff_exists'.mp (owned r mem id owner)
  have grows : v.Grows (Volatile.createIdentity name country v).2 :=
    ⟨List.prefix_refl _, List.prefix_append _ _⟩
  exact Option.ne_none_iff_exists'.mpr ⟨i, grows.identity? known⟩

theorem Owned.place (owned : v.Owned) (h : v.WellFormed) (block : Block) (time : Instant)
    {owner : Identity} (stored : owner ∈ v.identities) : (v.place block time owner).Owned := by
  refine forall_mem_place owned fun id same => ?_
  obtain rfl := Option.some.inj same
  rw [show (v.place block time owner).identity? owner.id = v.identity? owner.id from rfl,
    h.identity?_of_mem stored]
  simp

theorem Owned.effect (owned : v.Owned) (h : v.WellFormed) {f : Whois.Finding}
    {result : Except StoreError Resolution} (effect : v.Effect f result v') : v'.Owned := by
  cases effect with
  | refused e => exact owned
  | present range mem same id le => exact owned
  | shared absent owner known time id le => exact owned.place h f.block time (mem_of_known? known).1
  | created absent unknown time id le =>
      exact (owned.createIdentity f.description f.country).place (h.createIdentity _ _) f.block time
        (mem_createIdentity v f)

end Volatile

namespace Schedule

variable {σ : Type} [RangeStore σ] [Legible σ]

open Legible Meaningful

/-! ## Owners -/

theorem owned_of_means {s : σ} {v : Volatile} (means : Means s v) (owned : Owned s) : v.Owned := by
  intro r mem id owner
  rw [Owned, ranges_eq means, identities_eq means] at owned
  obtain ⟨i, stored, rfl⟩ := owned r mem id owner
  intro unknown
  simpa using List.find?_eq_none.mp unknown i stored

theorem Moves.owned {v v' : Volatile} {step : Step} {e? : Option Storing}
    (moves : Moves v step e? v') (h : v.WellFormed) (owned : v.Owned)
    (unswept : ∀ ttl now, step ≠ .sweep ttl now) : v'.Owned := by
  cases moves with
  | idle => exact owned
  | swept ttl now test => exact absurd rfl (unswept ttl now)
  | stored step e v' effect => exact owned.effect h effect

/-- Without sweeps owners stay stored. -/
theorem run_owned {w : World σ} {v : Volatile} (means : Means w.store v) (h : v.WellFormed)
    (owned : v.Owned) {steps : List Step} (sweepless : Sweepless steps) :
    ∃ v', Means (w.run steps).store v' ∧ v'.WellFormed ∧ v'.Owned :=
  run_keeps (P := Volatile.Owned) means h owned fun _ mem _ _ _ h owned moves =>
    moves.owned h owned fun ttl now same => sweepless ttl now (same ▸ mem)

/-- Without sweeps a range that is stored stays, and so does its owner. -/
theorem run_ownerOf {w : World σ} {v : Volatile} (means : Means w.store v) (h : v.WellFormed)
    (owned : v.Owned) {steps : List Step} (sweepless : Sweepless steps) {r : AddressRange}
    (mem : r ∈ v.ranges) :
    r ∈ ranges (w.run steps).store ∧ ownerOf (w.run steps).store r = v.ownerOf r := by
  obtain ⟨v', means', -, grows⟩ := run_grows means h sweepless
  rw [ranges_eq means', ownerOf_eq means']
  exact ⟨grows.ranges.subset mem, grows.ownerOf (owned r mem)⟩

/-- Whoever stores a block, or finds it stored, returns the owner that it has at the end. -/
theorem storings_owner {w : World σ} {v : Volatile} (means : Means w.store v) (h : v.WellFormed)
    (owned : v.Owned) {steps : List Step} (sweepless : Sweepless steps) {e : Storing}
    (here : e ∈ w.storings steps) {res : Resolution} (succeeds : e.result = .ok res) :
    ∃ r ∈ ranges (w.run steps).store, r.block = e.finding.block ∧
      ownerOf (w.run steps).store r = res.owner := by
  obtain ⟨before, step, later, rfl, stores⟩ := exists_of_mem_storings here
  obtain ⟨sweepless, sweepless'⟩ := Sweepless.append_iff.mp sweepless
  obtain ⟨u, meansU, hu, ownedU⟩ := run_owned means h owned sweepless
  obtain ⟨u', meansU', hu', effect, -⟩ := storing_effect meansU hu stores
  rw [succeeds] at effect
  obtain ⟨r, mem, same, owner⟩ := effect.exists_range hu
  obtain ⟨stays, lasts⟩ := run_ownerOf meansU' hu' (ownedU.effect hu effect) sweepless'.tail mem
  rw [World.run_append]
  exact ⟨r, stays, same, lasts.trans owner⟩

/-! ## Counting -/

/-- Whether the call created an identity. -/
def Storing.created (e : Storing) : Bool := (told e.result).created

/-- Without sweeps the ranges for a block are those there were, and one for each call that inserted
it. -/
theorem countP_inserted {w : World σ} {v : Volatile} (means : Means w.store v) (h : v.WellFormed)
    {steps : List Step} (sweepless : Sweepless steps) (block : Block) :
    (ranges (w.run steps).store).countP (·.block = block) = v.ranges.countP (·.block = block) +
      (w.storings steps).countP fun e => e.finding.block = block ∧ e.inserted := by
  induction steps generalizing w v with
  | nil => rw [show (w.run []).store = w.store from rfl, ranges_eq means]; rfl
  | cons step steps ih =>
      obtain ⟨v', means', moves⟩ := step_moves means h step
      have rest := ih means' (moves.wellFormed h) sweepless.tail
      rw [show w.run (step :: steps) = (w.step step).run steps from rfl, rest, World.storings,
        List.countP_append]
      cases entry : w.storing? step with
      | none =>
          rw [entry] at moves
          cases moves with
          | idle => simp
          | swept ttl now test => exact absurd rfl (sweepless.head ttl now)
      | some e =>
          rw [entry] at moves
          cases moves with
          | stored step e v' effect inserted =>
              simp only [Option.toList_some, List.countP_singleton, effect.countP_block block,
                inserted, decide_eq_true_eq, Nat.add_assoc]

/-- Nobody creates an identity without inserting a range. -/
theorem inserted_of_created {w : World σ} {v : Volatile} (means : Means w.store v) (h : v.WellFormed)
    {steps : List Step} {e : Storing} (here : e ∈ w.storings steps) (created : e.created = true) :
    e.inserted = true := by
  obtain ⟨before, step, later, rfl, stores⟩ := exists_of_mem_storings here
  obtain ⟨u, meansU, hu, -⟩ := run_identities means h before
  obtain ⟨u', -, -, effect, inserted⟩ := storing_effect meansU hu stores
  rw [inserted, decide_eq_true_eq]
  unfold Storing.created at created
  cases result : e.result with
  | error cause => simp [result, told] at created
  | ok res =>
      rw [result] at effect created
      exact effect.length_lt_of_created created

/-! ## The calls -/

/-- What calls that store one block have in common in a run, and what they leave alone. -/
structure Unanimous (w : World σ) (steps : List Step) (block : Block) : Prop where
  /-- All calls that stored the block returned the same owner, and the block has it at the end. -/
  owner : ∃ owner,
    (∀ c ∈ (w.run steps).calls, ∀ f res, c.HasStored f (.ok res) → f.block = block →
      res.owner = owner) ∧
    ∀ r ∈ ranges (w.run steps).store, r.block = block → ownerOf (w.run steps).store r = owner
  /-- Of the calls that stored a new block one inserted it, and one at most created an identity. -/
  first : (∀ r ∈ ranges w.store, r.block ≠ block) →
    (∃ e ∈ w.storings steps, e.finding.block = block ∧ ∃ res, e.result = .ok res) →
    (w.storings steps).countP (fun e => e.finding.block = block ∧ e.inserted) = 1 ∧
      (w.storings steps).countP (fun e => e.finding.block = block ∧ e.created) ≤ 1
  /-- Ranges that are stored at some point stay as they are, and so do their owners. -/
  lasting : ∀ before later, steps = before ++ later → ∀ r ∈ ranges (w.run before).store,
    r ∈ ranges (w.run steps).store ∧
      ownerOf (w.run steps).store r = ownerOf (w.run before).store r

/-- **Calls that store one block agree on its owner**, in whatever order their steps come, and no
owner ever changes, as long as nothing is swept. -/
theorem run_unanimous {s : σ} (start : WellFormed s) (owned : Owned s) {steps : List Step}
    (sweepless : Sweepless steps) (block : Block) : Unanimous ⟨s, []⟩ steps block := by
  obtain ⟨v, means, h⟩ := start.exists_means
  have owned := owned_of_means means owned
  obtain ⟨v', means', h', -⟩ := run_owned (w := ⟨s, []⟩) means h owned sweepless
  refine ⟨?_, ?_, ?_⟩
  · have returned : ∀ c ∈ (World.run ⟨s, []⟩ steps).calls, ∀ f res, c.HasStored f (.ok res) →
        ∃ r ∈ v'.ranges, r.block = f.block ∧ v'.ownerOf r = res.owner := by
      intro c mem f res stored
      obtain ⟨i, called⟩ := List.getElem?_of_mem mem
      rcases (hasStored_run ..).mp ⟨c, called, stored⟩ with ⟨c', none, -⟩ | ⟨e, here, -, rfl, result⟩
      · simp at none
      · have last := storings_owner (w := ⟨s, []⟩) means h owned sweepless here result
        simpa only [ranges_eq means', ownerOf_eq means'] using last
    simp only [ranges_eq means', ownerOf_eq means']
    by_cases stored : ∃ r ∈ v'.ranges, r.block = block
    · obtain ⟨r, mem, rfl⟩ := stored
      refine ⟨v'.ownerOf r, fun c called f res stored same => ?_, fun r' mem' same => ?_⟩
      · obtain ⟨r', mem', same', owner⟩ := returned c called f res stored
        rw [← owner, h'.eq_of_block mem' mem (same'.trans same)]
      · rw [h'.eq_of_block mem' mem same]
    · refine ⟨none, fun c called f res done same => ?_, fun r mem same => ?_⟩
      · obtain ⟨r, mem, same', -⟩ := returned c called f res done
        exact absurd ⟨r, mem, same'.trans same⟩ stored
      · exact absurd ⟨r, mem, same⟩ stored
  · rintro absent ⟨e, here, rfl, res, succeeds⟩
    rw [ranges_eq means] at absent
    have none_before : v.ranges.countP (·.block = e.finding.block) = 0 :=
      List.countP_eq_zero.mpr fun r mem => by simpa using absent r mem
    obtain ⟨r, mem, same, -⟩ := storings_owner (w := ⟨s, []⟩) means h owned sweepless here succeeds
    have counted := countP_inserted (w := ⟨s, []⟩) means h sweepless e.finding.block
    rw [ranges_eq means'] at mem counted
    rw [← same, h'.countP_block mem, same, none_before, Nat.zero_add] at counted
    refine ⟨counted.symm, counted ▸ List.countP_mono_left fun e' here' created => ?_⟩
    simp only [decide_eq_true_eq] at created ⊢
    exact ⟨created.1, inserted_of_created means h here' created.2⟩
  · rintro before later rfl r mem
    obtain ⟨sweepless, sweepless'⟩ := Sweepless.append_iff.mp sweepless
    obtain ⟨u, meansU, hu, ownedU⟩ := run_owned (w := ⟨s, []⟩) means h owned sweepless
    rw [ranges_eq meansU] at mem
    rw [World.run_append, ownerOf_eq meansU]
    exact run_ownerOf meansU hu ownedU sweepless' mem

/-- Two calls overlap, their providers name different owners of one new block, and the one that
began last stores it first: both return its owner, from the cache in memory and from rows. -/
theorem run_unanimous_contradicting :
    let policy : Policy := ⟨{}, fun _ => none⟩
    let answer (name : String) : Reply :=
      .record ⟨[{ cidr := some "8.8.8.0/24", description := some name }]⟩
    let steps : List Step :=
      [.begin policy ⟨0x08080808, by decide⟩, .begin policy ⟨0x08080804, by decide⟩,
        .answer 0 (answer "Google"), .answer 1 (answer "Level 3"), .finish 1 .least,
        .finish 0 .least]
    let block : Block := ⟨⟨0x08080800, by decide⟩, ⟨0x080808FF, by decide⟩⟩
    let s : Volatile := ⟨[⟨1, .single ⟨7, by decide⟩, some 1, .least⟩], [⟨1, none, none⟩], 1, 1⟩
    let rows : Durable := .of s
    WellFormed s ∧ Owned s ∧ WellFormed rows ∧ Owned rows ∧ Sweepless steps ∧
      Unanimous ⟨s, []⟩ steps block ∧ Unanimous ⟨rows, []⟩ steps block ∧
      (World.storings ⟨rows, []⟩ steps).map (fun e => (e.call, e.inserted, e.result)) =
        [(1, true, .ok ⟨some ⟨2, some "Level 3", none⟩, true⟩),
          (0, false, .ok ⟨some ⟨2, some "Level 3", none⟩, false⟩)] := by
  intro policy answer steps block s rows
  have start : WellFormed s := ⟨⟨by decide, by decide⟩, by decide, by decide, by decide⟩
  have start' : WellFormed rows := by
    refine ⟨⟨?_, by decide, by decide⟩, by decide, by decide, by decide⟩
    intro row mem
    obtain rfl := List.mem_singleton.mp mem
    exact ⟨_, rfl⟩
  have owned : Owned s := by decide
  have owned' : Owned rows := by decide
  have sweepless : Sweepless steps := by simp [Sweepless, steps]
  exact ⟨start, owned, start', owned', sweepless, run_unanimous start owned sweepless block,
    run_unanimous start' owned' sweepless block, by decide⟩

end Schedule

end OwnerCache
