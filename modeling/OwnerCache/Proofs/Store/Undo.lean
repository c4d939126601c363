/-
# OwnerCache.Proofs.Store.Undo -- undoing in place is working on a copy

A store in memory carries out a unit of work in place and undoes a failed one
from its journal.  Beside it stands the plain way to the same end: answer every
request from a private copy (`answer`), keep the copy when the unit ends well
and drop it when it fails (`Work.onCopy`).

The two agree on every store and every unit of work, whatever the unit asks for
and whichever refusals it passes over (`transact_eq_onCopy`).

What carries the proof is `Draft.Undoes s`: rolling the draft back now gives `s`.
Each request keeps it.  Rows are appended behind the ones that a rollback keeps.
An owner is replaced on the first range with an id, and the journal remembers
what that very range had, so putting it back first undoes the replacement
(`setOwner_of_find?`) and all earlier entries then meet the list they were made
for.  No assumption about ids is needed: the first range with an id is the same
one before and after (`take_setOwner`).
-/
import OwnerCache.Store.Volatile

namespace OwnerCache

set_option autoImplicit false

/-! ## Working on a copy -/

/-- A unit of work on a private copy of a store, which is kept only when the unit ends well. -/
def Work.onCopy {α σ : Type} (answer : Perform σ) (work : Work α) (s : σ) :
    Except StoreError α × σ :=
  match work.run answer s with
  | (.ok a, copy) => (.ok a, copy)
  | (.error e, _) => (.error e, s)

/-- A private copy is dropped after an error. -/
theorem Work.onCopy_error {α σ : Type} {answer : Perform σ} {work : Work α} {s : σ}
    {e : StoreError} (failed : (work.onCopy answer s).1 = .error e) :
    (work.onCopy answer s).2 = s := by
  unfold onCopy at failed ⊢
  rcases onCopy : work.run answer s with ⟨_ | a, copy⟩
  · rfl
  · rw [onCopy] at failed
    cases failed

namespace Volatile

/-- Give a range an owner, without a journal. -/
def attach (rangeId ownerId : Int) (s : Volatile) : Except StoreError Unit × Volatile :=
  if s.identity? ownerId = none then (.error (.backend (.unknownIdentity ownerId)), s)
  else if s.ranges.find? (·.id = rangeId) = none then
    (.error (.backend (.unknownRange rangeId)), s)
  else (.ok (), { s with ranges := setOwner rangeId (some ownerId) s.ranges })

/-- The answer to a request, and the store that it leaves. -/
def answer : Perform Volatile
  | .createRange block createdAt, s =>
    let (placed, s) := createRange block createdAt s
    (.ok placed, s)
  | .getIdentity id, s => (.ok (s.identity? id), s)
  | .findIdentity name country, s => (.ok (findIdentity name country s), s)
  | .createIdentity name country, s =>
    let (identity, s) := createIdentity name country s
    (.ok identity, s)
  | .attachOwner rangeId ownerId, s => attach rangeId ownerId s

/-! ## Owners put back -/

theorem take_setOwner (id : Int) (owner : Option Int) (rs : List AddressRange) (n : Nat) :
    (setOwner id owner rs).take n = setOwner id owner (rs.take n) := by
  induction rs generalizing n with
  | nil => simp [setOwner]
  | cons r rs ih =>
      cases n with
      | zero => simp [setOwner]
      | succ n =>
          by_cases same : r.id = id
          · simp [setOwner, same]
          · simp [setOwner, same, ih]

theorem setOwner_setOwner (id : Int) (first second : Option Int) (rs : List AddressRange) :
    setOwner id second (setOwner id first rs) = setOwner id second rs := by
  induction rs with
  | nil => rfl
  | cons r rs ih =>
      by_cases same : r.id = id
      · simp [setOwner, same]
      · simp [setOwner, same, ih]

/-- The first range with an id has the owner that it has. -/
theorem setOwner_of_find? {id : Int} {r : AddressRange} {rs : List AddressRange}
    (found : rs.find? (·.id = id) = some r) : setOwner id r.ownerId rs = rs := by
  induction rs with
  | nil => simp at found
  | cons x rs ih =>
      by_cases same : x.id = id
      · have : x = r := by simpa [same] using found
        subst this
        rw [setOwner, if_pos same]
      · have later : rs.find? (·.id = id) = some r := by simpa [same] using found
        simp [setOwner, same, ih later]

/-! ## Drafts that undo to a store -/

/-- Rolling the draft back gives `s`. -/
structure Draft.Undoes (d : Draft) (s : Volatile) : Prop where
  rangeCount_le : d.journal.rangeCount ≤ d.store.ranges.length
  identityCount_le : d.journal.identityCount ≤ d.store.identities.length
  rollback_eq : d.rollback = s

theorem Draft.undoes_begin (s : Volatile) : (Draft.begin s).Undoes s where
  rangeCount_le := Nat.le_refl _
  identityCount_le := Nat.le_refl _
  rollback_eq := by simp [Draft.begin, Draft.rollback]

theorem createRange_undoes {d : Draft} {s : Volatile} (undoes : d.Undoes s) (block : Block)
    (createdAt : Instant) :
    Draft.Undoes { d with store := (createRange block createdAt d.store).2 } s := by
  unfold createRange
  split
  · exact undoes
  · have kept := undoes.rangeCount_le
    refine ⟨by simp; omega, undoes.identityCount_le, ?_⟩
    simpa [Draft.rollback, List.take_append_of_le_length kept] using undoes.rollback_eq

theorem createIdentity_undoes {d : Draft} {s : Volatile} (undoes : d.Undoes s)
    (name country : Option String) :
    Draft.Undoes { d with store := (createIdentity name country d.store).2 } s := by
  have kept := undoes.identityCount_le
  refine ⟨undoes.rangeCount_le, by simp [createIdentity]; omega, ?_⟩
  simpa [createIdentity, Draft.rollback, List.take_append_of_le_length kept]
    using undoes.rollback_eq

theorem length_setOwner (id : Int) (owner : Option Int) (rs : List AddressRange) :
    (setOwner id owner rs).length = rs.length := by
  induction rs with
  | nil => rfl
  | cons r rs ih => by_cases same : r.id = id <;> simp [setOwner, same, ih]

theorem attachOwner_undoes {d : Draft} {s : Volatile} (undoes : d.Undoes s)
    (rangeId ownerId : Int) : (attachOwner rangeId ownerId d).2.Undoes s := by
  unfold attachOwner
  split
  · exact undoes
  · split
    · exact undoes
    · rename_i range found
      refine ⟨?_, undoes.identityCount_le, ?_⟩
      · simpa [length_setOwner] using undoes.rangeCount_le
      · -- The newest entry of the journal goes back first, onto the list it was taken from.
        have back : setOwner rangeId range.ownerId
              ((setOwner rangeId (some ownerId) d.store.ranges).take d.journal.rangeCount) =
            d.store.ranges.take d.journal.rangeCount := by
          rw [← take_setOwner, setOwner_setOwner, setOwner_of_find? found]
        simpa [Draft.rollback, back] using undoes.rollback_eq

/-- Whatever is asked for, the draft still undoes to the store it began with. -/
theorem perform_undoes {d : Draft} {s : Volatile} (undoes : d.Undoes s) (q : Request) :
    (perform q d).2.Undoes s := by
  cases q with
  | createRange block createdAt => exact createRange_undoes undoes block createdAt
  | getIdentity id => exact undoes
  | findIdentity name country => exact undoes
  | createIdentity name country => exact createIdentity_undoes undoes name country
  | attachOwner rangeId ownerId => exact attachOwner_undoes undoes rangeId ownerId

/-! ## Agreement -/

/-- A draft gives the replies that a copy gives, and holds what the copy holds. -/
theorem perform_answers (q : Request) (d : Draft) :
    (perform q d).1 = (answer q d.store).1 ∧ (perform q d).2.store = (answer q d.store).2 := by
  cases q with
  | attachOwner rangeId ownerId =>
      simp only [perform, answer, attachOwner, attach]
      by_cases unknown : d.store.identity? ownerId = none
      · simp [unknown]
      · cases found : d.store.ranges.find? (·.id = rangeId) <;> simp [unknown]
  | _ => exact ⟨rfl, rfl⟩

/-- What a unit of work comes to on a draft, against a copy and against a rollback. -/
theorem run_perform {α : Type} (work : Work α) {d : Draft} {s : Volatile} (undoes : d.Undoes s) :
    (work.run perform d).1 = (work.run answer d.store).1 ∧
      (work.run perform d).2.store = (work.run answer d.store).2 ∧
      (work.run perform d).2.rollback = s := by
  induction work generalizing d with
  | done a => exact ⟨rfl, rfl, undoes.rollback_eq⟩
  | fail e => exact ⟨rfl, rfl, undoes.rollback_eq⟩
  | ask q next ih =>
      obtain ⟨reply, store⟩ := perform_answers q d
      have rest := ih (perform q d).1 (perform_undoes undoes q)
      simp only [Work.run]
      rw [← reply, ← store]
      exact rest

/-- A unit of work in place comes to what it comes to on a private copy. -/
theorem transact_onCopy {α : Type} (work : Work α) (s : Volatile) :
    transact work s = work.onCopy answer s := by
  have together := run_perform work (Draft.undoes_begin s)
  unfold transact Work.onCopy
  rcases inPlace : work.run perform (Draft.begin s) with ⟨result, d⟩
  rcases onCopy : work.run answer s with ⟨result', copy⟩
  rw [inPlace, show (Draft.begin s).store = s from rfl, onCopy] at together
  obtain ⟨rfl, rfl, rollback⟩ := together
  cases result with
  | ok a => rfl
  | error e => simpa using rollback

/-- **A unit of work in place is a unit of work on a private copy.**  One that ends with an error
leaves ranges, identities and counters exactly as they were. -/
theorem transact_eq_onCopy {α : Type} (work : Work α) (s : Volatile) :
    transact work s = work.onCopy answer s ∧
      ∀ e, (transact work s).1 = .error e → (transact work s).2 = s := by
  refine ⟨transact_onCopy work s, fun e failed => ?_⟩
  rw [transact_onCopy] at failed ⊢
  exact Work.onCopy_error failed

/-- A unit that gives a stored range a new owner twice, creates a range and gives that one an owner
too, passes over a refusal, and then fails: nothing of it is left. -/
theorem transact_failed_after_attaching :
    let r : AddressRange := ⟨1, .single ⟨7, by decide⟩, some 1, .least⟩
    let s : Volatile := ⟨[r], [⟨1, none, none⟩], 1, 1⟩
    let work : Work Unit := do
      let owner ← Work.request (.createIdentity (some "a") none)
      Work.request (.attachOwner 1 owner.id)
      Work.request (.attachOwner 1 1)
      let placed ← Work.request (.createRange (.single ⟨8, by decide⟩) .least)
      Work.request (.attachOwner placed.range.id owner.id)
      .ask (.attachOwner 9 1) fun _ => .fail (.task "stop")
    (transact work s).1 = .error (.task "stop") ∧ (transact work s).2 = s := by
  intro r s work
  have failed : (transact work s).1 = .error (.task "stop") := by rfl
  exact ⟨failed, (transact_eq_onCopy work s).2 _ failed⟩

end Volatile

end OwnerCache
