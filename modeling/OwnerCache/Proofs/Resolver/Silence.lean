/-
# OwnerCache.Proofs.Resolver.Silence -- a stored block answers for its addresses

Once a call has stored a block that is short enough, the cache settles every address
of it by itself.  A call for such an address that begins later neither looks whether
the address is special nor asks a provider, whatever effects asking may have; it is
over as soon as it has read the cache, and what is left of its steps changes nothing
(`Silenced`).

The block need not be the range that wins.  It bounds the length of the winner, and
as nothing is deleted, ranges that come later can only make the winner shorter
(`Volatile.Grows.bestMatch`), so an accepted answer stays accepted.

`run_silenced` says it of every run: whatever came before the block was stored,
sweeps included, and whatever comes after it, sweeps excepted.
-/
import OwnerCache.Proofs.Resolver.History
import OwnerCache.Proofs.Store.Match

namespace OwnerCache.Schedule

set_option autoImplicit false

variable {σ : Type} [RangeStore σ]

/-! ## Calls that are over -/

theorem Call.answer_of_returned {c : Call} (returned : c.result? ≠ none) (reply : Reply) :
    c.answer reply = c := by
  unfold Call.result? at returned
  unfold Call.answer
  cases progress : c.progress with
  | lookingUp reading => simp [progress] at returned
  | informed reading found => rfl
  | returned found result => rfl

theorem Call.finish_of_returned {c : Call} (returned : c.result? ≠ none) (now : Instant) (s : σ) :
    c.finish now s = (c, s) := by
  unfold Call.result? at returned
  unfold Call.finish
  cases progress : c.progress with
  | lookingUp reading => rfl
  | informed reading found => simp [progress] at returned
  | returned found result => rfl

/-- A call of a world has returned. -/
structure World.HasReturned (w : World σ) (k : Nat) (c : Call) : Prop where
  called : w.calls[k]? = some c
  result : c.result? ≠ none

namespace World.HasReturned

variable {w : World σ} {k : Nat} {c : Call}

/-- The steps of a call that has returned change nothing. -/
theorem step_answer (h : w.HasReturned k c) (reply : Reply) : w.step (.answer k reply) = w := by
  have same : w.calls.modify k (Call.answer reply) = w.calls := by
    refine List.ext_getElem? fun j => ?_
    rw [List.getElem?_modify]
    by_cases here : k = j
    · subst here
      simp [h.called, Call.answer_of_returned h.result]
    · simp [here]
  simp only [World.step, same]

theorem step_finish (h : w.HasReturned k c) (now : Instant) : w.step (.finish k now) = w := by
  obtain ⟨within, called⟩ := List.getElem?_eq_some_iff.mp h.called
  simp only [World.step, h.called, Call.finish_of_returned h.result]
  rw [← called, List.set_getElem_self]

/-- Others do not touch it either. -/
theorem step (h : w.HasReturned k c) (step : Step) : (w.step step).HasReturned k c := by
  refine ⟨?_, h.result⟩
  have within : k < w.calls.length := (List.getElem?_eq_some_iff.mp h.called).1
  cases step with
  | begin policy a => exact (List.getElem?_append_left within).trans h.called
  | answer j reply =>
      by_cases here : j = k
      · rw [here, h.step_answer]
        exact h.called
      · simp only [World.step, List.getElem?_modify, here, if_false]
        simpa using h.called
  | finish j now =>
      by_cases here : j = k
      · rw [here, h.step_finish]
        exact h.called
      · simp only [World.step]
        split
        · exact (List.getElem?_set_ne here).trans h.called
        · exact h.called
  | sweep ttl now => exact h.called
  | look a => exact h.called

theorem run (h : w.HasReturned k c) (steps : List Step) : (w.run steps).HasReturned k c := by
  induction steps generalizing w with
  | nil => exact h
  | cons step steps ih => exact ih (h.step step)

end World.HasReturned

/-! ## Addresses that the cache settles -/

/-- The cache settles an address: a call for it returns the owner of the range that wins it, which
was known before, without looking further and without touching the store. -/
structure Silenced (w : World σ) (accepted : Nat) (a : Address) (found : RangeMatch) : Prop where
  bestMatch : RangeStore.bestMatch w.store a = .ok (some found)
  /-- Whatever effects it may have, asking does not happen. -/
  quiet : ∀ (m : Type → Type) [Monad m] (r : Resolver m), r.settings.acceptedLength = accepted →
    r.matchOrCreate a w.store = pure ⟨.ok (.existing found.owner), [], w.store⟩
  /-- Among other calls it has returned as soon as it began, without a lookup. -/
  returned : ∀ policy : Policy, policy.settings.acceptedLength = accepted → ∀ later,
    let c : Call := ⟨policy, a, .returned none (.ok (.existing found.owner))⟩
    let k := w.calls.length
    let after := (w.step (.begin policy a)).run later
    (w.step (.begin policy a)).store = w.store ∧ after.calls[k]? = some c ∧
      (∀ reply, after.step (.answer k reply) = after) ∧
      ∀ now, after.step (.finish k now) = after

theorem silenced_of_readCache {w : World σ} {accepted : Nat} {a : Address} {found : RangeMatch}
    (won : RangeStore.bestMatch w.store a = .ok (some found))
    (settled : readCache accepted w.store a = .ok (.settled found.owner)) :
    Silenced w accepted a found := by
  refine ⟨won, ?_, ?_⟩
  · rintro m _ r rfl
    rw [Resolver.matchOrCreate, settled]
  · rintro policy rfl later
    have begun : Call.begin policy a w.store =
        ⟨policy, a, .returned none (.ok (.existing found.owner))⟩ := by
      rw [Call.begin, settled]
    have called : (w.step (.begin policy a)).HasReturned w.calls.length
        ⟨policy, a, .returned none (.ok (.existing found.owner))⟩ := by
      refine ⟨?_, by simp [Call.result?]⟩
      simp [World.step, begun]
    have after := called.run later
    exact ⟨rfl, after.called, after.step_answer, after.step_finish⟩

variable [Legible σ]

open Legible Meaningful

/-- **A stored block that is short enough answers for its addresses**: a call for one of them that
begins later, as long as nothing is swept, gets the owner of the range that wins it from the cache
alone, and from then on the range that wins it never grows longer. -/
theorem run_silenced {s : σ} (start : WellFormed s) {before between later : List Step} {step : Step}
    {e : Storing} (stores : (World.run ⟨s, []⟩ before).storing? step = some e) {res : Resolution}
    (succeeds : e.result = .ok res) {accepted : Nat} (short : e.finding.block.length ≤ accepted)
    (sweepless : Sweepless between) (sweepless' : Sweepless later) {a : Address}
    (mem : a ∈ e.finding.block) :
    let w : World σ := World.run ⟨s, []⟩ (before ++ step :: between)
    ∃ found, Silenced w accepted a found ∧ matchAddress w.store a = .ok (found.owner, found.length) ∧
      ∃ owner length, matchAddress (w.run later).store a = .ok (owner, length) ∧
        length ≤ found.length := by
  intro w
  obtain ⟨v, means, h⟩ := start.exists_means
  obtain ⟨v₁, means₁, h₁, -⟩ := run_identities (w := ⟨s, []⟩) means h before
  obtain ⟨v₂, means₂, h₂, effect, -⟩ := storing_effect means₁ h₁ stores
  rw [succeeds] at effect
  obtain ⟨r, stored, same, -⟩ := effect.exists_range h₁
  obtain ⟨v₃, means₃, h₃, grows⟩ := run_grows means₂ h₂ sweepless
  have here : Means w.store v₃ := by
    simp only [w, World.run_append]
    exact means₃
  obtain ⟨v₄, means₄, -, grows'⟩ := run_grows here h₃ sweepless'
  have holds : a ∈ r.block := same ▸ mem
  have le : r.length ≤ accepted := by rwa [AddressRange.length, same]
  obtain ⟨found, won, settled⟩ := Volatile.reading_of_mem (grows.ranges.subset stored) holds le
  obtain ⟨found', won', shorter⟩ := grows'.bestMatch won
  refine ⟨found, silenced_of_readCache ?_ ?_, ?_, found'.owner, found'.length, ?_, shorter⟩
  · rw [Meaningful.bestMatch here, won]
  · rw [readCache_eq here, settled]
  · rw [matchAddress_eq here, won]
  · rw [matchAddress_eq means₄, won']

/-- Rows put in from outside, out of order and one with an owner that is not stored, hold an address
too broadly.  A network that is short enough is stored for it, then a narrower one for a neighbour
under a policy that accepts less. -/
theorem run_silenced_narrower :
    let policy (accepted : Nat) : Policy := ⟨{ acceptedLength := accepted }, fun _ => none⟩
    let near : Address := ⟨0x08080808, by decide⟩
    let answer (cidr : String) : Reply := .record ⟨[{ cidr := some cidr, description := some "a" }]⟩
    let rows : Durable :=
      ⟨[⟨5, 0, 0xFFFFFFFF, some 9, 0⟩, ⟨3, 0x08000000, 0x08FFFFFF, none, 0⟩], [], 5, 0⟩
    let before : List Step := [.begin (policy 300) near, .answer 0 (answer "8.8.8.0/24")]
    let between : List Step :=
      [.begin (policy 9) near, .answer 1 (answer "8.8.8.0/29, 8.8.8.8/29"), .finish 1 .least]
    let later : List Step := [.begin (policy 0) near, .answer 2 (answer "8.8.8.8"), .finish 2 .least]
    let w : World Durable := World.run ⟨rows, []⟩ before
    let e : Storing := .of 0 ⟨some "a", none, ⟨⟨0x08080800, by decide⟩, ⟨0x080808FF, by decide⟩⟩⟩ .least
      w.store
    WellFormed rows ∧ w.storing? (.finish 0 .least) = some e ∧
      e.result = .ok ⟨some ⟨1, some "a", none⟩, true⟩ ∧ e.finding.block.length ≤ 300 ∧
      Sweepless between ∧ Sweepless later ∧ near ∈ e.finding.block ∧
      let after : World Durable := World.run ⟨rows, []⟩ (before ++ .finish 0 .least :: between)
      (∃ found, Silenced after 300 near found ∧
        matchAddress after.store near = .ok (found.owner, found.length) ∧
        ∃ owner length, matchAddress (after.run later).store near = .ok (owner, length) ∧
          length ≤ found.length) ∧
      matchAddress after.store near = .ok (some ⟨1, some "a", none⟩, 7) ∧
      matchAddress (after.run later).store near = .ok (some ⟨1, some "a", none⟩, 0) := by
  intro policy near answer rows before between later w e
  have start : WellFormed rows := by
    refine ⟨⟨?_, by decide, by decide⟩, by decide, by decide, by decide⟩
    intro row mem
    rcases List.mem_pair.mp mem with rfl | rfl <;> exact ⟨_, rfl⟩
  have stores : w.storing? (.finish 0 .least) = some e := by decide
  have succeeds : e.result = .ok ⟨some ⟨1, some "a", none⟩, true⟩ := by decide
  have short : e.finding.block.length ≤ 300 := by decide
  have sweepless : Sweepless between := by simp [Sweepless, between]
  have sweepless' : Sweepless later := by simp [Sweepless, later]
  have mem : near ∈ e.finding.block := by decide
  exact ⟨start, stores, succeeds, short, sweepless, sweepless', mem,
    run_silenced start stores succeeds short sweepless sweepless' mem, by decide, by decide⟩

end OwnerCache.Schedule
