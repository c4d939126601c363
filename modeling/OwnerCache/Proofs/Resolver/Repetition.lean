/-
# OwnerCache.Proofs.Resolver.Repetition -- a call made twice in a row

A call that has returned an owner leaves a store in which the same call finds that
owner without storing anything: the store foretells the answer (`Foretells`).  There
are three ways to it.

* The cache settles the address.  If the call stored a block that is short enough,
  that block wins: the cache had settled nothing, so all other ranges that hold the
  address are longer than what is accepted.
* The cache settles nothing and the lookup fails, so the answer is the fallback, in a
  store that has not changed.
* The cache settles nothing and the lookup finds a block that is stored now, with
  that owner.  Another range may still win the address, if the block is too long.

In the last case the second call asks for a range that is there already.  A store in
memory has nothing to do then.  A store of rows takes an id even so, and where the
first call took the last one there is none left: the second call is refused
(`alone_again_without_ids`).  No row changes either way.
-/
import OwnerCache.Proofs.Resolver.Invariant
import OwnerCache.Proofs.Store.Match
import OwnerCache.Proofs.Whois.Block

namespace OwnerCache

set_option autoImplicit false

/-! ## The answer to come -/

namespace Volatile

/-- The cache does not settle an address. -/
def Unsettled (v : Volatile) (accepted : Nat) (a : Address) : Prop :=
  ∀ owner, v.reading accepted a ≠ .settled owner

/-- With what a lookup finds or misses, the owner of an address is in the store already. -/
inductive Foretells (v : Volatile) (accepted : Nat) (a : Address)
    (found : Except Whois.Error Whois.Finding) : Option Identity → Prop
  | cached {owner : Option Identity} (settled : v.reading accepted a = .settled owner) :
      Foretells v accepted a found owner
  | missed {cause : Whois.Error} (unsettled : v.Unsettled accepted a) (failed : found = .error cause) :
      Foretells v accepted a found (v.reading accepted a).fallback
  | stored {f : Whois.Finding} {range : AddressRange} (unsettled : v.Unsettled accepted a)
      (finding : found = .ok f) (here : v.ranges.find? (·.block = f.block) = some range) :
      Foretells v accepted a found (v.ownerOf range)

variable {v v' : Volatile} {accepted : Nat} {a : Address} {f : Whois.Finding} {res : Resolution}

/-- What the cache does not settle is held by ranges that are too long, or by none. -/
theorem unsettled_iff :
    v.Unsettled accepted a ↔ ∀ r ∈ v.ranges, a ∈ r.block → accepted < r.length := by
  constructor
  · intro unsettled r mem holds
    by_contra short
    obtain ⟨m, -, settled⟩ := reading_of_mem mem holds (Nat.le_of_not_lt short)
    exact unsettled m.owner settled
  · intro long owner settled
    obtain ⟨r, mem, holds, short⟩ := settled_of_reading settled
    exact Nat.not_lt_of_le short (long r mem holds)

/-- Where nothing was settled before, a finding that is stored foretells its owner. -/
theorem Effect.foretells (h : v.WellFormed) (unsettled : v.Unsettled accepted a)
    (holds : a ∈ f.block) (effect : v.Effect f (.ok res) v') :
    v'.Foretells accepted a (.ok f) res.owner := by
  have h' := h.effect effect
  have long := unsettled_iff.mp unsettled
  obtain ⟨r, mem, same, owner⟩ := effect.exists_range h
  rw [← owner]
  by_cases short : r.length ≤ accepted
  · -- It wins: the others were there before, and did not settle the matter.
    have shortest : ∀ r' ∈ v'.ranges, a ∈ r'.block → r' ≠ r → r.length < r'.length := by
      intro r' mem' holds' other
      rcases effect.mem_or_block r' mem' with before | same'
      · exact Nat.lt_of_le_of_lt short (long r' before holds')
      · exact absurd (h'.eq_of_block mem' mem (same'.trans same.symm)) other
    have won := bestMatch_of_shortest mem (same ▸ holds) shortest
    have settled : (⟨r, v'.ownerOf r⟩ : RangeMatch).length ≤ accepted := short
    exact .cached (by simp only [reading, won, settled, if_true])
  · refine .stored (unsettled_iff.mpr fun r' mem' holds' => ?_) rfl (h'.find?_block mem same)
    rcases effect.mem_or_block r' mem' with before | same'
    · exact long r' before holds'
    · rw [h'.eq_of_block mem' mem (same'.trans same.symm)]
      exact Nat.lt_of_not_le short

/-- To store a block again changes nothing in memory. -/
theorem transact_of_stored (bounded : ∀ r ∈ v.ranges, r.id ≤ v.lastRangeId) {range : AddressRange}
    (here : v.ranges.find? (·.block = f.block) = some range) (now : Instant) :
    (transact (commit f now) v).1.map (·.resolution) = .ok (.existing (v.ownerOf range)) ∧
      (transact (commit f now) v).2 = v := by
  rw [transact_commit bounded f now]
  constructor
  · simp only [register, here]
    rfl
  · simp only [register, here]

end Volatile

/-- To store a block again changes no row, and answers with its owner if an id is left. -/
theorem Durable.Means.transact_of_stored {s : Durable} {v : Volatile} (means : s.Means v)
    {f : Whois.Finding} {range : AddressRange}
    (here : v.ranges.find? (·.block = f.block) = some range) (now : Instant) :
    let (result, after) := s.transact (commit f now)
    after.rows = s.rows ∧ after.identities = s.identities ∧
      (result.map (·.resolution) = .ok (.existing (v.ownerOf range)) ∨
        s.lastRangeId = greatestId ∧ result = .error (.backend .full)) := by
  obtain ⟨rfl, times⟩ := means
  rw [transact_onCopy (commit_strict f now), Work.onCopy]
  by_cases left : (Durable.of v).lastRangeId = greatestId
  · have refused : ((commit f now).run answer (Durable.of v)).1 = .error (.backend .full) := by
      rw [commit, Work.run_bind, Work.run_request, answer, createRange_full left]
    rcases ran : (commit f now).run answer (Durable.of v) with ⟨result, store⟩
    rw [ran] at refused
    obtain rfl : result = .error (.backend .full) := refused
    exact ⟨rfl, rfl, .inr ⟨left, rfl⟩⟩
  · rw [show (commit f now).run answer (Durable.of v) = _ from stores_stored times left here now]
    simp only [Volatile.register, here]
    exact ⟨rfl, rfl, .inl rfl⟩

namespace Schedule

/-! ## A call by itself -/

/-- What comes of a call by itself. -/
def alone {σ : Type} [RangeStore σ] (policy : Policy) (a : Address) (reply : Reply) (now : Instant)
    (s : σ) : Outcome σ :=
  (steady policy reply now).matchOrCreate a s

variable {σ : Type} [RangeStore σ] [Legible σ] {s : σ} {v : Volatile}

open Legible Meaningful

theorem lookup_steady (policy : Policy) (a : Address) (reply : Reply) (now : Instant) :
    ((steady policy reply now).lookup a : Id _).1 = lookedUp policy a reply := by
  unfold Resolver.lookup lookedUp
  simp only [steady]
  cases policy.classify a <;> rfl

theorem alone_of_settled (means : Means s v) {policy : Policy} {a : Address} {owner : Option Identity}
    (settled : v.reading policy.settings.acceptedLength a = .settled owner) (reply : Reply)
    (now : Instant) : alone policy a reply now s = ⟨.ok (.existing owner), [], s⟩ := by
  rw [alone, Resolver.matchOrCreate, steady, readCache_eq means, settled]
  rfl

theorem alone_of_unsettled (means : Means s v) {policy : Policy} {a : Address}
    (unsettled : v.Unsettled policy.settings.acceptedLength a) (reply : Reply) (now : Instant) :
    let fallback := (v.reading policy.settings.acceptedLength a).fallback
    let concluded := conclude a fallback (lookedUp policy a reply) now s
    (alone policy a reply now s).result = concluded.result ∧
      (alone policy a reply now s).store = concluded.store := by
  have settings : (steady policy reply now).settings = policy.settings := rfl
  simp only [alone, Resolver.matchOrCreate, settings, readCache_eq means,
    ← lookup_steady policy a reply now]
  cases reading : v.reading policy.settings.acceptedLength a with
  | settled owner => exact absurd reading (unsettled owner)
  | tooBroad owner length => exact ⟨rfl, rfl⟩
  | absent => exact ⟨rfl, rfl⟩

/-- A call that returns an owner leaves a store that foretells it. -/
theorem foretells_of_alone (means : Means s v) (h : v.WellFormed) {policy : Policy} {a : Address}
    {reply : Reply} {now : Instant} {res : Resolution}
    (returned : (alone policy a reply now s).result = .ok res) :
    ∃ v', Means (alone policy a reply now s).store v' ∧ v'.WellFormed ∧
      v'.Foretells policy.settings.acceptedLength a (lookedUp policy a reply) res.owner := by
  by_cases unsettled : v.Unsettled policy.settings.acceptedLength a
  · obtain ⟨result, store⟩ := alone_of_unsettled means unsettled reply now
    rw [result] at returned
    rw [store]
    cases looked : lookedUp policy a reply with
    | error cause =>
        rw [looked] at returned
        obtain rfl := Except.ok.inj returned
        exact ⟨v, means, h, .missed unsettled rfl⟩
    | ok f =>
        rw [looked, conclude_result] at returned
        rw [conclude_store]
        obtain ⟨v', stored, means'⟩ := Meaningful.transact means h.range_le f now
        have effect := stored.effect
        rw [returned] at effect
        exact ⟨v', means', h.effect effect,
          effect.foretells h unsettled (mem_block_of_lookedUp looked)⟩
  · obtain ⟨owner, settled⟩ := Classical.not_forall.mp unsettled
    have settled := Classical.not_not.mp settled
    rw [alone_of_settled means settled] at returned ⊢
    obtain rfl := Except.ok.inj returned
    exact ⟨v, means, h, .cached settled⟩

/-- A call on a store that foretells its answer gives it, or stores a block again. -/
theorem alone_of_foretells (means : Means s v) {policy : Policy} {a : Address} {reply : Reply}
    {owner : Option Identity}
    (foretells : v.Foretells policy.settings.acceptedLength a (lookedUp policy a reply) owner)
    (now : Instant) :
    (alone policy a reply now s).result = .ok (.existing owner) ∧ (alone policy a reply now s).store = s ∨
      ∃ f range, v.ranges.find? (·.block = f.block) = some range ∧ v.ownerOf range = owner ∧
        (alone policy a reply now s).result =
          (RangeStore.transact (commit f now) s).1.map (·.resolution) ∧
        (alone policy a reply now s).store = (RangeStore.transact (commit f now) s).2 := by
  cases foretells with
  | cached settled =>
      rw [alone_of_settled means settled]
      exact .inl ⟨rfl, rfl⟩
  | missed unsettled failed =>
      obtain ⟨result, store⟩ := alone_of_unsettled means unsettled reply now
      rw [result, store, failed]
      exact .inl ⟨rfl, rfl⟩
  | stored unsettled finding here =>
      rename_i f range
      obtain ⟨result, store⟩ := alone_of_unsettled means unsettled reply now
      rw [result, store, finding, conclude_result, conclude_store]
      exact .inr ⟨f, range, here, rfl, rfl, rfl⟩

/-! ## Twice in a row -/

/-- **A call made again right after it returned an owner returns that owner**, as one known before,
and changes no range and no identity.  As rows this takes an id: the call is refused, and
changes nothing either, if the first one left none. -/
theorem alone_again (policy : Policy) (a : Address) (reply : Reply) (now later : Instant) :
    (∀ s : Volatile, WellFormed s → ∀ res,
      let first := alone policy a reply now s
      let again := alone policy a reply later first.store
      first.result = .ok res →
        again.result = .ok (.existing res.owner) ∧ again.store = first.store) ∧
    ∀ s : Durable, WellFormed s → ∀ res,
      let first := alone policy a reply now s
      let again := alone policy a reply later first.store
      first.result = .ok res →
        again.store.rows = first.store.rows ∧ again.store.identities = first.store.identities ∧
        (again.result = .ok (.existing res.owner) ∨
          first.store.lastRangeId = Durable.greatestId ∧ again.result = .error (.backend .full)) := by
  constructor
  · intro s start res first again returned
    obtain ⟨v, means, h⟩ := start.exists_means
    obtain ⟨v', means', h', foretells⟩ := foretells_of_alone means h returned
    rcases alone_of_foretells means' foretells later with done | ⟨f, range, here, owner, result, store⟩
    · exact done
    · obtain rfl : first.store = v' := means'
      obtain ⟨answer, same⟩ := Volatile.transact_of_stored h'.range_le here later
      exact ⟨result.trans (owner ▸ answer), store.trans same⟩
  · intro s start res first again returned
    obtain ⟨v, means, h⟩ := start.exists_means
    obtain ⟨v', means', h', foretells⟩ := foretells_of_alone means h returned
    rcases alone_of_foretells means' foretells later with
      ⟨result, store⟩ | ⟨f, range, here, owner, result, store⟩
    · exact ⟨congrArg _ store, congrArg _ store, .inl result⟩
    · obtain ⟨rows, identities, answer⟩ := Durable.Means.transact_of_stored means' here later
      refine ⟨(congrArg _ store).trans rows, (congrArg _ store).trans identities, ?_⟩
      rcases answer with answer | ⟨full, refused⟩
      · exact .inl (result.trans (owner ▸ answer))
      · refine .inr ⟨full, result.trans ?_⟩
        rw [show (RangeStore.transact (commit f later) first.store).1 = _ from refused]
        rfl

/-- The block that is stored is too long, and a shorter one without an owner goes on winning the
address: the second call looks it up again, and finds the owner in the block. -/
theorem alone_again_broad :
    let policy : Policy := ⟨{ acceptedLength := 9 }, fun _ => none⟩
    let a : Address := ⟨0x08080808, by decide⟩
    let reply : Reply := .record ⟨[{ cidr := some "8.8.0.0/16", description := some "Google" }]⟩
    let s : Volatile :=
      ⟨[⟨3, ⟨⟨0, by decide⟩, ⟨0xFFFFFFFF, by decide⟩⟩, some 9, .least⟩,
        ⟨5, ⟨⟨0x08080800, by decide⟩, ⟨0x080808FF, by decide⟩⟩, none, .least⟩], [], 5, 0⟩
    let rows : Durable := .of s
    let res : Resolution := ⟨some ⟨1, some "Google", none⟩, true⟩
    let first := alone policy a reply .least s
    let again := alone policy a reply .least first.store
    let firstRows := alone policy a reply .least rows
    let againRows := alone policy a reply .least firstRows.store
    WellFormed s ∧ first.result = .ok res ∧
      (again.result = .ok (.existing res.owner) ∧ again.store = first.store) ∧
      WellFormed rows ∧ firstRows.result = .ok res ∧
      (againRows.store.rows = firstRows.store.rows ∧
        againRows.store.identities = firstRows.store.identities ∧
        (againRows.result = .ok (.existing res.owner) ∨
          firstRows.store.lastRangeId = Durable.greatestId ∧
            againRows.result = .error (.backend .full))) ∧
      matchAddress again.store a = .ok (none, 255) ∧
      againRows.store.lastRangeId = firstRows.store.lastRangeId + 1 := by
  intro policy a reply s rows res
  have start : WellFormed s := ⟨⟨by decide, by decide⟩, by decide, by decide, by decide⟩
  have start' : WellFormed rows := by
    refine ⟨⟨?_, by decide, by decide⟩, by decide, by decide, by decide⟩
    intro row mem
    rcases List.mem_pair.mp mem with rfl | rfl <;> exact ⟨_, rfl⟩
  have returned : (alone policy a reply .least s).result = .ok res := by decide
  have returned' : (alone policy a reply .least rows).result = .ok res := by decide
  exact ⟨start, returned, (alone_again policy a reply .least .least).1 s start res returned,
    start', returned', (alone_again policy a reply .least .least).2 rows start' res returned',
    by decide, by decide⟩

/-- The first call takes the last id of a store of rows, and the second one is refused for want of
another. -/
theorem alone_again_without_ids :
    let policy : Policy := ⟨{ acceptedLength := 0 }, fun _ => none⟩
    let a : Address := ⟨0x08080808, by decide⟩
    let reply : Reply := .record ⟨[{ cidr := some "8.8.8.0/24", description := some "Google" }]⟩
    let s : Durable := ⟨[⟨Durable.greatestId - 1, 5, 9, none, 0⟩], [], Durable.greatestId - 1, 0⟩
    let first := alone policy a reply .least s
    WellFormed s ∧ first.result = .ok ⟨some ⟨1, some "Google", none⟩, true⟩ ∧
      (alone policy a reply .least first.store).result = .error (.backend .full) := by
  intro policy a reply s first
  refine ⟨⟨⟨?_, by decide, by decide⟩, by decide, by decide, by decide⟩, by decide, by decide⟩
  intro row mem
  obtain rfl := List.mem_singleton.mp mem
  exact ⟨_, rfl⟩

end Schedule

end OwnerCache
