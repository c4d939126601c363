/-
# OwnerCache.Proofs.Resolver.Containment -- failed lookups stay inside

A provider may do as it likes: it is given by what it replies, and what becomes of it, in
each state of the world around the resolver.  To see what a call does there and to the
store, it is run with a provider that notes the questions it is asked (`noting`) and on a
store that notes how its transactions end (`Watched`).  Both do what they did before.

`Contained` is what holds of every call, for every store, policy, provider and clock:

* an error that the call returns is an error of its reading of the cache or of its
  transaction, and such an error is returned;
* the provider is asked once, about the address, if the cache leaves it open and it is not
  special, and otherwise not at all;
* a lookup that fails leaves the store alone, without a transaction, and the call returns
  the owner of the range that was too long, if there is one;
* a transaction that fails leaves the store as it was, if the store is `Atomic`.

All stores are atomic for units of work that end at the first error, as those of a resolver
do.
-/
import OwnerCache.Proofs.Store.Strict
import OwnerCache.Store.Refusing

namespace OwnerCache

set_option autoImplicit false

/-! ## Stores that take back what fails -/

/-- A transaction that ends with an error leaves no trace. -/
class Atomic (σ : Type) [RangeStore σ] : Prop where
  store_eq : ∀ {α : Type} {work : Work α} {s s' : σ} {e : StoreError}, work.Strict →
    RangeStore.transact work s = (.error e, s') → s' = s

instance : Atomic Volatile where
  store_eq {_ work s s' e} _ failed := by
    change Volatile.transact work s = _ at failed
    rw [Volatile.transact_onCopy] at failed
    have undone := Work.onCopy_error (congrArg Prod.fst failed)
    rw [failed] at undone
    exact undone

instance : Atomic Durable where
  store_eq {_ work s s' e} strict failed := by
    change Durable.transact work s = _ at failed
    rw [Durable.transact_onCopy strict] at failed
    have undone := Work.onCopy_error (congrArg Prod.fst failed)
    rw [failed] at undone
    exact undone

instance {σ : Type} [RangeStore σ] [Atomic σ] : Atomic (Refusing σ) where
  store_eq {_ work s s' e} strict failed := by
    obtain ⟨store, find, transaction, delete⟩ := s
    cases transaction with
    | some refusal => exact (congrArg Prod.snd failed).symm
    | none =>
        rcases inside : RangeStore.transact work store with ⟨result, store'⟩
        have whole : RangeStore.transact work (⟨store, find, none, delete⟩ : Refusing σ) =
            (result, ⟨store', find, none, delete⟩) := by
          simp only [RangeStore.transact, inside]
        rw [whole] at failed
        obtain ⟨rfl, rfl⟩ := Prod.mk.inj failed
        rw [Atomic.store_eq strict inside]

/-! ## Noting what is done -/

/-- A store that notes how its transactions end. -/
structure Watched (σ : Type) where
  store : σ
  ended : List (Except StoreError Unit) := []

instance {σ : Type} [RangeStore σ] : RangeStore (Watched σ) where
  bestMatch w a := RangeStore.bestMatch w.store a
  transact work w :=
    let (result, store) := RangeStore.transact work w.store
    (result, ⟨store, w.ended ++ [result.map fun _ => ()]⟩)
  transcript work w := RangeStore.transcript work w.store
  deleteExpired ttl now w :=
    let (result, store) := RangeStore.deleteExpired ttl now w.store
    (result, { w with store := store })
  rangeCount w := RangeStore.rangeCount w.store
  identityCount w := RangeStore.identityCount w.store

/-- An outcome without the notes of its store. -/
def Outcome.plain {σ : Type} (out : Outcome (Watched σ)) : Outcome σ :=
  ⟨out.result, out.events, out.store.store⟩

namespace Resolver

variable {σ ω : Type} [RangeStore σ]

/-- A resolver whose provider notes the questions it is asked. -/
def noting (r : Resolver (StateM ω)) : Resolver (StateM (ω × List Address)) :=
  { r with
    ask := fun a (w, asked) =>
      let (reply, w) := r.ask a w
      (reply, w, asked ++ [a])
    clock := fun (w, asked) =>
      let (now, w) := r.clock w
      (now, w, asked) }

/-! ## What holds of a call -/

/-- The cache leaves an address open: no range holds it, or only ranges too long. -/
def LeftOpen (accepted : Nat) (s : σ) (a : Address) : Prop :=
  ∃ found, RangeStore.bestMatch s a = .ok found ∧ ∀ m ∈ found, accepted < m.length

/-- The owner of the range that wins an address. -/
def cachedOwner (s : σ) (a : Address) : Option Identity :=
  match RangeStore.bestMatch s a with
  | .ok (some found) => found.owner
  | _ => none

/-- What a call in a world `w` returned and left, on a store `s`, having asked some questions. -/
structure Contained (r : Resolver (StateM ω)) (a : Address) (s : σ) (w : ω)
    (out : Outcome (Watched σ)) (asked : List Address) : Prop where
  error_iff : ∀ e, out.result = .error e ↔
    RangeStore.bestMatch s a = .error e ∨ .error e ∈ out.store.ended
  asked_eq :
    LeftOpen r.settings.acceptedLength s a ∧ r.classify a = none ∧ asked = [a] ∨
      ¬ (LeftOpen r.settings.acceptedLength s a ∧ r.classify a = none) ∧ asked = []
  missed : LeftOpen r.settings.acceptedLength s a → r.classify a = none →
    ∀ cause, (r.settings.interpret a (r.ask a w).1).1 = .error cause →
      out.result = .ok ⟨cachedOwner s a, false⟩ ∧ out.store = ⟨s, []⟩
  unread : ∀ e, RangeStore.bestMatch s a = .error e → asked = [] ∧ out.store = ⟨s, []⟩
  undone : ∀ _ : Atomic σ, ∀ e, .error e ∈ out.store.ended → out.store.store = s

variable {r : Resolver (StateM ω)} {a : Address} {s : σ} {w : ω}

/-! ## Reading -/

/-- What a reading says about the range that wins. -/
theorem readCache_cases (accepted : Nat) (s : σ) (a : Address) :
    (∃ e, RangeStore.bestMatch s a = .error e ∧ readCache accepted s a = .error e) ∨
      (∃ owner, (∃ found, RangeStore.bestMatch s a = .ok found) ∧ ¬ LeftOpen accepted s a ∧
        readCache accepted s a = .ok (.settled owner)) ∨
      ∃ reading, (∃ found, RangeStore.bestMatch s a = .ok found) ∧ LeftOpen accepted s a ∧
        readCache accepted s a = .ok reading ∧ (∀ owner, reading ≠ .settled owner) ∧
        reading.fallback = cachedOwner s a := by
  unfold readCache matchAddress LeftOpen cachedOwner
  rcases RangeStore.bestMatch s a with e | _ | m
  · exact .inl ⟨e, rfl, rfl⟩
  · exact .inr (.inr ⟨.absent, ⟨none, rfl⟩, ⟨none, rfl, by simp⟩, rfl, nofun, rfl⟩)
  · by_cases le : m.length ≤ accepted
    · refine .inr (.inl ⟨m.owner, ⟨some m, rfl⟩, ?_, if_pos le⟩)
      rintro ⟨_, same, long⟩
      cases same
      exact absurd (long m rfl) (Nat.not_lt.mpr le)
    · refine .inr (.inr ⟨.tooBroad m.owner m.length, ⟨some m, rfl⟩, ⟨some m, rfl, ?_⟩,
        if_neg le, nofun, rfl⟩)
      rintro _ ⟨⟩
      exact Nat.lt_of_not_le le

/-! ## The rest of a call -/

/-- What a call does once the cache leaves its address open. -/
def goOn (r : Resolver (StateM ω)) (a : Address) (reading : Reading) (s : σ) (w : ω) :
    Outcome σ × ω :=
  let looked := r.lookup a w
  let tick := r.clock looked.2
  let out := conclude a reading.fallback looked.1.1 tick.1 s
  ({ out with events := reading.events a ++ looked.1.2 ++ out.events }, tick.2)

theorem matchOrCreate_error {e : StoreError}
    (read : readCache r.settings.acceptedLength s a = .error e) :
    r.matchOrCreate a s w = (⟨.error e, [], s⟩, w) := by
  rw [matchOrCreate, read]
  rfl

theorem matchOrCreate_settled {owner : Option Identity}
    (read : readCache r.settings.acceptedLength s a = .ok (.settled owner)) :
    r.matchOrCreate a s w = (⟨.ok (.existing owner), [], s⟩, w) := by
  rw [matchOrCreate, read]
  rfl

theorem matchOrCreate_open {reading : Reading}
    (read : readCache r.settings.acceptedLength s a = .ok reading)
    (unsettled : ∀ owner, reading ≠ .settled owner) :
    r.matchOrCreate a s w = r.goOn a reading s w := by
  rw [matchOrCreate, read]
  cases reading with
  | settled owner => exact absurd rfl (unsettled owner)
  | tooBroad owner length => rfl
  | absent => rfl

/-- The provider is asked only about an address that is not special. -/
theorem noting_lookup (r : Resolver (StateM ω)) (a : Address) (w : ω) (asked : List Address) :
    r.noting.lookup a (w, asked) =
      ((r.lookup a w).1, (r.lookup a w).2,
        if r.classify a = none then asked ++ [a] else asked) := by
  have same : r.noting.classify a = r.classify a := rfl
  unfold lookup
  cases special : r.classify a with
  | some name => simp [same, special]; rfl
  | none => simp [same, special]; rfl

theorem lookup_found (special : r.classify a = none) :
    (r.lookup a w).1.1 = (r.settings.interpret a (r.ask a w).1).1 := by
  rw [lookup, special]
  rfl

/-- How storing a finding ends is noted, and nothing else happens. -/
theorem conclude_watched (fallback : Option Identity) (found : Except Whois.Error Whois.Finding)
    (now : Instant) :
    let out := conclude a fallback found now (⟨s, []⟩ : Watched σ)
    out.plain = conclude a fallback found now s ∧
      (∀ e, out.result = .error e ↔ .error e ∈ out.store.ended) ∧
      (∀ _ : Atomic σ, ∀ e, .error e ∈ out.store.ended → out.store.store = s) := by
  cases found with
  | error cause => exact ⟨rfl, by simp [conclude], by simp [conclude]⟩
  | ok finding =>
      rcases inside : RangeStore.transact (commit finding now) s with ⟨result, s'⟩
      have watched : RangeStore.transact (commit finding now) (⟨s, []⟩ : Watched σ) =
          (result, ⟨s', [result.map fun _ => ()]⟩) := by
        simp [RangeStore.transact, inside]
      cases result with
      | ok committed =>
          refine ⟨?_, ?_, ?_⟩
          · simp [conclude, watched, inside, Outcome.plain]
          · simp [conclude, watched, Except.map]
          · simp [conclude, watched, Except.map]
      | error e =>
          refine ⟨?_, ?_, fun _ _ _ => ?_⟩
          · simp [conclude, watched, inside, Outcome.plain]
          · simp [conclude, watched, Except.map, eq_comm]
          · have undone := Atomic.store_eq (commit_strict finding now) inside
            simp [conclude, watched, undone]

theorem noting_goOn (r : Resolver (StateM ω)) (a : Address) (reading : Reading) (s : σ) (w : ω) :
    r.noting.goOn a reading (⟨s, []⟩ : Watched σ) (w, []) =
      let looked := r.lookup a w
      let tick := r.clock looked.2
      let out := conclude a reading.fallback looked.1.1 tick.1 (⟨s, []⟩ : Watched σ)
      ({ out with events := reading.events a ++ looked.1.2 ++ out.events }, tick.2,
        if r.classify a = none then [a] else []) := by
  rw [goOn, noting_lookup]
  rfl

theorem noting_goOn_plain (r : Resolver (StateM ω)) (a : Address) (reading : Reading) (s : σ)
    (w : ω) :
    let run := r.noting.goOn a reading (⟨s, []⟩ : Watched σ) (w, [])
    (run.1.plain, run.2.1) = r.goOn a reading s w := by
  have plain := (conclude_watched (s := s) (a := a) reading.fallback (r.lookup a w).1.1
    (r.clock (r.lookup a w).2).1).1
  rw [noting_goOn, goOn, ← plain]
  rfl

theorem contained_of_open {reading : Reading} {found : Option RangeMatch}
    (read : RangeStore.bestMatch s a = .ok found)
    (unsettled : LeftOpen r.settings.acceptedLength s a)
    (fallback : reading.fallback = cachedOwner s a) :
    let run := r.noting.goOn a reading (⟨s, []⟩ : Watched σ) (w, [])
    Contained r a s w run.1 run.2.2 := by
  obtain ⟨-, fails, undone⟩ := conclude_watched (s := s) (a := a) reading.fallback
    (r.lookup a w).1.1 (r.clock (r.lookup a w).2).1
  rw [noting_goOn]
  refine ⟨fun e => ?_, ?_, fun _ ordinary cause missed => ?_, fun e broken => ?_, undone⟩
  · have sound : RangeStore.bestMatch s a ≠ .error e := by simp [read]
    rw [or_iff_right sound]
    exact fails e
  · by_cases ordinary : r.classify a = none
    · exact .inl ⟨unsettled, ordinary, if_pos ordinary⟩
    · exact .inr ⟨fun both => ordinary both.2, if_neg ordinary⟩
  · rw [← lookup_found ordinary] at missed
    simp only [missed, ← fallback]
    exact ⟨rfl, rfl⟩
  · rw [read] at broken
    cases broken

theorem noting_matchOrCreate (r : Resolver (StateM ω)) (a : Address) (s : σ) (w : ω) :
    let run := r.noting.matchOrCreate a (⟨s, []⟩ : Watched σ) (w, [])
    (run.1.plain, run.2.1) = r.matchOrCreate a s w ∧ Contained r a s w run.1 run.2.2 := by
  have same : readCache r.noting.settings.acceptedLength (⟨s, []⟩ : Watched σ) a =
      readCache r.settings.acceptedLength s a := rfl
  rcases readCache_cases r.settings.acceptedLength s a with
    ⟨e, broken, read⟩ | ⟨owner, ⟨found, sound⟩, closed, read⟩ |
      ⟨reading, ⟨found, sound⟩, unsettled, read, proper, fallback⟩
  · rw [matchOrCreate_error read, matchOrCreate_error (same.trans read)]
    have closed : ¬ LeftOpen r.settings.acceptedLength s a := by
      rintro ⟨found, sound, -⟩
      rw [broken] at sound
      cases sound
    refine ⟨rfl, fun e' => ?_, .inr ⟨fun both => closed both.1, rfl⟩, fun opened => absurd opened closed,
      fun _ _ => ⟨rfl, rfl⟩, nofun⟩
    rw [broken]
    simp
  · rw [matchOrCreate_settled read, matchOrCreate_settled (same.trans read)]
    refine ⟨rfl, fun e => ?_, .inr ⟨fun both => closed both.1, rfl⟩, fun opened => absurd opened closed,
      fun _ _ => ⟨rfl, rfl⟩, nofun⟩
    rw [sound]
    simp
  · rw [matchOrCreate_open read proper, matchOrCreate_open (same.trans read) proper]
    exact ⟨noting_goOn_plain r a reading s w, contained_of_open sound unsettled fallback⟩

/-- **Failed lookups stay inside.**  Of every call, for every store, policy, provider and clock:
noting what it does changes nothing, and what is noted is `Contained`.  The stores there are, in
memory, of rows, and those that refuse, are atomic. -/
theorem matchOrCreate_contained (r : Resolver (StateM ω)) (a : Address) (s : σ) (w : ω) :
    let run := r.noting.matchOrCreate a (⟨s, []⟩ : Watched σ) (w, [])
    (run.1.plain, run.2.1) = r.matchOrCreate a s w ∧ Contained r a s w run.1 run.2.2 ∧
      Atomic Volatile ∧ Atomic Durable ∧
      ∀ (τ : Type) [RangeStore τ] [Atomic τ], Atomic (Refusing τ) := by
  obtain ⟨same, contained⟩ := noting_matchOrCreate r a s w
  exact ⟨same, contained, inferInstance, inferInstance, fun _ _ _ => inferInstance⟩

end Resolver

end OwnerCache
