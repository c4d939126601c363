/-
# OwnerCache.Proofs.Store.Register -- what storing a finding does

The unit of work `commit` asks a store up to four times, and what it asks next
hangs on the replies.  `register` says in one piece what becomes of a store in
memory, in three cases:

* the block is stored: nothing changes, and its owner is the answer;
* it is not, and the name and country of the finding are those of an identity:
  the block is stored for that identity;
* it is not, and they are not, or there is no name: the block is stored for a new
  identity.

`transact_commit` is the equation between the two.  It asks one thing of the
store: no range has an id beyond the last one given, so that the new range is the
one that gets the owner.

`Numbered` is the order of ids that every store keeps: they grow along the lists
and do not pass the last ones given.
-/
import OwnerCache.Proofs.Store.Undo
import OwnerCache.Resolver.Basic

namespace OwnerCache.Volatile

set_option autoImplicit false

/-! ## In one piece -/

/-- The identity under the name and country of a finding; without a name there is none. -/
def known? (v : Volatile) (f : Whois.Finding) : Option Identity :=
  f.description.bind fun name => findIdentity name f.country v

/-- Store a range that takes the next id, with its owner. -/
def place (v : Volatile) (block : Block) (createdAt : Instant) (owner : Identity) : Volatile :=
  { v with
    ranges := v.ranges ++ [⟨v.lastRangeId + 1, block, some owner.id, createdAt⟩]
    lastRangeId := v.lastRangeId + 1 }

/-- What storing a finding comes to, and the store that it leaves. -/
def register (f : Whois.Finding) (now : Instant) (v : Volatile) : Committed × Volatile :=
  match v.ranges.find? (·.block = f.block) with
  | some range =>
    let owner := range.ownerId.bind v.identity?
    (⟨.existing owner, .alreadyOwned range owner⟩, v)
  | none =>
    let range : AddressRange := ⟨v.lastRangeId + 1, f.block, none, now⟩
    match v.known? f with
    | some owner => (⟨⟨some owner, false⟩, .attributed range owner⟩, v.place f.block now owner)
    | none =>
      let (owner, v) := createIdentity f.description f.country v
      (⟨⟨some owner, true⟩, .attributed range owner⟩, v.place f.block now owner)

/-- What holds of the ranges that were there and of the new one holds of all. -/
theorem forall_mem_place {v : Volatile} {P : AddressRange → Prop} {block : Block}
    {createdAt : Instant} {owner : Identity} (before : ∀ r ∈ v.ranges, P r)
    (new : P ⟨v.lastRangeId + 1, block, some owner.id, createdAt⟩) :
    ∀ r ∈ (v.place block createdAt owner).ranges, P r := by
  intro r mem
  rcases List.mem_append.mp mem with mem | mem
  · exact before r mem
  · obtain rfl := List.mem_singleton.mp mem
    exact new

/-- Only the ranges that pass a test. -/
def keep (v : Volatile) (test : AddressRange → Bool) : Volatile :=
  { v with ranges := v.ranges.filter test }

/-! ## The ids that are given -/

/-- Ids grow along the lists, up to the last ones given. -/
structure Numbered (v : Volatile) : Prop where
  ranges : v.ranges.Pairwise (·.id < ·.id)
  range_le : ∀ r ∈ v.ranges, r.id ≤ v.lastRangeId
  identities : v.identities.Pairwise (·.id < ·.id)
  identity_le : ∀ i ∈ v.identities, i.id ≤ v.lastIdentityId

theorem numbered_empty : Numbered {} := by
  constructor <;> simp

theorem mem_of_known? {v : Volatile} {f : Whois.Finding} {i : Identity}
    (found : v.known? f = some i) :
    i ∈ v.identities ∧ i.name = f.description ∧ i.country = f.country ∧ f.description ≠ none := by
  cases named : f.description with
  | none => simp [known?, named] at found
  | some name =>
      have here : findIdentity name f.country v = some i := by simpa [known?, named] using found
      have same := List.find?_some here
      simp only [decide_eq_true_eq] at same
      exact ⟨List.mem_of_find?_eq_some here, same.1, same.2, by simp⟩

/-- Which identity is known does not depend on the ranges. -/
theorem known?_placed (v : Volatile) (ranges : List AddressRange) (id : Int) (f : Whois.Finding) :
    ({ v with ranges := ranges, lastRangeId := id } : Volatile).known? f = v.known? f := rfl

/-- Where no identity is known, none has the name and country of the finding. -/
theorem name_ne_of_known?_none {v : Volatile} {f : Whois.Finding} (unknown : v.known? f = none)
    (named : f.description ≠ none) :
    ∀ i ∈ v.identities, ¬ (i.name = f.description ∧ i.country = f.country) := by
  obtain ⟨name, named⟩ := Option.ne_none_iff_exists'.mp named
  have nowhere : findIdentity name f.country v = none := by simpa [known?, named] using unknown
  intro i stored same
  have := List.find?_eq_none.mp nowhere i stored
  simp only [decide_eq_true_eq] at this
  exact this ⟨same.1.trans named, same.2⟩

/-! ## The unit of work -/

theorem setOwner_append_single {id : Int} {owner : Option Int} {rs : List AddressRange}
    (free : ∀ r ∈ rs, r.id ≠ id) (x : AddressRange) (own : x.id = id) :
    setOwner id owner (rs ++ [x]) = rs ++ [{ x with ownerId := owner }] := by
  induction rs with
  | nil => simp [setOwner, own]
  | cons r rs ih =>
      have ne : r.id ≠ id := free r (by simp)
      simp [setOwner, ne, ih fun r mem => free r (by simp [mem])]

/-- A range that was just created gets its owner, if the owner is stored. -/
theorem attach_created {v : Volatile} (free : ∀ r ∈ v.ranges, r.id ≠ v.lastRangeId + 1)
    (block : Block) (createdAt : Instant) {owner : Identity} (stored : owner ∈ v.identities) :
    attach (v.lastRangeId + 1) owner.id
        { v with
          ranges := v.ranges ++ [⟨v.lastRangeId + 1, block, none, createdAt⟩]
          lastRangeId := v.lastRangeId + 1 } =
      (.ok (), v.place block createdAt owner) := by
  have known : v.identity? owner.id ≠ none := by
    intro unknown
    simpa using List.find?_eq_none.mp unknown owner stored
  have owned : setOwner (v.lastRangeId + 1) (some owner.id)
        (v.ranges ++ [⟨v.lastRangeId + 1, block, none, createdAt⟩]) =
      v.ranges ++ [⟨v.lastRangeId + 1, block, some owner.id, createdAt⟩] :=
    setOwner_append_single free _ rfl
  refine (if_neg known).trans ((if_neg (by simp)).trans ?_)
  rw [owned]
  rfl

/-- The identity of a finding is the one known, or else a new one. -/
theorem run_identify (f : Whois.Finding) (s : Volatile) :
    (identify f.description f.country).run answer s =
      match s.known? f with
      | some owner => (.ok (owner, false), s)
      | none =>
        let (owner, s) := createIdentity f.description f.country s
        (.ok (owner, true), s) := by
  cases named : f.description with
  | none => simp only [known?, named]; rfl
  | some name =>
      simp only [identify, known?, named, Option.bind_some]
      rw [Work.run_bind, Work.run_request]
      cases found : findIdentity name f.country s with
      | none => simp only [answer, found]; rfl
      | some owner => simp only [answer, found]; rfl

/-- The requests of the unit of work, answered one after the other. -/
theorem run_commit {v : Volatile} (bounded : ∀ r ∈ v.ranges, r.id ≤ v.lastRangeId)
    (f : Whois.Finding) (now : Instant) :
    (commit f now).run answer v = (.ok (v.register f now).1, (v.register f now).2) := by
  rw [commit, Work.run_bind, Work.run_request]
  cases found : v.ranges.find? (·.block = f.block) with
  | some range =>
      simp only [answer, createRange, register, found]
      cases owned : range.ownerId with
      | none => rfl
      | some id => rfl
  | none =>
      have free : ∀ r ∈ v.ranges, r.id ≠ v.lastRangeId + 1 := by
        intro r mem
        have := bounded r mem
        omega
      simp only [answer, createRange, found, if_true]
      rw [Work.run_bind, run_identify, known?_placed]
      cases known : v.known? f with
      | some owner =>
          have stored : owner ∈ v.identities := (mem_of_known? known).1
          simp only [register, found, known]
          rw [Work.run_bind, Work.run_request, answer, attach_created free f.block now stored]
          rfl
      | none =>
          have stored : (createIdentity f.description f.country v).1 ∈
              (createIdentity f.description f.country v).2.identities := by
            simp [createIdentity]
          have attached := attach_created (v := (createIdentity f.description f.country v).2) free
            f.block now stored
          simp only [register, found, known, createIdentity] at attached ⊢
          rw [Work.run_bind, Work.run_request, answer, attached]
          rfl

/-- Storing a finding, for any store whose ranges are numbered up to the last id. -/
theorem transact_commit {v : Volatile} (bounded : ∀ r ∈ v.ranges, r.id ≤ v.lastRangeId)
    (f : Whois.Finding) (now : Instant) :
    transact (commit f now) v = (.ok (v.register f now).1, (v.register f now).2) := by
  rw [transact_onCopy, Work.onCopy, run_commit bounded]

/-! ## The three cases -/

/-- What holds of each of the three ways to store a finding holds of storing it. -/
theorem register_cases {motive : Committed → Volatile → Prop} (f : Whois.Finding) (now : Instant)
    (v : Volatile)
    (stored : ∀ range ∈ v.ranges, range.block = f.block →
      motive ⟨.existing (range.ownerId.bind v.identity?),
        .alreadyOwned range (range.ownerId.bind v.identity?)⟩ v)
    (shared : (∀ r ∈ v.ranges, r.block ≠ f.block) → ∀ owner, v.known? f = some owner →
      motive ⟨⟨some owner, false⟩, .attributed ⟨v.lastRangeId + 1, f.block, none, now⟩ owner⟩
        (v.place f.block now owner))
    (created : (∀ r ∈ v.ranges, r.block ≠ f.block) → v.known? f = none →
      let owner : Identity := ⟨v.lastIdentityId + 1, f.description, f.country⟩
      motive ⟨⟨some owner, true⟩, .attributed ⟨v.lastRangeId + 1, f.block, none, now⟩ owner⟩
        ((createIdentity f.description f.country v).2.place f.block now owner)) :
    motive (v.register f now).1 (v.register f now).2 := by
  unfold register
  cases found : v.ranges.find? (·.block = f.block) with
  | some range =>
      have same : range.block = f.block := by simpa using List.find?_some found
      exact stored range (List.mem_of_find?_eq_some found) same
  | none =>
      have absent : ∀ r ∈ v.ranges, r.block ≠ f.block := by
        intro r mem
        simpa using List.find?_eq_none.mp found r mem
      cases known : v.known? f with
      | some owner => exact shared absent owner known
      | none => exact created absent known

namespace Numbered

variable {v : Volatile}

theorem place (numbered : v.Numbered) (block : Block) (createdAt : Instant) (owner : Identity) :
    (v.place block createdAt owner).Numbered := by
  refine ⟨?_, ?_, numbered.identities, numbered.identity_le⟩
  · refine List.pairwise_append.mpr ⟨numbered.ranges, by simp, ?_⟩
    intro r mem x hx
    obtain rfl := List.mem_singleton.mp hx
    have := numbered.range_le r mem
    simp only
    omega
  · refine forall_mem_place (fun r mem => ?_) (Int.le_refl _)
    have := numbered.range_le r mem
    simp only [Volatile.place]
    omega

theorem createIdentity (numbered : v.Numbered) (name country : Option String) :
    (Volatile.createIdentity name country v).2.Numbered := by
  refine ⟨numbered.ranges, numbered.range_le, ?_, ?_⟩
  · refine List.pairwise_append.mpr ⟨numbered.identities, by simp, ?_⟩
    intro i mem x hx
    obtain rfl := List.mem_singleton.mp hx
    have := numbered.identity_le i mem
    simp only
    omega
  · intro i mem
    rcases List.mem_append.mp mem with mem | mem
    · have := numbered.identity_le i mem
      simp only [Volatile.createIdentity]
      omega
    · obtain rfl := List.mem_singleton.mp mem
      exact Int.le_refl _

theorem register (numbered : v.Numbered) (f : Whois.Finding) (now : Instant) :
    (v.register f now).2.Numbered :=
  register_cases (motive := fun _ v => v.Numbered) f now v
    (fun _ _ _ => numbered)
    (fun _ owner _ => numbered.place f.block now owner)
    (fun _ _ => (numbered.createIdentity _ _).place _ _ _)

/-- An identity is known by its id. -/
theorem eq_of_id (numbered : v.Numbered) {i j : Identity} (hi : i ∈ v.identities)
    (hj : j ∈ v.identities) (same : i.id = j.id) : i = j := by
  have forth : v.identities.Pairwise fun i j => i.id = j.id → i = j :=
    numbered.identities.imp fun lt same => absurd same (Int.ne_of_lt lt)
  have back : v.identities.Pairwise (flip fun i j => i.id = j.id → i = j) :=
    numbered.identities.imp fun lt same => absurd same.symm (Int.ne_of_lt lt)
  exact List.Pairwise.forall_of_forall_of_flip (fun _ _ _ => rfl) forth back hi hj same

theorem keep (numbered : v.Numbered) (test : AddressRange → Bool) : (v.keep test).Numbered where
  ranges := numbered.ranges.filter test
  range_le r mem := numbered.range_le r (List.mem_filter.mp mem).1
  identities := numbered.identities
  identity_le := numbered.identity_le

/-- Ids may be passed over. -/
theorem skip (numbered : v.Numbered) {id : Int} (le : v.lastRangeId ≤ id) :
    Numbered { v with lastRangeId := id } where
  ranges := numbered.ranges
  range_le r mem := Int.le_trans (numbered.range_le r mem) le
  identities := numbered.identities
  identity_le := numbered.identity_le

end Numbered

end OwnerCache.Volatile
