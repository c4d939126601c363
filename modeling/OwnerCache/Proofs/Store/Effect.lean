/-
# OwnerCache.Proofs.Store.Effect -- what becomes of a store when a finding is stored

Whatever the store, storing a finding comes to one of four things, told of the
store in memory that it means (`Effect`):

* it is refused, and nothing changes;
* the block is there, nothing changes, and its owner is the answer;
* the block is new, and its owner is the identity known under the name and country;
* the block is new, and so is its owner.

Either way the ranges and the identities that were there stay as they were, and new
ones come after them (`Grows`).  What was known by an id, or by a name and a
country, is therefore still known by them, and so is the owner of a range, if it is
stored (`Grows.ownerOf`).
-/
import OwnerCache.Proofs.Store.Meaning

namespace OwnerCache.Volatile

set_option autoImplicit false

/-- The owner of a range, if it has one that is stored. -/
def ownerOf (v : Volatile) (r : AddressRange) : Option Identity := r.ownerId.bind v.identity?

theorem mem_of_ownerOf {v : Volatile} {r : AddressRange} {i : Identity} (owner : v.ownerOf r = some i) :
    i ∈ v.identities := by
  obtain ⟨id, -, known⟩ := Option.bind_eq_some_iff.mp owner
  exact List.mem_of_find?_eq_some known

/-- The identity that a finding would get if it needs a new one. -/
def newcomer (v : Volatile) (f : Whois.Finding) : Identity :=
  ⟨v.lastIdentityId + 1, f.description, f.country⟩

/-! ## The four cases -/

/-- What storing a finding can come to: what is returned, and the store after it.  Ids may be passed
over. -/
inductive Effect (f : Whois.Finding) (v : Volatile) : Except StoreError Resolution → Volatile → Prop
  | refused (e : StoreError) : Effect f v (.error e) v
  | present (range : AddressRange) (mem : range ∈ v.ranges) (same : range.block = f.block) (id : Int)
      (le : v.lastRangeId ≤ id) :
      Effect f v (.ok (.existing (v.ownerOf range))) { v with lastRangeId := id }
  | shared (absent : ∀ r ∈ v.ranges, r.block ≠ f.block) (owner : Identity)
      (known : v.known? f = some owner) (time : Instant) (id : Int) (le : v.lastRangeId + 1 ≤ id) :
      Effect f v (.ok ⟨some owner, false⟩) { v.place f.block time owner with lastRangeId := id }
  | created (absent : ∀ r ∈ v.ranges, r.block ≠ f.block) (unknown : v.known? f = none)
      (time : Instant) (id : Int) (le : v.lastRangeId + 1 ≤ id) :
      Effect f v (.ok ⟨some (v.newcomer f), true⟩)
        { (createIdentity f.description f.country v).2.place f.block time (v.newcomer f) with
          lastRangeId := id }

theorem Stored.effect {f : Whois.Finding} {v v' : Volatile} {result : Except StoreError Committed}
    (stored : v.Stored f result v') : v.Effect f (result.map (·.resolution)) v' := by
  cases stored with
  | refused e => exact .refused e
  | registered time id le =>
      refine register_cases (motive := fun c w => ∀ id, w.lastRangeId ≤ id →
        v.Effect f (.ok c.resolution) { w with lastRangeId := id }) f time v ?_ ?_ ?_ id le
      · intro range mem same id le
        exact .present range mem same id le
      · intro absent owner known id le
        exact .shared absent owner known time id le
      · intro absent unknown owner id le
        exact .created absent unknown time id le

/-! ## Growth -/

/-- Nothing that was there is changed or gone, and what is new comes after it. -/
structure Grows (v v' : Volatile) : Prop where
  ranges : v.ranges <+: v'.ranges
  identities : v.identities <+: v'.identities

namespace Grows

variable {v v' v'' : Volatile}

theorem refl (v : Volatile) : v.Grows v := ⟨List.prefix_refl _, List.prefix_refl _⟩

theorem trans (first : v.Grows v') (second : v'.Grows v'') : v.Grows v'' :=
  ⟨first.ranges.trans second.ranges, first.identities.trans second.identities⟩

theorem identity? (grows : v.Grows v') {id : Int} {i : Identity} (stored : v.identity? id = some i) :
    v'.identity? id = some i :=
  grows.identities.find?_eq_some stored

/-- The owner of a range stays the same if it is stored at all. -/
theorem ownerOf (grows : v.Grows v') {r : AddressRange}
    (stored : ∀ id ∈ r.ownerId, v.identity? id ≠ none) : v'.ownerOf r = v.ownerOf r := by
  unfold Volatile.ownerOf
  cases owned : r.ownerId with
  | none => rfl
  | some id =>
      obtain ⟨i, known⟩ := Option.ne_none_iff_exists'.mp (stored id owned)
      simp only [Option.bind_some, known, grows.identity? known]

end Grows

/-! ## What the cases have in common -/

variable {f : Whois.Finding} {v v' : Volatile} {result : Except StoreError Resolution}

theorem mem_createIdentity (v : Volatile) (f : Whois.Finding) :
    v.newcomer f ∈ (createIdentity f.description f.country v).2.identities :=
  List.mem_append_right _ (List.mem_singleton.mpr rfl)

/-- Storing a finding only ever adds. -/
theorem Effect.grows (effect : v.Effect f result v') : v.Grows v' := by
  cases effect with
  | refused e => exact .refl v
  | present range mem same id le => exact ⟨List.prefix_refl _, List.prefix_refl _⟩
  | shared absent owner known time id le => exact ⟨List.prefix_append _ _, List.prefix_refl _⟩
  | created absent unknown time id le => exact ⟨List.prefix_append _ _, List.prefix_append _ _⟩

theorem Effect.eq_of_error {e : StoreError} (effect : v.Effect f (.error e) v') : v' = v := by
  cases effect
  rfl

/-- A range is added if and only if there are more afterwards, and has the block of the finding. -/
theorem Effect.countP_block (effect : v.Effect f result v') (block : Block) :
    v'.ranges.countP (·.block = block) = v.ranges.countP (·.block = block) +
      if f.block = block ∧ v.ranges.length < v'.ranges.length then 1 else 0 := by
  cases effect with
  | refused e => simp
  | present range mem same id le => simp
  | shared absent owner known time id le => simp [place, List.countP_append, List.countP_singleton]
  | created absent unknown time id le =>
      simp [place, createIdentity, List.countP_append, List.countP_singleton]

/-- Who creates an identity adds a range for it. -/
theorem Effect.length_lt_of_created {res : Resolution} (effect : v.Effect f (.ok res) v')
    (created : res.created = true) : v.ranges.length < v'.ranges.length := by
  cases effect with
  | present range mem same id le => cases created
  | shared absent owner known time id le => cases created
  | created absent unknown time id le => simp [place, createIdentity]

/-- A range that is there afterwards was there before, or has the block of the finding. -/
theorem Effect.mem_or_block (effect : v.Effect f result v') :
    ∀ r ∈ v'.ranges, r ∈ v.ranges ∨ r.block = f.block := by
  cases effect with
  | refused e => exact fun r => .inl
  | present range mem same id le => exact fun r => .inl
  | shared absent owner known time id le => exact forall_mem_place (fun r => .inl) (.inr rfl)
  | created absent unknown time id le => exact forall_mem_place (fun r => .inl) (.inr rfl)

/-- An identity is added if and only if the owner is reported to be new. -/
theorem Effect.length_identities {res : Resolution} (effect : v.Effect f (.ok res) v') :
    v'.identities.length = v.identities.length + if res.created then 1 else 0 := by
  cases effect with
  | present range mem same id le => rfl
  | shared absent owner known time id le => rfl
  | created absent unknown time id le => simp [place, createIdentity]

/-- The owner that is returned is stored. -/
theorem Effect.owner_mem {res : Resolution} (effect : v.Effect f (.ok res) v') {i : Identity}
    (owner : res.owner = some i) : i ∈ v'.identities := by
  cases effect with
  | present range mem same id le => exact mem_of_ownerOf owner
  | shared absent _ known time id le =>
      obtain rfl := Option.some.inj owner
      exact (mem_of_known? known).1
  | created absent unknown time id le =>
      obtain rfl := Option.some.inj owner
      exact mem_createIdentity v f

/-! ## Names -/

/-- A new identity is known by its name. -/
theorem known?_createIdentity (unknown : v.known? f = none) (named : f.description ≠ none) :
    (createIdentity f.description f.country v).2.known? f = some (v.newcomer f) := by
  obtain ⟨name, named⟩ := Option.ne_none_iff_exists'.mp named
  have nowhere : findIdentity name f.country v = none := by simpa [known?, named] using unknown
  rw [findIdentity] at nowhere
  simp only [known?, named, Option.bind_some, findIdentity, createIdentity, List.find?_append, nowhere,
    Option.none_or]
  simp [newcomer, named]

/-- Whoever adds a range under a name gets the identity that is known by it from then on. -/
theorem Effect.known {res : Resolution} (effect : v.Effect f (.ok res) v')
    (named : f.description ≠ none) (inserted : v.ranges.length < v'.ranges.length) :
    ∃ i, res.owner = some i ∧ v'.known? f = some i := by
  cases effect with
  | present range mem same id le => exact absurd inserted (Nat.lt_irrefl _)
  | shared absent owner known time id le => exact ⟨owner, rfl, known⟩
  | created absent unknown time id le =>
      exact ⟨v.newcomer f, rfl, known?_createIdentity unknown named⟩

/-- A name and a country stay known as the same identity. -/
theorem known?_of_prefix (grown : v.identities <+: v'.identities) {i : Identity}
    (known : v.known? f = some i) : v'.known? f = some i := by
  obtain ⟨name, named, found⟩ := Option.bind_eq_some_iff.mp known
  have found' : findIdentity name f.country v' = some i := grown.find?_eq_some found
  rw [known?, named, Option.bind_some, found']

end OwnerCache.Volatile
