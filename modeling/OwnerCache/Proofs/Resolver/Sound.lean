/-
# OwnerCache.Proofs.Resolver.Sound -- a cache stays sound however its calls overlap

A cache is `Sound` if no block is stored twice and none ends before it begins,
every range has an owner that is stored, no two identities share a name and a
country, and an identity without a name owns one range at most.

An empty store is sound and stays so under every schedule, in memory and as rows
(`run_sound`): calls may read the cache long before they store, learn
contradicting things about one block, fail, or be overtaken by sweeps.  Nothing
of what a call has read is trusted when it stores; the unit of work looks again
at the block and at the name.

The proof is one lemma for each way to change a store.  A new identity is sound
if its name is new (`Sound.createIdentity`); a new range is sound if its block is
new, and its owner is stored and owns nothing yet or has a name (`Sound.place`);
fewer ranges are sound (`Sound.keep`).
-/
import OwnerCache.Proofs.Resolver.Invariant
import OwnerCache.Proofs.Whois.Block

namespace OwnerCache

set_option autoImplicit false

namespace Volatile

structure Sound (v : Volatile) : Prop where
  /-- No two ranges have the same bounds. -/
  blocks : v.ranges.Pairwise (·.block ≠ ·.block)
  ordered : ∀ r ∈ v.ranges, r.block.first ≤ r.block.last
  owned : ∀ r ∈ v.ranges, ∃ i ∈ v.identities, r.ownerId = some i.id
  /-- No two identities with a name have the same name and country. -/
  names : v.identities.Pairwise fun i j =>
    i.name ≠ none → ¬ (i.name = j.name ∧ i.country = j.country)
  /-- An identity without a name owns one range at most. -/
  anonymous : ∀ i ∈ v.identities, i.name = none → v.ranges.countP (·.ownerId = some i.id) ≤ 1

namespace Sound

variable {v : Volatile}

theorem empty : Sound {} := by
  constructor <;> simp

/-- Of a numbered store the owner of a range is not an identity to come. -/
theorem ownerId_le (sound : v.Sound) (numbered : v.Numbered) {r : AddressRange} (mem : r ∈ v.ranges)
    {id : Int} (owner : r.ownerId = some id) : id ≤ v.lastIdentityId := by
  obtain ⟨i, stored, same⟩ := sound.owned r mem
  obtain rfl : id = i.id := Option.some.inj (owner.symm.trans same)
  exact numbered.identity_le i stored

theorem createIdentity (sound : v.Sound) (numbered : v.Numbered) {name country : Option String}
    (fresh : name ≠ none → ∀ i ∈ v.identities, ¬ (i.name = name ∧ i.country = country)) :
    (Volatile.createIdentity name country v).2.Sound where
  blocks := sound.blocks
  ordered := sound.ordered
  owned r mem := by
    obtain ⟨i, stored, owner⟩ := sound.owned r mem
    exact ⟨i, List.mem_append_left _ stored, owner⟩
  names := by
    refine List.pairwise_append.mpr ⟨sound.names, by simp, ?_⟩
    intro i stored j mem named same
    obtain rfl := List.mem_singleton.mp mem
    exact fresh (fun unnamed => named (same.1.trans unnamed)) i stored same
  anonymous i mem unnamed := by
    rcases List.mem_append.mp mem with stored | mem
    · exact sound.anonymous i stored unnamed
    · -- The new identity owns nothing: its id is beyond all owners.
      obtain rfl := List.mem_singleton.mp mem
      have none_owned : v.ranges.countP (·.ownerId = some (v.lastIdentityId + 1)) = 0 := by
        refine List.countP_eq_zero.mpr fun r mem owner => ?_
        have := sound.ownerId_le numbered mem (by simpa using owner)
        omega
      exact Nat.le_trans (Nat.le_of_eq none_owned) (Nat.zero_le 1)

theorem place (sound : v.Sound) (numbered : v.Numbered) {block : Block} (time : Instant)
    {owner : Identity} (ordered : block.first ≤ block.last)
    (absent : ∀ r ∈ v.ranges, r.block ≠ block) (stored : owner ∈ v.identities)
    (unshared : owner.name = none → ∀ r ∈ v.ranges, r.ownerId ≠ some owner.id) :
    (v.place block time owner).Sound where
  blocks := by
    refine List.pairwise_append.mpr ⟨sound.blocks, by simp, ?_⟩
    intro r mem x hx
    obtain rfl := List.mem_singleton.mp hx
    exact absent r mem
  ordered := forall_mem_place sound.ordered ordered
  owned := forall_mem_place sound.owned ⟨owner, stored, rfl⟩
  names := sound.names
  anonymous i mem unnamed := by
    have before := sound.anonymous i mem unnamed
    simp only [Volatile.place, List.countP_append, List.countP_singleton, decide_eq_true_eq,
      Option.some.injEq]
    by_cases same : owner.id = i.id
    · have none_owned : v.ranges.countP (·.ownerId = some i.id) = 0 := by
        obtain rfl := numbered.eq_of_id stored mem same
        exact List.countP_eq_zero.mpr fun r mem' owner' =>
          unshared unnamed r mem' (by simpa using owner')
      exact Nat.le_of_eq (by rw [none_owned, if_pos same])
    · rw [if_neg same]
      exact before

theorem keep (sound : v.Sound) (test : AddressRange → Bool) : (v.keep test).Sound where
  blocks := sound.blocks.filter test
  ordered r mem := sound.ordered r (List.mem_filter.mp mem).1
  owned r mem := sound.owned r (List.mem_filter.mp mem).1
  names := sound.names
  anonymous i mem unnamed :=
    Nat.le_trans (List.filter_sublist.countP_le) (sound.anonymous i mem unnamed)

/-- Storing a finding keeps a store sound, whichever way it goes. -/
theorem register (sound : v.Sound) (numbered : v.Numbered) {f : Whois.Finding} (time : Instant)
    (ordered : f.block.first ≤ f.block.last) : (v.register f time).2.Sound := by
  refine register_cases (motive := fun _ v => v.Sound) f time v (fun _ _ _ => sound) ?_ ?_
  · intro absent owner known
    obtain ⟨stored, name, -, named⟩ := mem_of_known? known
    exact sound.place numbered time ordered absent stored fun unnamed =>
      absurd (name.symm.trans unnamed) named
  · intro absent unknown
    have enrolled := sound.createIdentity numbered (name_ne_of_known?_none unknown)
    refine enrolled.place (numbered.createIdentity _ _) time ordered absent (by
      simp [Volatile.createIdentity]) ?_
    intro _ r mem owner
    have := sound.ownerId_le numbered mem owner
    simp only at this
    omega

theorem skip (sound : v.Sound) (id : Int) : Sound { v with lastRangeId := id } :=
  ⟨sound.blocks, sound.ordered, sound.owned, sound.names, sound.anonymous⟩

end Sound

end Volatile

namespace Schedule

theorem sound_kept : Kept (fun _ => True) Volatile.Sound where
  stored numbered sound answers stored := by
    obtain ⟨policy, a, reply, -, found⟩ := answers
    cases stored with
    | refused e => exact sound
    | registered time id le =>
        exact (sound.register numbered time (first_le_last_of_lookedUp found)).skip id
  swept sound test := sound.keep test

/-- **Every schedule of calls and sweeps on an empty store leaves a sound cache**, in memory and as
rows. -/
theorem run_sound (steps : List Step) :
    (inMemory steps).store.Sound ∧ ∃ v, (asRows steps).store.Means v ∧ v.Sound := by
  have under : Under (fun _ => True) steps := fun _ _ _ => trivial
  obtain ⟨v, means, -, sound⟩ := asRows_has sound_kept .empty under
  exact ⟨(inMemory_has sound_kept .empty under).2, v, means, sound⟩

end Schedule

end OwnerCache
