/-
# OwnerCache.Proofs.Store.Accept -- stores that take what there are ids for

A store in memory never refuses a finding.  A store of rows does so when it has no ids left,
or when it is given a time that does not come back from its milliseconds.  Storing a finding
takes one id of each kind at most, so a store that has been given few findings accepts one
more (`Accepting`).
-/
import OwnerCache.Proofs.Store.WellFormed

namespace OwnerCache

set_option autoImplicit false

/-- A store that takes what is stored as long as it has ids. -/
class Accepting (σ : Type) [RangeStore σ] extends Legible σ where
  /-- No more than so many ids of either kind are taken. -/
  Spent : σ → Nat → Prop
  /-- A time that can be kept. -/
  Timely : Instant → Prop
  transact_ok {s : σ} {v : Volatile} {n : Nat} : Means s v → v.Numbered → Spent s n →
    (n : Int) < Durable.greatestId → ∀ f now, Timely now →
      (∃ c, (RangeStore.transact (commit f now) s).1 = .ok c) ∧
        Spent (RangeStore.transact (commit f now) s).2 (n + 1)

theorem Volatile.transact_accepted {v : Volatile} (numbered : v.Numbered) (f : Whois.Finding)
    (now : Instant) : ∃ c, (RangeStore.transact (commit f now) v).1 = .ok c := by
  have stored := Volatile.transact_commit numbered.range_le f now
  exact ⟨_, congrArg Prod.fst stored⟩

instance : Accepting Volatile where
  Spent _ _ := True
  Timely _ := True
  transact_ok := by
    rintro s _ n rfl numbered - - f now -
    exact ⟨s.transact_accepted numbered f now, trivial⟩

theorem Volatile.register_lastIdentityId_le (f : Whois.Finding) (now : Instant) (v : Volatile) :
    (v.register f now).2.lastIdentityId ≤ v.lastIdentityId + 1 :=
  register_cases (motive := fun _ w => w.lastIdentityId ≤ v.lastIdentityId + 1) f now v
    (fun _ _ _ => by omega) (fun _ _ _ => by simp only [place]; omega) (fun _ _ => Int.le_refl _)

namespace Durable

/-- No more than so many ids of either kind are taken. -/
def Spent (s : Durable) (n : Nat) : Prop := s.lastRangeId ≤ n ∧ s.lastIdentityId ≤ n

theorem transact_accepted {s : Durable} {v : Volatile} (means : Means s v) (numbered : v.Numbered)
    {n : Nat} (spent : s.Spent n) (left : (n : Int) < greatestId) (f : Whois.Finding)
    {now : Instant} (timely : Instant.ofMillis? now.millis ≠ none) :
    (∃ c, (RangeStore.transact (commit f now) s).1 = .ok c) ∧
      Spent (RangeStore.transact (commit f now) s).2 (n + 1) := by
  obtain ⟨ranges, identities⟩ := spent
  have room : s.HasRoom := ⟨Int.lt_of_le_of_lt ranges left, Int.lt_of_le_of_lt identities left⟩
  rcases means.transact numbered.range_le f now with ⟨stored, after⟩ | ⟨-, cannot⟩
  · refine ⟨⟨_, stored⟩, ?_⟩
    have taken := Volatile.register_lastIdentityId_le f now.kept v
    have grown : (RangeStore.transact (commit f now) s).2 = _ := after.eq_of
    rw [Spent, grown]
    rw [means.eq_of] at ranges identities
    simp only [of] at ranges identities ⊢
    omega
  · exact absurd ⟨room, timely⟩ cannot

instance : Accepting Durable where
  Spent := Spent
  Timely now := Instant.ofMillis? now.millis ≠ none
  transact_ok means numbered spent left f _ timely :=
    transact_accepted means numbered spent left f timely

end Durable

end OwnerCache
