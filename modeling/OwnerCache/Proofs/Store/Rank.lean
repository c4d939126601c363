/-
# OwnerCache.Proofs.Store.Rank -- the element of least rank

`Before` is a strict order, and of two ranks that differ one comes before the
other, so `least?` finds an element of the list that none comes before
(`least?_eq_some`), and finds one in every list that is not empty.  Others can be
taken out of the list, and it is found all the same (`least?_filter`).

Where ids grow along the list, the first of several elements has the least id as
well: the ids then do not matter (`least?_withoutId`), and lists that are alike
but for their ids have their least elements in the same place.
-/
import OwnerCache.Store.Basic

namespace OwnerCache.Rank

set_option autoImplicit false

variable {α β : Type}

theorem not_before_trans {a b c : Rank} (hab : ¬ b.Before a) (hbc : ¬ c.Before b) :
    ¬ c.Before a := by
  unfold Before at *
  omega

theorem not_before_self (a : Rank) : ¬ a.Before a := by
  unfold Before
  omega

theorem not_before_of_before {a b : Rank} (h : a.Before b) : ¬ b.Before a := by
  unfold Before at *
  omega

theorem least?_eq_none_iff {rank : α → Rank} {xs : List α} : least? rank xs = none ↔ xs = [] := by
  cases xs with
  | nil => simp [least?]
  | cons x xs =>
      simp only [least?, reduceCtorEq, iff_false]
      split
      · simp
      · split <;> simp

/-- The least element is one of the list, and none comes before it. -/
theorem least?_eq_some {rank : α → Rank} {xs : List α} {x : α} (h : least? rank xs = some x) :
    x ∈ xs ∧ ∀ y ∈ xs, ¬ (rank y).Before (rank x) := by
  induction xs generalizing x with
  | nil => cases h
  | cons z zs ih =>
      rw [least?] at h
      cases rest : least? rank zs with
      | none =>
          obtain rfl := least?_eq_none_iff.mp rest
          obtain rfl : z = x := by simpa [rest] using h
          simp [not_before_self]
      | some w =>
          obtain ⟨mem, least⟩ := ih rest
          simp only [rest] at h
          split at h
          · rename_i before
            cases h
            refine ⟨by simp [mem], fun y hy => ?_⟩
            rcases List.mem_cons.mp hy with rfl | hy
            · exact not_before_of_before before
            · exact least y hy
          · rename_i stays
            cases h
            refine ⟨by simp, fun y hy => ?_⟩
            rcases List.mem_cons.mp hy with rfl | hy
            · exact not_before_self _
            · exact not_before_trans stays (least y hy)

theorem exists_least? (rank : α → Rank) {xs : List α} {x : α} (mem : x ∈ xs) :
    ∃ y, least? rank xs = some y := by
  apply Option.ne_none_iff_exists'.mp
  intro none
  rw [least?_eq_none_iff.mp none] at mem
  cases mem

/-- The least element is found the same among some of the elements, if it is one of them. -/
theorem least?_filter {rank : α → Rank} {keep : α → Bool} {xs : List α} {x : α}
    (least : least? rank xs = some x) (kept : keep x = true) :
    least? rank (xs.filter keep) = some x := by
  induction xs generalizing x with
  | nil => cases least
  | cons z zs ih =>
      rw [least?] at least
      cases rest : least? rank zs with
      | none =>
          obtain rfl := least?_eq_none_iff.mp rest
          obtain rfl : z = x := by simpa [rest] using least
          simp [kept, least?]
      | some w =>
          simp only [rest] at least
          split at least
          · rename_i before
            cases least
            by_cases here : keep z = true
            · rw [List.filter_cons_of_pos here, least?, ih rest kept]
              exact if_pos before
            · rw [List.filter_cons_of_neg here, ih rest kept]
          · rename_i stays
            cases least
            rw [List.filter_cons_of_pos kept, least?]
            cases found : least? rank (zs.filter keep) with
            | none => rfl
            | some y =>
                have mem : y ∈ zs := (List.mem_filter.mp (least?_eq_some found).1).1
                have later := not_before_trans stays ((least?_eq_some rest).2 y mem)
                simp only [later, if_false]

theorem least?_map (rank : β → Rank) (f : α → β) (xs : List α) :
    least? rank (xs.map f) = (least? (fun x => rank (f x)) xs).map f := by
  induction xs with
  | nil => rfl
  | cons x xs ih =>
      simp only [List.map_cons, least?, ih]
      cases least? (fun x => rank (f x)) xs with
      | none => rfl
      | some y =>
          simp only [Option.map_some]
          split <;> rfl

theorem least?_congr {rank rank' : α → Rank} {xs : List α} (same : ∀ x ∈ xs, rank x = rank' x) :
    least? rank xs = least? rank' xs := by
  induction xs with
  | nil => rfl
  | cons x xs ih =>
      have rest := ih fun y hy => same y (by simp [hy])
      simp only [least?, rest]
      cases found : least? rank' xs with
      | none => rfl
      | some y =>
          have mem : y ∈ xs := (least?_eq_some found).1
          simp only [same x (by simp), same y (by simp [mem])]

/-- The rank of an element, with the place in the list as its only tie-break. -/
def withoutId (r : Rank) : Rank := { r with id := 0 }

/-- Where ids grow along the list they decide nothing that the order of the list does not. -/
theorem least?_withoutId {rank : α → Rank} {xs : List α}
    (grow : xs.Pairwise fun x y => (rank x).id < (rank y).id) :
    least? rank xs = least? (fun x => (rank x).withoutId) xs := by
  induction xs with
  | nil => rfl
  | cons x xs ih =>
      obtain ⟨first, grow⟩ := List.pairwise_cons.mp grow
      simp only [least?, ih grow]
      cases found : least? (fun x => (rank x).withoutId) xs with
      | none => rfl
      | some y =>
          have later : (rank x).id < (rank y).id := first y (least?_eq_some found).1
          have same : (rank y).Before (rank x) ↔ (rank y).withoutId.Before (rank x).withoutId := by
            simp only [Before, withoutId]
            omega
          simp only [same]

end OwnerCache.Rank
