/-
# OwnerCache.Proofs.Text.Lowercase -- which texts become a text in ASCII

Small letters in ASCII come from ASCII, but for an i and a k, which the I with a dot and the
kelvin sign become (`plain_of_mem_image`).  So a text without these two comes from texts in ASCII
alone, and `ofList` is no more than the small letters of ASCII there (`ofList_eq_iff`).
-/
import Mathlib.Data.List.Basic
import OwnerCache.Text.Lowercase

namespace OwnerCache.Lowercase

set_option autoImplicit false
set_option maxRecDepth 4000

theorem toLower_of_beyond {c : Char} (beyond : 0x80 ≤ c.toNat) : c.toLower = c := by
  refine dif_neg fun ⟨_, le⟩ => ?_
  rw [UInt32.le_iff_toNat_le] at le
  exact absurd (Nat.le_trans beyond le) (by decide)

theorem image_of_plain {c : Char} (plain : c.toNat < 0x80) : image c = [c.toLower] := if_pos plain

theorem image_ne_nil (c : Char) : image c ≠ [] := by
  unfold image
  split_ifs <;> simp

theorem ofList_of_plain {cs : List Char} (plain : ∀ c ∈ cs, c.toNat < 0x80) :
    ofList cs = cs.map Char.toLower := by
  induction cs with
  | nil => rfl
  | cons c cs ih =>
      rw [ofList, List.flatMap_cons, image_of_plain (plain c List.mem_cons_self), ← ofList,
        ih fun d mem => plain d (List.mem_cons_of_mem _ mem), List.map_cons, List.singleton_append]

/-- No run has a target in ASCII; none meets the surrogates or leaves the characters. -/
theorem runs_beyond : ∀ r ∈ runs, 0x80 ≤ r.target ∧
    (r.target + r.count * r.step ≤ 0xD800 ∨
      0xE000 ≤ r.target ∧ r.target + r.count * r.step ≤ 0x110000) := by
  decide

theorem le_of_image? {r : Run} (listed : r ∈ runs) {m n : Nat} (image : r.image? m = some n) :
    0x80 ≤ (Char.ofNat n).toNat := by
  obtain ⟨beyond, valid⟩ := runs_beyond r listed
  simp only [Run.image?, Option.ite_none_right_eq_some, Option.some.injEq] at image
  obtain ⟨⟨-, near, -⟩, rfl⟩ := image
  have char : (r.target + (m - r.first)).isValidChar := by
    unfold Nat.isValidChar
    omega
  rw [Char.ofNat, dif_pos char]
  exact Nat.le_trans beyond (Nat.le_add_right _ _)

/-- Two characters beyond ASCII have small letters in ASCII: an i, and a k. -/
theorem plain_of_mem_image {c d : Char} (mem : d ∈ image c) (plain : d.toNat < 0x80) :
    c.toNat < 0x80 ∨ d = 'i' ∨ d = 'k' := by
  by_cases low : c.toNat < 0x80
  · exact .inl low
  refine .inr ?_
  rw [image, if_neg low] at mem
  split at mem
  · rcases List.mem_pair.mp mem with rfl | rfl
    · exact .inl rfl
    · exact absurd plain (by decide)
  split at mem
  · exact .inr (List.mem_singleton.mp mem)
  obtain rfl := List.mem_singleton.mp mem
  cases found : runs.findSome? (·.image? c.toNat) with
  | none =>
      rw [found] at plain
      exact absurd plain low
  | some n =>
      obtain ⟨r, listed, image⟩ := List.exists_of_findSome?_eq_some found
      rw [found] at plain
      exact absurd (le_of_image? listed image) (Nat.not_le.mpr plain)

/-- A text becomes one in ASCII that has no i and no k only if it is in ASCII itself. -/
theorem ofList_eq_iff {cs small : List Char}
    (plain : ∀ d ∈ small, d.toNat < 0x80 ∧ d ≠ 'i' ∧ d ≠ 'k') :
    ofList cs = small ↔ cs.map Char.toLower = small := by
  constructor
  · rintro rfl
    refine (ofList_of_plain fun c mem => ?_).symm
    obtain ⟨d, image⟩ := List.exists_mem_of_ne_nil _ (image_ne_nil c)
    obtain ⟨low, notI, notK⟩ := plain d (List.mem_flatMap.mpr ⟨c, mem, image⟩)
    rcases plain_of_mem_image image low with low | isI | isK
    · exact low
    · exact absurd isI notI
    · exact absurd isK notK
  · rintro rfl
    refine ofList_of_plain fun c mem => Nat.lt_of_not_le fun beyond => ?_
    obtain ⟨low, -⟩ := plain c.toLower (List.mem_map_of_mem mem)
    rw [toLower_of_beyond beyond] at low
    omega

end OwnerCache.Lowercase
