/-
# OwnerCache.Proofs.Rdap.Listed -- listed networks read back

An entry of the `cidr0` extension stands for a network (`ListedCidr.Names`) if its address is
a canonical quad and its length, or 32 where it has none, leaves no bit free that the address
sets.  An entry without an IPv4 address stands for nothing, wherever it is in the list.

`Lists entries nets` says which networks a list of entries stands for, in order.  They are sent
as one text, and what is read from it for an address is the first of them that holds the
address, as if the text had never been written (`toRecord_listed`).  The bounds of the network
object do not count then.
-/
import OwnerCache.Proofs.Rdap.Bounds

namespace OwnerCache.Rdap

set_option autoImplicit false

open Whois Whois.Finding

namespace ListedCidr

/-- The entry stands for a network: the canonical quad of its address, and its length. -/
structure Names (c : ListedCidr) (m : Cidr) : Prop where
  address : c.v4Address = some m.address.text
  length : c.length.getD 32 = m.length
  aligned : m.IsAligned

/-- What is written for an entry denotes the block of its network. -/
theorem Names.denotes {c : ListedCidr} {m : Cidr} (names : c.Names m) :
    ∃ text, c.write? = some text ∧ Denotes text m.block := by
  obtain ⟨address, length, aligned⟩ := names
  have quad : m.address.text.toList = m.address.write := String.toList_ofList
  cases given : c.length with
  | some l =>
      obtain rfl : l = m.length := by simpa [given] using length
      refine ⟨m.write, ?_, Network.denotes_write aligned⟩
      simp [write?, address, given, quad, Cidr.write]
  | none =>
      have alone : m = .ofAddress m.address := by
        obtain ⟨a, l, le⟩ := m
        obtain rfl : 32 = l := by simpa [given] using length
        rfl
      refine ⟨m.address.write, ?_, m, ?_, aligned, rfl⟩
      · simp [write?, address, given, quad]
      · rw [alone]
        exact .bare m.address

end ListedCidr

/-- The networks that a list of entries stands for; entries without an IPv4 address do not
count. -/
inductive Lists : List ListedCidr → List Cidr → Prop
  | nil : Lists [] []
  | foreign {c : ListedCidr} {entries : List ListedCidr} {nets : List Cidr}
      (other : c.v4Address = none) (rest : Lists entries nets) : Lists (c :: entries) nets
  | entry {c : ListedCidr} {entries : List ListedCidr} {m : Cidr} {nets : List Cidr}
      (names : c.Names m) (rest : Lists entries nets) : Lists (c :: entries) (m :: nets)

namespace Lists

variable {entries : List ListedCidr} {nets : List Cidr}

theorem exists_of_canonical (canonical : ∀ c ∈ entries, c.v4Address ≠ none → ∃ m, c.Names m) :
    ∃ nets, Lists entries nets := by
  induction entries with
  | nil => exact ⟨[], .nil⟩
  | cons c entries ih =>
      obtain ⟨nets, rest⟩ := ih fun d mem => canonical d (List.mem_cons_of_mem _ mem)
      by_cases other : c.v4Address = none
      · exact ⟨nets, .foreign other rest⟩
      · obtain ⟨m, names⟩ := canonical c List.mem_cons_self other
        exact ⟨m :: nets, .entry names rest⟩

/-- One entry with an IPv4 address is enough for there to be a network. -/
theorem nonempty (lists : Lists entries nets) {c : ListedCidr} (mem : c ∈ entries)
    (v4 : c.v4Address ≠ none) : nets ≠ [] := by
  induction lists with
  | nil => cases mem
  | foreign other rest ih =>
      rcases List.mem_cons.mp mem with rfl | later
      · exact absurd other v4
      · exact ih later
  | entry names rest ih => exact List.cons_ne_nil _ _

theorem denote (lists : Lists entries nets) :
    List.Forall₂ Denotes (entries.filterMap ListedCidr.write?) (nets.map Cidr.block) := by
  induction lists with
  | nil => exact .nil
  | foreign other rest ih =>
      rwa [List.filterMap_cons_none (by rw [ListedCidr.write?, other, Option.map_none])]
  | entry names rest ih =>
      obtain ⟨text, written, denotes⟩ := names.denotes
      rw [List.filterMap_cons_some written]
      exact .cons denotes ih

end Lists

namespace Network

/-- **Listed networks are read back.**  Whatever its bounds are, a network object that lists IPv4
networks in canonical form is sent as these.  What is found for an address is the first of them
that holds it; an address that none holds is outside of the block, if one network is listed, and
else not in the list. -/
theorem toRecord_listed (n : Network) (cover : Block → List Cidr)
    (some_listed : ∃ c ∈ n.cidrs, c.v4Address ≠ none)
    (canonical : ∀ c ∈ n.cidrs, c.v4Address ≠ none → ∃ m, c.Names m) :
    ∃ text nets, (n.toRecord cover).cidr? = some text ∧ Lists n.cidrs nets ∧ ∀ a,
      (∀ m, nets.find? (a ∈ ·.block) = some m →
        (ofRecord a (n.toRecord cover)).map Finding.block = .ok m.block) ∧
      (nets.find? (a ∈ ·.block) = none →
        (ofRecord a (n.toRecord cover)).map Finding.block =
          .error (absent a text (nets.map Cidr.block))) := by
  obtain ⟨c, mem, v4⟩ := some_listed
  obtain ⟨nets, lists⟩ := Lists.exists_of_canonical canonical
  have denote := lists.denote
  have nonempty : n.listed ≠ [] := by
    intro unlisted
    have same := denote.length_eq
    rw [show n.cidrs.filterMap ListedCidr.write? = [] from unlisted, List.length_map] at same
    exact lists.nonempty mem v4 (List.length_eq_zero_iff.mp same.symm)
  have said : n.cidr? cover = some (String.ofList ([',', ' '].intercalate n.listed)) := by
    rw [cidr?, commaJoined?, if_neg nonempty, Option.some_or, Option.map_some]
  refine ⟨_, nets, said, lists, fun a => ?_⟩
  have sent : (⟨n.cidr? cover, n.description?, n.country⟩ : Net).cidr = some _ := said
  have read := ofNet_listing sent String.toList_ofList denote nonempty a
  rw [List.find?_map] at read
  constructor
  · intro m found
    rw [show nets.find? ((a ∈ ·) ∘ Cidr.block) = some m from found] at read
    exact read
  · intro nowhere
    rw [show nets.find? ((a ∈ ·) ∘ Cidr.block) = none from nowhere] at read
    exact read

/-- An entry for another kind of address, a single address without a length, and a network that
holds it; bounds that are none. -/
theorem toRecord_listed_overlapping :
    let n : Network := ⟨none, none, some "1.2.3", some "", [],
      [⟨none, some 64⟩, ⟨some "1.2.3.4", none⟩, ⟨some "1.2.0.0", some 16⟩]⟩
    (∃ c ∈ n.cidrs, c.v4Address ≠ none) ∧
      (∀ c ∈ n.cidrs, c.v4Address ≠ none → ∃ m, c.Names m) ∧
      ∃ text nets, (n.toRecord Cover.ofBlock).cidr? = some text ∧ Lists n.cidrs nets ∧ ∀ a,
        (∀ m, nets.find? (a ∈ ·.block) = some m →
          (ofRecord a (n.toRecord Cover.ofBlock)).map Finding.block = .ok m.block) ∧
        (nets.find? (a ∈ ·.block) = none →
          (ofRecord a (n.toRecord Cover.ofBlock)).map Finding.block =
            .error (absent a text (nets.map Cidr.block))) := by
  intro n
  have some_listed : ∃ c ∈ n.cidrs, c.v4Address ≠ none :=
    ⟨⟨some "1.2.3.4", none⟩, by decide, by decide⟩
  have canonical : ∀ c ∈ n.cidrs, c.v4Address ≠ none → ∃ m, c.Names m := by
    intro c mem v4
    have entry : c = ⟨none, some 64⟩ ∨ c = ⟨some "1.2.3.4", none⟩ ∨
        c = ⟨some "1.2.0.0", some 16⟩ := by
      simpa [n] using mem
    rcases entry with rfl | rfl | rfl
    · exact absurd rfl v4
    · exact ⟨.ofAddress (.ofOctets 1 2 3 4), by decide, rfl, by decide⟩
    · exact ⟨.ofOctets 1 2 0 0 16, by decide, rfl, by decide⟩
  exact ⟨some_listed, canonical, toRecord_listed n Cover.ofBlock some_listed canonical⟩

end Network

end OwnerCache.Rdap
