/-
# OwnerCache.Proofs.Whois.Block -- the block of a finding

A text `Denotes` the block of an aligned network if it spells that network.
Whatever a record says, the block that is found in it for an address is denoted by a
piece of its text between commas (`selectBlock_eq_ok`), so it is an aligned network,
and it holds the address (`block_of_ofRecord`).  A special-purpose address is found by
itself (`lookedUp_eq_ok`).  So a finding never has a block that ends
before it begins (`first_le_last_of_lookedUp`).
-/
import OwnerCache.Proofs.Net.Nesting
import OwnerCache.Proofs.Net.Notation
import OwnerCache.Proofs.Text.Trim
import OwnerCache.Resolver.Schedule

namespace OwnerCache

set_option autoImplicit false

/-- Two steps in a row end well when both do. -/
theorem bind_eq_ok {ε α β : Type} {x : Except ε α} {f : α → Except ε β} {b : β} :
    (x >>= f) = .ok b ↔ ∃ a, x = .ok a ∧ f a = .ok b := by
  constructor
  · intro h
    cases x with
    | error e => cases h
    | ok a => exact ⟨a, rfl, h⟩
  · rintro ⟨a, rfl, h⟩
    exact h

namespace Whois

/-- The network text that counts: that of the first network. -/
def Record.cidr? (record : Record) : Option String := record.nets.head?.bind (·.cidr)

namespace Finding

theorem readNetwork?_eq_some {cs : List Char} {n : Cidr} :
    readNetwork? cs = some n ↔ Cidr.Spells cs n := by
  simp only [readNetwork?, Option.or_eq_some_iff, Option.map_eq_some_iff, Cidr.read?_eq_some,
    Address.read?_eq_some]
  constructor
  · rintro (⟨q, l, rfl, address, length⟩ | ⟨-, a, rfl, rfl⟩)
    · exact .pair address length
    · exact .bare a
  · intro spelled
    cases spelled with
    | pair address length => exact .inl ⟨_, _, rfl, address, length⟩
    | bare a =>
        -- An address alone has no slash, so the pairs do not take it.
        refine .inr ⟨?_, a, rfl, rfl⟩
        cases read : Cidr.read? a.write with
        | none => rfl
        | some n =>
            obtain ⟨q, l, same, -⟩ := Cidr.read?_eq_some.mp read
            have slash : '/' ∈ a.write := by simp [same]
            exact absurd slash (Cidr.unslashed_of_spells (Address.spells_write a))

/-- The text spells an aligned network, which spans the block. -/
def Denotes (cs : List Char) (b : Block) : Prop :=
  ∃ n : Cidr, Cidr.Spells cs n ∧ n.IsAligned ∧ n.block = b

theorem Denotes.isAligned {cs : List Char} {b : Block} (denotes : Denotes cs b) : b.IsAligned := by
  obtain ⟨n, -, -, rfl⟩ := denotes
  exact n.block_isAligned

theorem readBlock_eq_ok {cs : List Char} {b : Block} :
    readBlock cs = .ok b ↔ Denotes (Blank.trim cs) b := by
  simp only [readBlock, Denotes, ← readNetwork?_eq_some]
  cases read : readNetwork? (Blank.trim cs) with
  | none => simp
  | some n =>
      by_cases aligned : n.IsAligned
      · simp [aligned]
      · simp [aligned]

theorem readBlock_eq_error {cs : List Char} {e : Error} (h : readBlock cs = .error e) :
    e = .malformedCidr (String.ofList (Blank.trim cs)) ∧ ∀ b, ¬ Denotes (Blank.trim cs) b := by
  refine ⟨?_, fun b denotes => ?_⟩
  · simp only [readBlock] at h
    split at h
    · split at h
      · cases h
      · exact (Except.error.inj h).symm
    · exact (Except.error.inj h).symm
  · rw [readBlock_eq_ok.mpr denotes] at h
    cases h

theorem firstHolding_eq_ok {a : Address} {items : List (List Char)} {b : Block}
    (h : firstHolding a items = .ok (some b)) :
    ∃ item ∈ items, readBlock item = .ok b ∧ a ∈ b := by
  induction items with
  | nil => cases h
  | cons item rest ih =>
      rw [firstHolding] at h
      obtain ⟨block, read, next⟩ := bind_eq_ok.mp h
      split at next
      · rename_i holds
        cases next
        exact ⟨item, by simp, read, holds⟩
      · obtain ⟨item', mem, read', holds⟩ := ih next
        exact ⟨item', by simp [mem], read', holds⟩

theorem firstHolding_eq_error {a : Address} {items : List (List Char)} {e : Error}
    (h : firstHolding a items = .error e) : ∃ item ∈ items, readBlock item = .error e := by
  induction items with
  | nil => cases h
  | cons item rest ih =>
      rw [firstHolding] at h
      cases read : readBlock item with
      | error cause =>
          rw [read] at h
          obtain rfl : cause = e := Except.error.inj h
          exact ⟨item, by simp, read⟩
      | ok block =>
          rw [read] at h
          change (if a ∈ block then _ else _) = _ at h
          split at h
          · cases h
          · obtain ⟨item', mem, failed⟩ := ih h
            exact ⟨item', by simp [mem], failed⟩

theorem firstHolding_eq_none {a : Address} {items : List (List Char)} :
    firstHolding a items = .ok none ↔ ∀ item ∈ items, ∃ b, readBlock item = .ok b ∧ a ∉ b := by
  induction items with
  | nil => exact iff_of_true rfl (by simp)
  | cons item rest ih =>
      rw [List.forall_mem_cons, firstHolding, bind_eq_ok]
      constructor
      · rintro ⟨block, read, next⟩
        split at next
        · cases next
        · rename_i out
          exact ⟨⟨block, read, out⟩, ih.mp next⟩
      · rintro ⟨⟨block, read, out⟩, later⟩
        exact ⟨block, read, by rw [if_neg out, ih.mpr later]⟩

/-- The items of a list are trimmed pieces of it. -/
theorem mem_items {cs item : List Char} (mem : item ∈ items cs) :
    ∃ piece ∈ cs.splitOn ',', Blank.trim piece = item :=
  List.mem_map.mp (List.mem_filter.mp mem).1

/-- The block selected is that of a trimmed piece of the text; selected from a list it holds the
address. -/
theorem selectBlock_eq_ok {a : Address} {cs : List Char} {b : Block}
    (h : selectBlock a cs = .ok b) :
    (∃ piece ∈ cs.splitOn ',', Denotes (Blank.trim piece) b) ∧ (',' ∈ cs → a ∈ b) := by
  unfold selectBlock at h
  split at h
  · obtain ⟨found, first, next⟩ := bind_eq_ok.mp h
    cases found with
    | none => cases next
    | some block =>
        obtain rfl := Except.ok.inj next
        obtain ⟨item, mem, read, holds⟩ := firstHolding_eq_ok first
        obtain ⟨piece, here, rfl⟩ := mem_items mem
        have denotes := readBlock_eq_ok.mp read
        rw [Blank.trim_trim] at denotes
        exact ⟨⟨piece, here, denotes⟩, fun _ => holds⟩
  · rename_i single
    have whole : cs.splitOn ',' = [cs] := List.splitOn_eq_singleton single
    exact ⟨⟨cs, by simp [whole], readBlock_eq_ok.mp h⟩, fun list => absurd list single⟩

/-- A block that a text denotes is found for the addresses it holds, and only for them. -/
theorem checkBlock_eq {text : List Char} {b : Block} (denotes : Denotes text b) (a : Address) :
    checkBlock a b = if a ∈ b then .ok b else .error (.addressOutOfRange a b) := by
  have proper : ¬ b.last < b.first := Nat.not_lt.mpr denotes.isAligned.first_le_last
  rw [checkBlock, if_neg proper]

theorem checkBlock_eq_ok {a : Address} {b c : Block} (h : checkBlock a b = .ok c) :
    c = b ∧ a ∈ b := by
  unfold checkBlock at h
  split at h
  · cases h
  · split at h
    · rename_i holds
      exact ⟨(Except.ok.inj h).symm, holds⟩
    · cases h

theorem block_of_ofNet {a : Address} {net : Net} {f : Finding} (h : ofNet a net = .ok f) :
    a ∈ f.block ∧ ∃ n : Cidr, n.IsAligned ∧ n.block = f.block := by
  unfold ofNet at h
  split at h
  · cases h
  · obtain ⟨block, selected, next⟩ := bind_eq_ok.mp h
    obtain ⟨block', checked, made⟩ := bind_eq_ok.mp next
    obtain ⟨rfl, holds⟩ := checkBlock_eq_ok checked
    obtain ⟨⟨piece, -, n, -, aligned, same⟩, -⟩ := selectBlock_eq_ok selected
    obtain rfl := Except.ok.inj made
    exact ⟨holds, n, aligned, same⟩

/-- The block found in a record is an aligned network that holds the address. -/
theorem block_of_ofRecord {a : Address} {record : Record} {f : Finding}
    (h : ofRecord a record = .ok f) :
    a ∈ f.block ∧ ∃ n : Cidr, n.IsAligned ∧ n.block = f.block := by
  unfold ofRecord at h
  split at h
  · cases h
  · exact block_of_ofNet h

end Finding

end Whois

namespace Schedule

/-- A lookup finds the address alone where it is special, and otherwise what a record says. -/
theorem lookedUp_eq_ok {policy : Policy} {a : Address} {reply : Reply} {f : Whois.Finding}
    (h : lookedUp policy a reply = .ok f) :
    (∃ name, policy.classify a = some name ∧ f = .reserved a name) ∨
      policy.classify a = none ∧ ∃ record, Whois.Finding.ofRecord a record = .ok f := by
  unfold lookedUp at h
  split at h
  · rename_i name special
    exact .inl ⟨name, special, (Except.ok.inj h).symm⟩
  · rename_i ordinary
    cases reply with
    | record record => exact .inr ⟨ordinary, record, h⟩
    | failure cause => cases h
    | silence => cases h

theorem mem_block_of_lookedUp {policy : Policy} {a : Address} {reply : Reply} {f : Whois.Finding}
    (h : lookedUp policy a reply = .ok f) : a ∈ f.block := by
  rcases lookedUp_eq_ok h with ⟨name, -, rfl⟩ | ⟨-, record, found⟩
  · exact ⟨Nat.le_refl _, Nat.le_refl _⟩
  · exact (Whois.Finding.block_of_ofRecord found).1

theorem first_le_last_of_lookedUp {policy : Policy} {a : Address} {reply : Reply}
    {f : Whois.Finding} (h : lookedUp policy a reply = .ok f) : f.block.first ≤ f.block.last := by
  obtain ⟨first, last⟩ := mem_block_of_lookedUp h
  exact Nat.le_trans first last

end Schedule

end OwnerCache
