/-
# OwnerCache.Proofs.Whois.Grammar -- which texts are a single network

Two notations stand for a network, and they differ in the zeros that a number may start
with.  An address alone, which is a network of its own, has none of them
(`Address.SpellsPlainly`); in a pair of an address and a length there may be some in front of
every number.  `Cidr.IsNotation` has both, character by character: nothing in it refers to
what is written or to the order in which the two are tried.

A text is read as a block exactly if it is in one of the notations and the bits behind the
length are clear, and the block has as many addresses as those bits tell apart
(`readBlock_grammar`).  So its last address is never beyond the greatest one, not even
for a length of 0, and an address alone is never refused for its bits.  Any other text is
malformed, and is quoted without the blanks at its ends.
-/
import OwnerCache.Proofs.Net.Cover
import OwnerCache.Proofs.Whois.Listing

namespace OwnerCache

set_option autoImplicit false

/-! ## Numbers without zeros in front -/

namespace Decimal

/-- A run of at most `width` digits that starts with a zero only if it is nothing else. -/
structure SpellsPlainly (width : Nat) (cs : List Char) (n : Nat) : Prop
    extends Spells width cs n where
  plain : cs.length = 1 ∨ cs.head? ≠ some '0'

/-- Without zeros in front a number is spelled in one way. -/
theorem spellsPlainly_iff {width n : Nat} {cs : List Char} (pos : 0 < width)
    (lt : n < 10 ^ width) : SpellsPlainly width cs n ↔ cs = write n := by
  constructor
  · intro spelled
    rw [← spelled.value_eq, write_value spelled.nonempty spelled.digits spelled.plain]
  · rintro rfl
    exact ⟨spells_write pos lt, write_plain n⟩

end Decimal

namespace Address

/-- Four octets between dots, each in one to three digits without zeros in front. -/
def SpellsPlainly (cs : List Char) (a : Address) : Prop :=
  ∃ texts, cs = ['.'].intercalate texts ∧ List.Forall₂ (Decimal.SpellsPlainly 3) texts a.octets

theorem spellsPlainly_iff {cs : List Char} {a : Address} : SpellsPlainly cs a ↔ cs = a.write := by
  have octet : ∀ cs (o : Fin 256),
      Octet.read? cs = some o ↔ Decimal.SpellsPlainly 3 cs o.val := by
    intro cs o
    rw [Octet.read?_eq_some, Decimal.spellsPlainly_iff (by decide) (by omega)]
  rw [← read?_eq_some]
  exact (readWith?_eq_some octet fun _ _ spelled => undotted_of_spells spelled.toSpells).symm

end Address

/-! ## Networks -/

namespace Cidr

/-- A text that stands for an address and the length of its fixed part: the address alone, all of
which is fixed, or the two with a slash between them. -/
inductive IsNotation : List Char → Address → Nat → Prop
  | bare {cs : List Char} {a : Address} (address : Address.SpellsPlainly cs a) : IsNotation cs a 32
  | pair {cs ds : List Char} {a : Address} {length : Nat} (address : Address.Spells cs a)
      (digits : Decimal.Spells 2 ds length) (length_le : length ≤ 32) :
      IsNotation (cs ++ '/' :: ds) a length

theorem Spells.isNotation {cs : List Char} {n : Cidr} (spelled : Spells cs n) :
    IsNotation cs n.address n.length := by
  cases spelled with
  | pair address digits => exact .pair address digits n.length_le
  | bare a => exact .bare (Address.spellsPlainly_iff.mpr rfl)

theorem IsNotation.exists_spells {cs : List Char} {a : Address} {length : Nat}
    (form : IsNotation cs a length) : ∃ n, Spells cs n ∧ n.address = a ∧ n.length = length := by
  cases form with
  | bare address =>
      refine ⟨.ofAddress a, ?_, rfl, rfl⟩
      rw [Address.spellsPlainly_iff.mp address]
      exact .bare a
  | pair address digits length_le => exact ⟨⟨a, length, length_le⟩, .pair address digits, rfl, rfl⟩

/-- The bits behind the length are those below the size. -/
theorem isAligned_iff (n : Cidr) :
    n.IsAligned ↔ ∀ i < 32 - n.length, n.address.value.testBit i = false := by
  rw [IsAligned, size, Nat.one_shiftLeft]
  constructor
  · intro aligned i below
    have bit := Nat.testBit_mod_two_pow n.address.value (32 - n.length) i
    rw [aligned, Nat.zero_testBit] at bit
    simpa [below] using bit.symm
  · intro clear
    apply Nat.eq_of_testBit_eq
    intro i
    rw [Nat.testBit_mod_two_pow, Nat.zero_testBit]
    by_cases below : i < 32 - n.length
    · rw [clear i below, Bool.and_false]
    · rw [decide_eq_false below, Bool.false_and]

end Cidr

/-! ## Blocks -/

namespace Whois.Finding

/-- The text is a notation of the first address of the block, whose bits behind the length are
clear, and the block has an address for each way to set them. -/
def Notates (cs : List Char) (b : Block) : Prop :=
  ∃ length, Cidr.IsNotation cs b.first length ∧
    (∀ i < 32 - length, b.first.value.testBit i = false) ∧
    b.last.value + 1 = b.first.value + 2 ^ (32 - length)

theorem denotes_iff {cs : List Char} {b : Block} : Denotes cs b ↔ Notates cs b := by
  have size (n : Cidr) : n.size = 2 ^ (32 - n.length) := Nat.one_shiftLeft _
  constructor
  · rintro ⟨n, spelled, aligned, rfl⟩
    have first : n.block.first = n.address := aligned.first_eq
    refine ⟨n.length, ?_, ?_, ?_⟩
    · rw [first]
      exact spelled.isNotation
    · rw [first]
      exact n.isAligned_iff.mp aligned
    · rw [← size]
      exact n.last_value
  · rintro ⟨length, form, clear, last⟩
    obtain ⟨n, spelled, address, rfl⟩ := form.exists_spells
    rw [← address] at clear
    have aligned : n.IsAligned := n.isAligned_iff.mpr clear
    have first : n.first = b.first := aligned.first_eq.trans address
    have ends := n.last_value
    rw [first, size, ← last] at ends
    have same : n.last = b.last := Address.ext (Nat.succ.inj ends)
    refine ⟨n, spelled, aligned, ?_⟩
    rw [Cidr.block, first, same]

/-- **A single network is read from the texts of its grammar.**  A text is read as a block exactly
if what is left of it without the blanks at its ends notates that block, and is malformed exactly
if that notates none.  Written in full, a network without free bits is read back. -/
theorem readBlock_grammar (raw : String) :
    let text := Blank.trim raw.toList
    (∀ b, readBlock raw.toList = .ok b ↔ Notates text b) ∧
      (∀ e, readBlock raw.toList = .error e ↔
        e = .malformedCidr (String.ofList text) ∧ ∀ b, ¬ Notates text b) ∧
      ∀ n : Cidr, n.IsAligned → readBlock n.write = .ok n.block := by
  intro text
  have read (b : Block) : readBlock raw.toList = .ok b ↔ Notates text b :=
    readBlock_eq_ok.trans denotes_iff
  refine ⟨read, fun e => ⟨fun failed => ?_, ?_⟩, fun n aligned => ?_⟩
  · obtain ⟨quoted, faulty⟩ := readBlock_eq_error failed
    exact ⟨quoted, fun b notates => faulty b (denotes_iff.mpr notates)⟩
  · rintro ⟨rfl, faulty⟩
    cases result : readBlock raw.toList with
    | ok b => exact absurd ((read b).mp result) (faulty b)
    | error e => rw [(readBlock_eq_error result).1]
  · have denotes : Denotes n.write n.block := ⟨n, n.spells_write, aligned, rfl⟩
    exact denotes.readBlock_eq

/-- Zeros in front are read in a pair, and make an address alone malformed. -/
theorem readBlock_grammar_zeros :
    let n : Cidr := .ofOctets 10 0 0 0 8
    (n.IsAligned ∧ readBlock n.write = .ok n.block) ∧
      Notates (Blank.trim " 010.000.0.0/08\n".toList) n.block ∧
      ∀ b, ¬ Notates (Blank.trim "010.0.0.0".toList) b := by
  intro n
  obtain ⟨pair, -, written⟩ := readBlock_grammar " 010.000.0.0/08\n"
  obtain ⟨-, alone, -⟩ := readBlock_grammar "010.0.0.0"
  refine ⟨⟨by decide, written n (by decide)⟩, (pair _).mp (by decide), ?_⟩
  exact ((alone (.malformedCidr "010.0.0.0")).mp (by decide)).2

end Whois.Finding

end OwnerCache
