/-
# OwnerCache.Proofs.Net.Notation -- which texts stand for an address or a network

The grammars of the readers, said without reading:

* `Decimal.Spells width cs n` -- a run of at most `width` digits with the value `n`;
* `Address.Spells cs a` -- the four octets between dots, each in one to three digits;
* `Cidr.Spells cs n` -- an address, a slash and a length of one or two digits, or the
  canonical quad of an address that stands for itself.

Each reader finds a value exactly in the texts that spell it (`Octet.readLoose?_eq_some`,
`Address.readWith?_eq_some`, `Cidr.read?_eq_some`), and what is written is spelled
(`Address.spells_write`, `Cidr.spells_write`).  The strict reader takes an address in its
canonical quad only (`Address.read?_eq_some`).
-/
import Mathlib.Algebra.Group.Nat.Defs
import Mathlib.Data.List.Forall2
import OwnerCache.Net.Cidr

namespace OwnerCache

set_option autoImplicit false

/-! ## Digits -/

namespace Decimal

/-- A run of at most `width` digits that stands for a number; it may start with zeros. -/
structure Spells (width : Nat) (cs : List Char) (n : Nat) : Prop where
  nonempty : cs ≠ []
  digits : ∀ c ∈ cs, c.isDigit = true
  length_le : cs.length ≤ width
  value_eq : value cs = n

theorem read?_eq_some {cs : List Char} {n : Nat} :
    read? cs = some n ↔ cs ≠ [] ∧ (∀ c ∈ cs, c.isDigit = true) ∧ value cs = n := by
  simp [read?, and_assoc]

theorem readBelow?_eq_some {bound width : Nat} {cs : List Char} {o : Fin bound} :
    readBelow? bound width cs = some o ↔ Spells width cs o.val := by
  simp only [readBelow?, Option.bind_eq_bind, Option.bind_eq_some_iff, read?_eq_some]
  constructor
  · rintro ⟨n, ⟨nonempty, digits, rfl⟩, found⟩
    split at found
    · rename_i bounds
      rw [← Option.some.inj found]
      exact ⟨nonempty, digits, bounds.2, rfl⟩
    · cases found
  · rintro ⟨nonempty, digits, length_le, same⟩
    exact ⟨o.val, ⟨nonempty, digits, same⟩, dif_pos ⟨o.isLt, length_le⟩⟩

theorem spells_write {width n : Nat} (pos : 0 < width) (lt : n < 10 ^ width) :
    Spells width (write n) n where
  nonempty := write_ne_nil n
  digits _ mem := isDigit_of_mem_write mem
  length_le := (Nat.length_toDigits_le_iff (by decide) pos).mpr lt
  value_eq := value_write n

theorem digitChar_of_isDigit {c : Char} (digit : c.isDigit = true) :
    c.toNat - '0'.toNat < 10 ∧ Nat.digitChar (c.toNat - '0'.toNat) = c := by
  obtain ⟨low, high⟩ := Char.isDigit_iff_toNat.mp digit
  rw [show '0'.toNat = 48 from rfl] at *
  rw [show '9'.toNat = 57 from rfl] at high
  have lt : c.toNat - 48 < 10 := by omega
  refine ⟨lt, Char.toNat_inj.mp ?_⟩
  rw [Nat.toNat_digitChar_of_lt_ten lt]
  omega

/-- Digits after a number that is not zero are its further digits. -/
theorem write_append {cs : List Char} {start : Nat} (pos : 0 < start)
    (digits : ∀ c ∈ cs, c.isDigit = true) :
    write start ++ cs = write (Nat.ofDigitChars 10 cs start) := by
  induction cs generalizing start with
  | nil => simp
  | cons c cs ih =>
      obtain ⟨lt, same⟩ := digitChar_of_isDigit (digits c List.mem_cons_self)
      have next : write start ++ [c] = write (10 * start + (c.toNat - '0'.toNat)) := by
        have joined := Nat.toDigits_append_toDigits (by decide : 1 < 10) pos lt
        rwa [Nat.toDigits_of_lt_base lt, same] at joined
      rw [Nat.ofDigitChars_cons, ← ih (by omega) fun d mem => digits d (List.mem_cons_of_mem _ mem),
        ← next, List.append_assoc, List.singleton_append]

/-- Only zero itself is written with a zero in front, so all other runs are written anew. -/
theorem write_value {cs : List Char} (nonempty : cs ≠ [])
    (digits : ∀ c ∈ cs, c.isDigit = true) (plain : cs.length = 1 ∨ cs.head? ≠ some '0') :
    write (value cs) = cs := by
  cases cs with
  | nil => exact absurd rfl nonempty
  | cons c cs =>
      obtain ⟨lt, same⟩ := digitChar_of_isDigit (digits c List.mem_cons_self)
      have single : write (c.toNat - '0'.toNat) = [c] := by
        rw [write, Nat.toDigits_of_lt_base lt, same]
      rcases plain with alone | proper
      · obtain rfl : cs = [] := by simpa using alone
        simpa [value, Nat.ofDigitChars_cons] using single
      · have pos : 0 < c.toNat - '0'.toNat := by
          refine Nat.pos_of_ne_zero fun zero => proper ?_
          rw [← same, zero]
          rfl
        have joined := write_append pos fun d mem => digits d (List.mem_cons_of_mem _ mem)
        rw [single] at joined
        simpa [value, Nat.ofDigitChars_cons] using joined.symm

/-- What is written starts with a zero for zero only. -/
theorem head_write {n : Nat} (pos : 0 < n) : (write n).head? ≠ some '0' := by
  induction n using Nat.strongRecOn with
  | ind n ih =>
      by_cases small : n < 10
      · rw [write, Nat.toDigits_of_lt_base small]
        intro zero
        have value := Nat.toNat_digitChar_of_lt_ten small
        rw [Option.some.inj zero] at value
        rw [show '0'.toNat = 48 from rfl] at value
        omega
      · have split : write (n / 10) ++ Nat.toDigits 10 (n % 10) = write n := by
          have joined := Nat.toDigits_append_toDigits (by decide : 1 < 10)
            (by omega : 0 < n / 10) (Nat.mod_lt n (by decide))
          rwa [Nat.div_add_mod] at joined
        rw [← split, List.head?_append_of_ne_nil _ (write_ne_nil _)]
        exact ih (n / 10) (by omega) (by omega)

theorem write_plain (n : Nat) : (write n).length = 1 ∨ (write n).head? ≠ some '0' := by
  rcases Nat.eq_zero_or_pos n with rfl | pos
  · exact .inl rfl
  · exact .inr (head_write pos)

end Decimal

/-! ## Octets -/

namespace Octet

theorem readLoose?_eq_some {cs : List Char} {o : Fin 256} :
    readLoose? cs = some o ↔ Decimal.Spells 3 cs o.val := Decimal.readBelow?_eq_some

/-- The canonical digits of an octet are those that are written. -/
theorem read?_eq_some {cs : List Char} {o : Fin 256} :
    read? cs = some o ↔ cs = Decimal.write o.val := by
  constructor
  · intro h
    unfold read? at h
    split at h
    · rename_i plain
      obtain ⟨nonempty, digits, -, same⟩ := readLoose?_eq_some.mp h
      rw [← same, Decimal.write_value nonempty digits plain]
    · cases h
  · rintro rfl
    rw [read?, if_pos (Decimal.write_plain o.val)]
    exact readLoose?_eq_some.mpr (Decimal.spells_write (by decide) (by omega))

end Octet

/-! ## Addresses -/

theorem exists_of_forall₂ {α β : Type} {R : α → β → Prop} {xs : List α} {ys : List β}
    (related : List.Forall₂ R xs ys) {x : α} (mem : x ∈ xs) : ∃ y ∈ ys, R x y := by
  induction related with
  | nil => cases mem
  | cons first _ ih =>
      rcases List.mem_cons.mp mem with rfl | later
      · exact ⟨_, List.mem_cons_self, first⟩
      · obtain ⟨y, here, related⟩ := ih later
        exact ⟨y, List.mem_cons_of_mem _ here, related⟩

/-- A character of separated texts is one of the separator's or of a text's. -/
theorem mem_intercalate {sep : List Char} {texts : List (List Char)} {c : Char}
    (mem : c ∈ sep.intercalate texts) : c ∈ sep ∨ ∃ text ∈ texts, c ∈ text := by
  induction texts with
  | nil => simp at mem
  | cons first rest ih =>
      cases rest with
      | nil => exact .inr ⟨first, by simp, by simpa using mem⟩
      | cons second rest =>
          rw [List.intercalate_cons_cons, List.mem_append, List.mem_append] at mem
          rcases mem with (here | between) | later
          · exact .inr ⟨first, by simp, here⟩
          · exact .inl between
          · exact (ih later).imp_right fun ⟨text, mem, has⟩ => ⟨text, by simp [mem], has⟩

namespace Address

theorem octets_ofOctets (a b c d : Fin 256) :
    (ofOctets a b c d).octets = [a.val, b.val, c.val, d.val] := by
  simp only [octets, ofOctets, List.cons.injEq, and_true]
  omega

theorem exists_ofOctets (a : Address) : ∃ w x y z, a = ofOctets w x y z := by
  obtain ⟨n, lt⟩ := a
  refine ⟨⟨n / 0x1000000, by omega⟩, ⟨n / 0x10000 % 0x100, by omega⟩,
    ⟨n / 0x100 % 0x100, by omega⟩, ⟨n % 0x100, by omega⟩, ?_⟩
  simp only [ofOctets, Address.ext_iff]
  omega

/-- A reader of octets without dots makes a reader of addresses: it takes the texts of the four
octets with dots between them. -/
theorem readWith?_eq_some {octet? : List Char → Option (Fin 256)}
    {Digits : List Char → Nat → Prop} (reads : ∀ cs o, octet? cs = some o ↔ Digits cs o.val)
    (undotted : ∀ cs n, Digits cs n → '.' ∉ cs) {cs : List Char} {a : Address} :
    readWith? octet? cs = some a ↔
      ∃ texts, cs = ['.'].intercalate texts ∧ List.Forall₂ Digits texts a.octets := by
  constructor
  · intro h
    unfold readWith? at h
    split at h
    · rename_i w x y z pieces
      simp only [Option.bind_eq_bind, Option.bind_eq_some_iff, reads] at h
      obtain ⟨w', hw, x', hx, y', hy, z', hz, made⟩ := h
      obtain rfl := Option.some.inj made
      refine ⟨[w, x, y, z], ?_, ?_⟩
      · rw [← pieces, List.intercalate_splitOn]
      · rw [octets_ofOctets]
        exact .cons hw (.cons hx (.cons hy (.cons hz .nil)))
    · cases h
  · rintro ⟨texts, rfl, spelled⟩
    obtain ⟨w', x', y', z', rfl⟩ := exists_ofOctets a
    rw [octets_ofOctets] at spelled
    simp only [List.forall₂_cons_right_iff, List.forall₂_nil_right_iff] at spelled
    obtain ⟨w, _, hw, ⟨x, _, hx, ⟨y, _, hy, ⟨z, _, hz, rfl, rfl⟩, rfl⟩, rfl⟩, rfl⟩ := spelled
    have pieces : (['.'].intercalate [w, x, y, z]).splitOn '.' = [w, x, y, z] := by
      refine List.splitOn_intercalate '.' ?_ (by simp)
      simp only [List.forall_mem_cons, List.not_mem_nil, false_imp_iff, implies_true, and_true]
      exact ⟨undotted w _ hw, undotted x _ hx, undotted y _ hy, undotted z _ hz⟩
    rw [readWith?, pieces]
    simp [(reads _ _).mpr hw, (reads _ _).mpr hx, (reads _ _).mpr hy, (reads _ _).mpr hz]

/-- Four octets between dots, each in one to three digits. -/
def Spells (cs : List Char) (a : Address) : Prop :=
  ∃ texts, cs = ['.'].intercalate texts ∧ List.Forall₂ (Decimal.Spells 3) texts a.octets

theorem undotted_of_spells {width n : Nat} {cs : List Char} (spelled : Decimal.Spells width cs n) :
    '.' ∉ cs := fun mem => absurd (spelled.digits '.' mem) (by decide)

theorem readLoose?_eq_some {cs : List Char} {a : Address} :
    readWith? Octet.readLoose? cs = some a ↔ Spells cs a :=
  readWith?_eq_some (fun _ _ => Octet.readLoose?_eq_some) fun _ _ => undotted_of_spells

/-- The canonical quad of an address is the one that is written. -/
theorem read?_eq_some {cs : List Char} {a : Address} : read? cs = some a ↔ cs = a.write := by
  have written : ∀ texts, List.Forall₂ (fun cs n => cs = Decimal.write n) texts a.octets ↔
      texts = a.octets.map Decimal.write := fun texts => by
    rw [← List.forall₂_map_right_iff (R := fun cs ds => cs = ds), List.forall₂_eq_eq_eq]
  have undotted : ∀ cs n, cs = Decimal.write n → '.' ∉ cs := by
    rintro _ n rfl mem
    exact absurd (Decimal.isDigit_of_mem_write mem) (by decide)
  rw [read?, readWith?_eq_some (fun _ _ => Octet.read?_eq_some) undotted]
  simp only [written]
  constructor
  · rintro ⟨texts, rfl, rfl⟩
    rfl
  · rintro rfl
    exact ⟨_, rfl, rfl⟩

theorem spells_write (a : Address) : Spells a.write a := by
  refine ⟨a.octets.map Decimal.write, rfl, ?_⟩
  obtain ⟨w, x, y, z, rfl⟩ := exists_ofOctets a
  rw [octets_ofOctets]
  have octet : ∀ o : Fin 256, Decimal.Spells 3 (Decimal.write o.val) o.val :=
    fun o => Decimal.spells_write (by decide) (by omega)
  exact .cons (octet w) (.cons (octet x) (.cons (octet y) (.cons (octet z) .nil)))

/-- The characters of an address. -/
theorem Spells.chars {cs : List Char} {a : Address} (spelled : Spells cs a) :
    ∀ c ∈ cs, c.isDigit = true ∨ c = '.' := by
  obtain ⟨texts, rfl, octets⟩ := spelled
  intro c mem
  rcases mem_intercalate mem with dot | ⟨text, here, has⟩
  · exact .inr (List.mem_singleton.mp dot)
  · obtain ⟨n, -, octet⟩ := exists_of_forall₂ octets here
    exact .inl (octet.digits c has)

end Address

/-! ## Networks -/

namespace Cidr

theorem readLength?_eq_some {cs : List Char} {l : Fin 33} :
    readLength? cs = some l ↔ Decimal.Spells 2 cs l.val := Decimal.readBelow?_eq_some

/-- A pair of an address and a length, or an address that stands for itself. -/
inductive Spells : List Char → Cidr → Prop
  | pair {cs ds : List Char} {n : Cidr} (address : Address.Spells cs n.address)
      (length : Decimal.Spells 2 ds n.length) : Spells (cs ++ '/' :: ds) n
  | bare (a : Address) : Spells a.write (.ofAddress a)

theorem unslashed_of_spells {cs : List Char} {a : Address} (spelled : Address.Spells cs a) :
    '/' ∉ cs := fun mem => absurd (spelled.chars '/' mem) (by decide)

theorem read?_eq_some {cs : List Char} {n : Cidr} :
    read? cs = some n ↔ ∃ q l, cs = q ++ '/' :: l ∧ Address.Spells q n.address ∧
      Decimal.Spells 2 l n.length := by
  constructor
  · intro h
    unfold read? at h
    split at h
    · rename_i q l pieces
      simp only [Option.bind_eq_bind, Option.bind_eq_some_iff, Address.readLoose?_eq_some,
        readLength?_eq_some] at h
      obtain ⟨a, address, k, length, made⟩ := h
      obtain rfl := Option.some.inj made
      have joined : ['/'].intercalate (cs.splitOn '/') = cs := List.intercalate_splitOn '/'
      refine ⟨q, l, ?_, address, length⟩
      rw [← joined, pieces]
      simp
    · cases h
  · rintro ⟨q, l, rfl, address, length⟩
    have slash : '/' ∉ l := fun mem => absurd (length.digits '/' mem) (by decide)
    have pieces : (q ++ '/' :: l).splitOn '/' = [q, l] := by
      have split : (['/'].intercalate [q, l]).splitOn '/' = [q, l] :=
        List.splitOn_intercalate '/' (by simpa using ⟨unslashed_of_spells address, slash⟩) (by simp)
      simpa using split
    have address' := Address.readLoose?_eq_some.mpr address
    have length' : readLength? l = some ⟨n.length, Nat.lt_succ_of_le n.length_le⟩ :=
      readLength?_eq_some.mpr length
    simp [read?, pieces, address', length']

theorem spells_write (n : Cidr) : Spells n.write n :=
  .pair (Address.spells_write n.address)
    (Decimal.spells_write (by decide) (Nat.lt_of_le_of_lt n.length_le (by decide)))

/-- The characters of a network. -/
theorem Spells.chars {cs : List Char} {n : Cidr} (spelled : Spells cs n) :
    ∀ c ∈ cs, c.isDigit = true ∨ c = '.' ∨ c = '/' := by
  intro c mem
  cases spelled with
  | pair address length =>
      rcases List.mem_append.mp mem with here | later
      · exact (address.chars c here).imp_right .inl
      · rcases List.mem_cons.mp later with slash | here
        · exact .inr (.inr slash)
        · exact .inl (length.digits c here)
  | bare a => exact ((Address.spells_write a).chars c mem).imp_right .inl

end Cidr

end OwnerCache
