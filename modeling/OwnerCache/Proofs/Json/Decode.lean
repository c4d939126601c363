/-
# OwnerCache.Proofs.Json.Decode -- decoders find what a document was made of

Strings, numbers, addresses, options and lists are decoded to what they were made of, and the fields
of a structure are given as it has them (`fields?_ofFields`), if no two have one name.

All of these documents can be written (`IsWritable`): the digits of an integer are a number of the
grammar, and a text has characters only.
-/
import Mathlib.Data.List.TakeWhile
import OwnerCache.Json.Decode
import OwnerCache.Proofs.Json.Document
import OwnerCache.Store.Wide

namespace OwnerCache.Json

set_option autoImplicit false

/-! ## Single values -/

/-- What was made of each element is read back from each. -/
theorem mapM_map {α β γ : Type} {f : β → Option γ} {g : α → β} {h : α → γ} {xs : List α}
    (each : ∀ x ∈ xs, f (g x) = some (h x)) : (xs.map g).mapM f = some (xs.map h) := by
  induction xs with
  | nil => rfl
  | cons x xs ih =>
      obtain ⟨here, later⟩ := List.forall_mem_cons.mp each
      simp [here, ih later]

theorem characters?_units (s : String) : characters? (units s) = some s := by
  rw [characters?, units, mapM_map (f := id) (g := some) (h := id) fun _ _ => rfl, List.map_id,
    Option.map_some, String.ofList_toList]

theorem asString?_ofString (s : String) : asString? (ofString s) = some s := characters?_units s

theorem head_write_ne_minus {n : Nat} {cs : List Char} : Decimal.write n ≠ '-' :: cs := by
  intro same
  have mem : '-' ∈ Decimal.write n := by
    rw [same]
    exact List.mem_cons_self
  have digit := Decimal.isDigit_of_mem_write mem
  exact absurd digit (by decide)

theorem asInt?_ofNat (n : Nat) : asInt? (ofNat n) = some (n : Int) := by
  rw [ofNat, asInt?]
  · simp
  · exact fun cs same => head_write_ne_minus same

theorem asInt?_ofInt (i : Int) : asInt? (ofInt i) = some i := by
  cases i with
  | ofNat n => exact asInt?_ofNat n
  | negSucc n =>
      simp only [ofInt, Decimal.writeInt, asInt?, Decimal.read?_write, Option.bind_some]
      rfl

theorem asInt64?_ofInt {i : Int} (fits : Wide.Fits i) : asInt64? (ofInt i) = some i := by
  obtain ⟨low, high⟩ := fits
  rw [asInt64?, asIntIn?, asInt?_ofInt, Option.bind_some, if_pos ⟨low, by omega⟩]

theorem asAddressNumber?_ofNat (a : Address) : asAddressNumber? (ofNat a.value) = some a := by
  rw [asAddressNumber?, asInt?_ofNat, Option.bind_some]
  simp [Address.ofInt?, Address.ofNat?, a.value_lt]

theorem asAddress?_ofString (a : Address) : asAddress? (ofString a.text) = some a := by
  rw [asAddress?, asString?_ofString, Option.bind_some, Address.ofText?, Address.text,
    String.toList_ofList]
  exact Address.read?_eq_some.mpr rfl

section

variable {α : Type} {make : α → Json} {value? : Json → Option α}

theorem nullable?_ofOption {o : Option α} (decodes : ∀ a ∈ o, value? (make a) = some a)
    (solid : ∀ a, make a ≠ .null) : Field.nullable? value? (ofOption make o) = some o := by
  cases o with
  | none => rfl
  | some a =>
      rw [ofOption, Field.nullable?, decodes a rfl, Option.map_some]
      exact solid a

theorem asList?_map (decodes : ∀ a, value? (make a) = some a) (xs : List α) :
    asList? value? (.array (xs.map make)) = some xs := by
  rw [asList?, mapM_map (h := id) fun a _ => decodes a, List.map_id]

end

/-- A text that may be missing. -/
theorem nullable?_asString? (o : Option String) :
    Field.nullable? asString? (ofOption ofString o) = some o :=
  nullable?_ofOption (fun s _ => asString?_ofString s) (by simp [ofString])

/-- A number of 64 bits that may be missing. -/
theorem nullable?_asInt64? {o : Option Int} (fits : ∀ i ∈ o, Wide.Fits i) :
    Field.nullable? asInt64? (ofOption ofInt o) = some o :=
  nullable?_ofOption (fun i mem => asInt64?_ofInt (fits i mem)) (by simp [ofInt])

/-! ## Structures -/

/-- Of fields with different names one has a name that one of them has. -/
theorem filter_eq_single {fields : List (String × Json)} (distinct : (fields.map (·.1)).Nodup)
    {field : String × Json} (mem : field ∈ fields) :
    fields.filter (fun other => other.1 == field.1) = [field] := by
  induction fields with
  | nil => cases mem
  | cons first rest ih =>
      obtain ⟨new, distinct⟩ := List.nodup_cons.mp distinct
      rcases List.mem_cons.mp mem with rfl | mem
      · have others : rest.filter (fun other => other.1 == field.1) = [] := by
          refine List.filter_eq_nil_iff.mpr fun other mem same => new ?_
          exact List.mem_map.mpr ⟨other, mem, eq_of_beq same⟩
        rw [List.filter_cons_of_pos (by simp), others]
      · have other : first.1 ≠ field.1 := fun same =>
          new (List.mem_map.mpr ⟨field, mem, same.symm⟩)
        rw [List.filter_cons_of_neg (by simpa using other), ih distinct mem]

theorem lookup?_eq_given {fields : List (String × Json)} (distinct : (fields.map (·.1)).Nodup)
    {field : String × Json} (mem : field ∈ fields) :
    lookup? fields field.1 = some (.given field.2) := by
  rw [lookup?, filter_eq_single distinct mem]

/-- A structure has the fields that it was made of. -/
theorem fields?_ofFields {fields : List (String × Json)} (distinct : (fields.map (·.1)).Nodup) :
    fields? (fields.map (·.1)) (ofFields fields) = some (fields.map (.given ·.2)) := by
  rw [ofFields, fields?, mapM_map (h := id), List.map_id]
  · exact mapM_map fun _ mem => lookup?_eq_given distinct mem
  · intro field _
    simp only [characters?_units, Option.map_some]
    rfl

/-! ## Documents that can be written -/

/-- Digits go through a test that no digit fails. -/
theorem takeWhile_write (n : Nat) (test : Char → Bool)
    (passes : ∀ c : Char, c.isDigit = true → test c = true) :
    (Decimal.write n).takeWhile test = Decimal.write n ∧
      (Decimal.write n).dropWhile test = [] := by
  have all : ∀ c ∈ Decimal.write n, test c = true :=
    fun c mem => passes c (Decimal.isDigit_of_mem_write mem)
  exact ⟨List.takeWhile_eq_self_iff.mpr all, List.dropWhile_eq_nil_iff.mpr all⟩

theorem isIntegerPart_write (n : Nat) : isIntegerPart (Decimal.write n) = true := by
  have digit : ∀ c ∈ Decimal.write n, c.isDigit = true := fun _ => Decimal.isDigit_of_mem_write
  have plain := Decimal.write_plain n
  have nonempty := Decimal.write_ne_nil n
  generalize Decimal.write n = cs at *
  rcases cs with _ | ⟨c, _ | ⟨d, ds⟩⟩
  · exact absurd rfl nonempty
  · exact digit c List.mem_cons_self
  · have first : c ≠ '0' := by simpa using plain
    obtain ⟨here, later⟩ := List.forall_mem_cons.mp digit
    have all : (d :: ds).all Char.isDigit = true := List.all_eq_true.mpr later
    simp only [isIntegerPart, here, all, Bool.and_true, Bool.true_and, bne_iff_ne]
    exact first

/-- Digits are a number: there is no letter in them, no point, and no superfluous zero. -/
theorem isUnsigned_write (n : Nat) : isUnsigned (Decimal.write n) = true := by
  have unlettered := takeWhile_write n (fun c => c != 'e' && c != 'E') fun c digit => by
    have small : c ≠ 'e' := by rintro rfl; exact absurd digit (by decide)
    have large : c ≠ 'E' := by rintro rfl; exact absurd digit (by decide)
    simp [small, large]
  have unpointed := takeWhile_write n (· != '.') fun c digit => by
    have other : c ≠ '.' := by rintro rfl; exact absurd digit (by decide)
    simp [other]
  simp only [isUnsigned, unlettered, unpointed, isIntegerPart_write]
  rfl

theorem isNumber_writeInt (i : Int) : isNumber (Decimal.writeInt i) = true := by
  cases i with
  | ofNat n =>
      rw [Decimal.writeInt, isNumber]
      · exact isUnsigned_write n
      · exact fun cs same => head_write_ne_minus same
  | negSucc n => exact isUnsigned_write (n + 1)

theorem null_isWritable : IsWritable .null := by simp [IsWritable, tokens, Token.IsWritable]

theorem ofString_isWritable (s : String) : (ofString s).IsWritable := by
  simp [IsWritable, ofString, tokens, Token.IsWritable, units]

theorem ofInt_isWritable (i : Int) : (ofInt i).IsWritable := by
  simp [IsWritable, ofInt, tokens, Token.IsWritable, isNumber_writeInt]

theorem ofNat_isWritable (n : Nat) : (ofNat n).IsWritable := ofInt_isWritable n

theorem ofOption_isWritable {α : Type} {make : α → Json} (writable : ∀ a, (make a).IsWritable)
    (o : Option α) : (ofOption make o).IsWritable := by
  cases o with
  | none => exact null_isWritable
  | some a => exact writable a

theorem itemTokens_isWritable {items : List Json} (writable : ∀ item ∈ items, item.IsWritable) :
    ∀ t ∈ itemTokens items, t.IsWritable := by
  induction items with
  | nil => simp [itemTokens, Token.IsWritable]
  | cons item items ih =>
      obtain ⟨first, rest⟩ := List.forall_mem_cons.mp writable
      rw [itemTokens, List.cons_append]
      exact List.forall_mem_cons.mpr ⟨trivial, List.forall_mem_append.mpr ⟨first, ih rest⟩⟩

theorem array_isWritable {items : List Json} (writable : ∀ item ∈ items, item.IsWritable) :
    (array items).IsWritable := by
  cases items with
  | nil => simp [IsWritable, tokens, Token.IsWritable]
  | cons item items =>
      obtain ⟨first, rest⟩ := List.forall_mem_cons.mp writable
      rw [IsWritable, tokens, List.cons_append]
      exact List.forall_mem_cons.mpr ⟨trivial, List.forall_mem_append.mpr
        ⟨first, itemTokens_isWritable rest⟩⟩

theorem memberTokens_isWritable {members : List (Key × Json)}
    (writable : ∀ m ∈ members, (∃ cs : List Char, m.1 = cs.map some) ∧ m.2.IsWritable) :
    ∀ t ∈ memberTokens members, t.IsWritable := by
  induction members with
  | nil => simp [memberTokens, Token.IsWritable]
  | cons m members ih =>
      obtain ⟨⟨key, value⟩, rest⟩ := List.forall_mem_cons.mp writable
      rw [memberTokens]
      simp only [List.cons_append]
      exact List.forall_mem_cons.mpr ⟨trivial, List.forall_mem_cons.mpr ⟨key,
        List.forall_mem_cons.mpr ⟨trivial, List.forall_mem_append.mpr ⟨value, ih rest⟩⟩⟩⟩

theorem object_isWritable {members : List (Key × Json)}
    (writable : ∀ m ∈ members, (∃ cs : List Char, m.1 = cs.map some) ∧ m.2.IsWritable) :
    (object members).IsWritable := by
  cases members with
  | nil => simp [IsWritable, tokens, Token.IsWritable]
  | cons m members =>
      obtain ⟨⟨key, value⟩, rest⟩ := List.forall_mem_cons.mp writable
      rw [IsWritable, tokens]
      simp only [List.cons_append]
      exact List.forall_mem_cons.mpr ⟨trivial, List.forall_mem_cons.mpr ⟨key,
        List.forall_mem_cons.mpr ⟨trivial, List.forall_mem_append.mpr
          ⟨value, memberTokens_isWritable rest⟩⟩⟩⟩

theorem ofFields_isWritable {fields : List (String × Json)}
    (writable : ∀ field ∈ fields, field.2.IsWritable) : (ofFields fields).IsWritable :=
  object_isWritable (List.forall_mem_map.mpr fun field mem => ⟨⟨_, rfl⟩, writable field mem⟩)

end OwnerCache.Json
