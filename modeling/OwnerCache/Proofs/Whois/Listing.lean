/-
# OwnerCache.Proofs.Whois.Listing -- a list of networks reads back

Texts that denote blocks have no commas and no blanks, so a list of them falls apart
into the same texts (`pieces_intercalate`).  What is found for an address in such a list
is the first block that holds it; an address that none of them holds is `absent`, and
that is said of the block where there is only one, and of the list otherwise
(`ofNet_listing`).
-/
import OwnerCache.Proofs.Whois.Block

namespace OwnerCache.Whois.Finding

set_option autoImplicit false

/-! ## Outcomes by their blocks -/

theorem exists_of_map_block {result : Except Error Finding} {b : Block}
    (same : result.map Finding.block = .ok b) : ∃ f, result = .ok f ∧ f.block = b := by
  cases result with
  | error e => cases same
  | ok f => exact ⟨f, rfl, Except.ok.inj same⟩

theorem eq_error_of_map_block {result : Except Error Finding} {e : Error}
    (same : result.map Finding.block = .error e) : result = .error e := by
  cases result with
  | error e' => exact congrArg Except.error (Except.error.inj same)
  | ok f => cases same

/-! ## Texts in a list -/

/-- The trimmed pieces of a text between commas. -/
def pieces (cs : List Char) : List (List Char) := (cs.splitOn ',').map Blank.trim

section Solid

variable {cs : List Char} {b : Block}

theorem Denotes.nonempty (denotes : Denotes cs b) : cs ≠ [] := by
  obtain ⟨n, spelled, -, -⟩ := denotes
  cases spelled with
  | pair address length => simp
  | bare a => simp [Address.write, Address.octets]

theorem Denotes.solid (denotes : Denotes cs b) : ∀ c ∈ cs, c ≠ ',' ∧ Blank.isBlank c = false := by
  obtain ⟨n, spelled, -, -⟩ := denotes
  intro c mem
  rcases spelled.chars c mem with digit | rfl | rfl
  · obtain ⟨low, high⟩ := Char.isDigit_iff_toNat.mp digit
    rw [show '0'.toNat = 48 from rfl] at low
    rw [show '9'.toNat = 57 from rfl] at high
    refine ⟨?_, ?_⟩
    · rintro rfl
      cases digit
    · simp [Blank.isBlank]
      omega
  · decide
  · decide

theorem Denotes.trim_eq (denotes : Denotes cs b) : Blank.trim cs = cs :=
  (Blank.IsTrimmed.of_forall fun c mem => (denotes.solid c mem).2).trim_eq

theorem Denotes.readBlock_eq (denotes : Denotes cs b) : readBlock cs = .ok b :=
  readBlock_eq_ok.mpr (denotes.trim_eq.symm ▸ denotes)

end Solid

/-- A comma with a space is a comma, with the space in front of each later text. -/
theorem intercalate_spaced (text : List Char) (rest : List (List Char)) :
    [',', ' '].intercalate (text :: rest) = [','].intercalate (text :: rest.map (' ' :: ·)) := by
  induction rest generalizing text with
  | nil => rfl
  | cons next rest ih =>
      have later := ih next
      rw [List.intercalate_cons_cons, later]
      cases rest with
      | nil => simp
      | cons last rest => simp [List.intercalate_cons_cons]

section Listed

variable {texts : List (List Char)} {blocks : List Block}

theorem pieces_intercalate (denote : List.Forall₂ Denotes texts blocks) (nonempty : texts ≠ []) :
    pieces ([',', ' '].intercalate texts) = texts := by
  have trimmed : ∀ text ∈ texts, Blank.trim text = text := fun text mem => by
    obtain ⟨b, -, denotes⟩ := exists_of_forall₂ denote mem
    exact denotes.trim_eq
  have unbroken : ∀ text ∈ texts, ',' ∉ text := fun text mem comma => by
    obtain ⟨b, -, denotes⟩ := exists_of_forall₂ denote mem
    exact (denotes.solid ',' comma).1 rfl
  cases texts with
  | nil => exact absurd rfl nonempty
  | cons text rest =>
      have apart : ∀ piece ∈ text :: rest.map (' ' :: ·), ',' ∉ piece := by
        rw [List.forall_mem_cons] at unbroken ⊢
        simpa using unbroken
      rw [pieces, intercalate_spaced, List.splitOn_intercalate ',' apart (by simp)]
      rw [List.forall_mem_cons] at trimmed
      have spaced : ∀ later ∈ rest, Blank.trim (' ' :: later) = later := fun later mem => by
        rw [Blank.trim_cons_of_blank (by decide), trimmed.2 later mem]
      have kept : rest.map (Blank.trim ∘ (' ' :: ·)) = rest :=
        (List.map_congr_left (g := id) spaced).trans (List.map_id rest)
      rw [List.map_cons, trimmed.1, List.map_map, kept]

theorem items_intercalate (denote : List.Forall₂ Denotes texts blocks) (nonempty : texts ≠ []) :
    items ([',', ' '].intercalate texts) = texts := by
  have whole := pieces_intercalate denote nonempty
  rw [pieces] at whole
  rw [items, whole, List.filter_eq_self]
  intro text mem
  obtain ⟨b, -, denotes⟩ := exists_of_forall₂ denote mem
  simpa using denotes.nonempty

/-- Of texts that denote blocks the first block that holds the address is found. -/
theorem firstHolding_eq (denote : List.Forall₂ Denotes texts blocks) (a : Address) :
    firstHolding a texts = .ok (blocks.find? (a ∈ ·)) := by
  induction denote with
  | nil => rfl
  | @cons text b texts blocks denotes _ ih =>
      rw [firstHolding, denotes.readBlock_eq, ih, List.find?_cons]
      change (if a ∈ b then _ else _) = _
      by_cases holds : a ∈ b
      · simp only [holds, ↓reduceIte, decide_true]
        rfl
      · simp only [holds, ↓reduceIte, decide_false]

/-- What is said of an address that none of the blocks in a text holds. -/
def absent (a : Address) (text : String) : List Block → Error
  | [b] => .addressOutOfRange a b
  | _ => .noContainingCidr text a

theorem selectBlock_intercalate (denote : List.Forall₂ Denotes texts blocks)
    (several : 1 < texts.length) (a : Address) :
    selectBlock a ([',', ' '].intercalate texts) =
      match blocks.find? (a ∈ ·) with
      | some b => .ok b
      | none => .error (.noContainingCidr (String.ofList ([',', ' '].intercalate texts)) a) := by
  have comma : ',' ∈ [',', ' '].intercalate texts := by
    match texts, several with
    | first :: second :: rest, _ => simp [List.intercalate_cons_cons]
  have nonempty : texts ≠ [] := List.ne_nil_of_length_pos (Nat.lt_of_succ_lt several)
  rw [selectBlock, if_pos comma, items_intercalate denote nonempty, firstHolding_eq denote]
  cases blocks.find? (a ∈ ·) with
  | none => rfl
  | some b => rfl

theorem ofNet_of_single {net : Net} {text : String} (said : net.cidr = some text) {b : Block}
    (denotes : Denotes text.toList b) (a : Address) :
    (ofNet a net).map Finding.block = checkBlock a b := by
  have single : ',' ∉ text.toList := fun comma => (denotes.solid ',' comma).1 rfl
  simp only [ofNet, said]
  rw [selectBlock, if_neg single, denotes.readBlock_eq]
  change Except.map _ (checkBlock a b >>= _) = _
  cases checkBlock a b with
  | error e => rfl
  | ok block => rfl

theorem ofNet_of_several {net : Net} {list : String} (said : net.cidr = some list)
    (joined : list.toList = [',', ' '].intercalate texts)
    (denote : List.Forall₂ Denotes texts blocks) (several : 1 < texts.length) (a : Address) :
    (ofNet a net).map Finding.block =
      match blocks.find? (a ∈ ·) with
      | some b => .ok b
      | none => .error (.noContainingCidr list a) := by
  simp only [ofNet, said]
  rw [joined, selectBlock_intercalate denote several, ← joined, String.ofList_toList]
  cases first : blocks.find? (a ∈ ·) with
  | none => rfl
  | some b =>
      have holds : a ∈ b := by simpa using List.find?_some first
      obtain ⟨text, -, denotes⟩ := exists_of_forall₂ denote.flip (List.mem_of_find?_eq_some first)
      change Except.map _ (checkBlock a b >>= _) = _
      rw [checkBlock_eq denotes, if_pos holds]
      rfl

/-- **A list is read back.**  From a list of texts that denote blocks the first block is found
that holds the address, and where none does the address is absent. -/
theorem ofNet_listing {net : Net} {list : String} (said : net.cidr = some list)
    (joined : list.toList = [',', ' '].intercalate texts)
    (denote : List.Forall₂ Denotes texts blocks) (nonempty : texts ≠ []) (a : Address) :
    (ofNet a net).map Finding.block =
      match blocks.find? (a ∈ ·) with
      | some b => .ok b
      | none => .error (absent a list blocks) := by
  cases denote with
  | nil => exact absurd rfl nonempty
  | @cons text b texts blocks denotes later =>
      cases later with
      | nil =>
          rw [List.intercalate_singleton] at joined
          rw [ofNet_of_single said (joined ▸ denotes), checkBlock_eq denotes, List.find?_singleton]
          by_cases holds : a ∈ b
          · simp [holds]
          · simp [holds, absent]
      | cons next later =>
          exact ofNet_of_several said joined (.cons denotes (.cons next later)) (by simp) a

end Listed

end OwnerCache.Whois.Finding
