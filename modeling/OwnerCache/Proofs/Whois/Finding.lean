/-
# OwnerCache.Proofs.Whois.Finding -- what a finding can be, and why there is none

Records are free text, but little of it gets through.  A finding for an address has

* the block of an aligned network that holds the address, denoted by one piece of the
  network text of the first network;
* no name, or one that `IsName`: not empty, at most 255 characters, on one line, and
  not starting with a blank;
* no country, or a code of two small letters (`IsCode`).

Where there is none the record is to blame in one of five ways (`Fault`).  A block that
ends before it begins is not among them: networks never do.  An address outside of the
block is the fault of a single network only, and a list that does not hold the address
that of a text with a comma, so the two never stand for each other.

`ofRecord_isSound` has both.
-/
import Mathlib
import OwnerCache.Proofs.Whois.Block

namespace OwnerCache.Whois

set_option autoImplicit false

/-! ## Names -/

namespace Description

/-- The ten characters that end a line. -/
def lineBreaks : List Char :=
  ['\n', '\x0B', '\x0C', '\r', '\x1C', '\x1D', '\x1E', '\u0085', '\u2028', '\u2029']

theorem isLineBreak_of_mem : ∀ c ∈ lineBreaks, isLineBreak c = true := by
  simp [lineBreaks, isLineBreak]

/-- A name that is kept: one line of at most 255 characters that does not start with a blank. -/
structure IsName (cs : List Char) : Prop where
  nonempty : cs ≠ []
  length_le : cs.length ≤ 255
  oneLine : ∀ c ∈ cs, c ∉ lineBreaks
  head : ∀ c ∈ cs.head?, Blank.isBlank c = false

/-- What is between two separators has none in it. -/
theorem not_of_mem_splitOnP {p : Char → Bool} {cs piece : List Char}
    (mem : piece ∈ cs.splitOnP p) : ∀ c ∈ piece, p c = false := by
  induction cs generalizing piece with
  | nil =>
      obtain rfl : piece = [] := by simpa using mem
      simp
  | cons c cs ih =>
      rw [List.splitOnP_cons_eq_if_modifyHead] at mem
      by_cases separates : p c = true
      · rw [if_pos separates] at mem
        rcases List.mem_cons.mp mem with rfl | mem
        · simp
        · exact ih mem
      · rw [if_neg separates] at mem
        cases pieces : cs.splitOnP p with
        | nil => simp [pieces] at mem
        | cons first rest =>
            rw [pieces, List.modifyHead_cons] at mem
            rw [pieces] at ih
            rcases List.mem_cons.mp mem with rfl | mem
            · intro d here
              rcases List.mem_cons.mp here with rfl | here
              · simpa using separates
              · exact ih List.mem_cons_self d here
            · exact ih (List.mem_cons_of_mem _ mem)

theorem isName_of_name? {cs name : List Char} (h : name? cs = some name) : IsName name := by
  obtain ⟨line, found, rfl⟩ := Option.map_eq_some_iff.mp h
  have nonempty : line ≠ [] := by simpa using List.find?_some found
  obtain ⟨raw, between, rfl⟩ := List.mem_map.mp (List.mem_of_find?_eq_some found)
  refine ⟨?_, List.length_take_le _ _, fun c mem breaks => ?_, fun c mem => ?_⟩
  · simpa [maxLength] using nonempty
  · have here : c ∈ raw := Blank.mem_of_mem_trim (List.mem_of_mem_take mem)
    have plain := not_of_mem_splitOnP between c here
    rw [isLineBreak_of_mem c breaks] at plain
    cases plain
  · rw [List.head?_take, if_neg (by decide)] at mem
    exact (Blank.trim_isTrimmed raw).head c mem

end Description

/-! ## Countries -/

namespace Country

/-- Two small letters. -/
def IsCode (cs : List Char) : Prop :=
  ∃ x y : Char, cs = [x, y] ∧ x.isLower = true ∧ y.isLower = true

theorem isCode_of_code? {cs code : List Char} (h : code? cs = some code) : IsCode code := by
  unfold code? at h
  split at h
  · rename_i a b _
    split at h
    · rename_i letters
      obtain ⟨la, lb⟩ := Bool.and_eq_true_iff.mp letters
      refine ⟨a.toLower, b.toLower, (Option.some.inj h).symm, ?_, ?_⟩
      · rw [Char.isLower_toLower_eq_isAlpha, la]
      · rw [Char.isLower_toLower_eq_isAlpha, lb]
    · cases h
  · cases h

end Country

/-! ## Records -/

namespace Finding

/-- What is found for an address in a network text, with what belongs to it. -/
structure IsFound (a : Address) (cidr : String) (f : Finding) : Prop where
  /-- One piece of the text denotes the block. -/
  denoted : ∃ piece ∈ cidr.toList.splitOn ',', Denotes (Blank.trim piece) f.block
  aligned : f.block.IsAligned
  ordered : f.block.first ≤ f.block.last
  holds : a ∈ f.block
  description : ∀ name, f.description = some name → Description.IsName name.toList
  country : ∀ code, f.country = some code → Country.IsCode code.toList

/-- Why nothing is found for an address in a record. -/
inductive Fault (a : Address) (record : Record) : Error → Prop
  | noNets (empty : record.nets = []) : Fault a record .emptyResult
  | noText (missing : record.cidr? = none) : Fault a record .missingCidr
  | malformed {cidr : String} (text : record.cidr? = some cidr) {piece : List Char}
      (mem : piece ∈ cidr.toList.splitOn ',') (faulty : ∀ b, ¬ Denotes (Blank.trim piece) b) :
      Fault a record (.malformedCidr (String.ofList (Blank.trim piece)))
  | notListed {cidr : String} (text : record.cidr? = some cidr) (list : ',' ∈ cidr.toList)
      (apart : ∀ item ∈ items cidr.toList, ∃ b, Denotes item b ∧ a ∉ b) :
      Fault a record (.noContainingCidr cidr a)
  | outside {cidr : String} (text : record.cidr? = some cidr) (single : ',' ∉ cidr.toList)
      {b : Block} (denotes : Denotes (Blank.trim cidr.toList) b) (out : a ∉ b) :
      Fault a record (.addressOutOfRange a b)

/-- Nothing is selected from a text with a malformed piece, or from a list that does not hold the
address. -/
theorem fault_of_selectBlock {a : Address} {record : Record} {cidr : String}
    (text : record.cidr? = some cidr) {e : Error} (h : selectBlock a cidr.toList = .error e) :
    Fault a record e := by
  unfold selectBlock at h
  split at h
  · rename_i list
    cases first : firstHolding a (items cidr.toList) with
    | error cause =>
        rw [first] at h
        obtain rfl : cause = e := Except.error.inj h
        obtain ⟨item, mem, failed⟩ := firstHolding_eq_error first
        obtain ⟨piece, here, rfl⟩ := mem_items mem
        obtain ⟨rfl, faulty⟩ := readBlock_eq_error failed
        rw [Blank.trim_trim] at faulty ⊢
        exact .malformed text here faulty
    | ok found =>
        rw [first] at h
        cases found with
        | some block => cases h
        | none =>
            obtain rfl : .noContainingCidr (String.ofList cidr.toList) a = e := Except.error.inj h
            rw [String.ofList_toList]
            refine .notListed text list fun item mem => ?_
            obtain ⟨b, read, out⟩ := firstHolding_eq_none.mp first item mem
            obtain ⟨piece, -, rfl⟩ := mem_items mem
            have denotes := readBlock_eq_ok.mp read
            rw [Blank.trim_trim] at denotes
            exact ⟨b, denotes, out⟩
  · rename_i single
    have whole : cidr.toList.splitOn ',' = [cidr.toList] := List.splitOn_eq_singleton single
    obtain ⟨rfl, faulty⟩ := readBlock_eq_error h
    exact .malformed text (by simp [whole]) faulty

/-- A network is a block, so all that can be wrong with it is that it is somewhere else. -/
theorem fault_of_checkBlock {a : Address} {record : Record} {cidr : String}
    (text : record.cidr? = some cidr) {b : Block} (selected : selectBlock a cidr.toList = .ok b)
    {e : Error} (h : checkBlock a b = .error e) : Fault a record e := by
  obtain ⟨⟨piece, mem, denotes⟩, holds⟩ := selectBlock_eq_ok selected
  rw [checkBlock_eq denotes] at h
  have out : a ∉ b := fun mem => by simp [mem] at h
  obtain rfl : .addressOutOfRange a b = e := by simpa [out] using h
  have single : ',' ∉ cidr.toList := fun list => out (holds list)
  rw [List.splitOn_eq_singleton single, List.mem_singleton] at mem
  exact .outside text single (mem ▸ denotes) out

theorem isFound_of_ofNet {a : Address} {net : Net} {cidr : String} (text : net.cidr = some cidr)
    {f : Finding} (h : ofNet a net = .ok f) : IsFound a cidr f := by
  simp only [ofNet, text] at h
  obtain ⟨block, selected, next⟩ := bind_eq_ok.mp h
  obtain ⟨block', checked, made⟩ := bind_eq_ok.mp next
  obtain ⟨rfl, holds⟩ := checkBlock_eq_ok checked
  obtain ⟨⟨piece, mem, denotes⟩, -⟩ := selectBlock_eq_ok selected
  obtain rfl := Except.ok.inj made
  refine ⟨⟨piece, mem, denotes⟩, denotes.isAligned, denotes.isAligned.first_le_last, holds,
    fun name named => ?_, fun code coded => ?_⟩
  · obtain ⟨raw, -, format⟩ := Option.bind_eq_some_iff.mp named
    obtain ⟨cs, kept, rfl⟩ := Option.map_eq_some_iff.mp format
    rw [String.toList_ofList]
    exact Description.isName_of_name? kept
  · obtain ⟨raw, -, normal⟩ := Option.bind_eq_some_iff.mp coded
    obtain ⟨cs, kept, rfl⟩ := Option.map_eq_some_iff.mp normal
    rw [String.toList_ofList]
    exact Country.isCode_of_code? kept

theorem fault_of_ofNet {a : Address} {record : Record} {net : Net} {cidr : String}
    (text : record.cidr? = some cidr) (same : net.cidr = some cidr) {e : Error}
    (h : ofNet a net = .error e) : Fault a record e := by
  simp only [ofNet, same] at h
  cases selected : selectBlock a cidr.toList with
  | error cause =>
      rw [selected] at h
      obtain rfl : cause = e := Except.error.inj h
      exact fault_of_selectBlock text selected
  | ok block =>
      rw [selected] at h
      change (checkBlock a block >>= _) = _ at h
      cases checked : checkBlock a block with
      | error cause =>
          rw [checked] at h
          obtain rfl : cause = e := Except.error.inj h
          exact fault_of_checkBlock text selected checked
      | ok block' =>
          rw [checked] at h
          cases h

theorem Fault.ne_invalidRange {a : Address} {record : Record} {e : Error}
    (fault : Fault a record e) (b : Block) : e ≠ .invalidRange b := by
  cases fault <;> exact nofun

/-- **What is found in a record is what its text says.**  Of any record, either a finding comes
for an address -- the block of a network that a piece of the network text denotes, which holds the
address, with a proper name and a proper country or none -- or the record is at fault, and then
never for a block that ends before it begins. -/
theorem ofRecord_isSound (a : Address) (record : Record) :
    match ofRecord a record with
    | .ok f => ∃ cidr, record.cidr? = some cidr ∧ IsFound a cidr f
    | .error e => Fault a record e ∧ ∀ b, e ≠ .invalidRange b := by
  obtain ⟨nets⟩ := record
  cases nets with
  | nil => exact ⟨.noNets rfl, nofun⟩
  | cons net rest =>
      have whole : ofRecord a ⟨net :: rest⟩ = ofNet a net := rfl
      rw [whole]
      cases text : net.cidr with
      | none =>
          have missing : ofNet a net = .error .missingCidr := by simp [ofNet, text]
          rw [missing]
          exact ⟨.noText text, nofun⟩
      | some cidr =>
          cases result : ofNet a net with
          | ok f => exact ⟨cidr, text, isFound_of_ofNet text result⟩
          | error e =>
              have first : Record.cidr? ⟨net :: rest⟩ = some cidr := text
              have fault : Fault a ⟨net :: rest⟩ e := fault_of_ofNet first text result
              exact ⟨fault, fault.ne_invalidRange⟩

end Finding

end OwnerCache.Whois
