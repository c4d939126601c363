/-
# OwnerCache.Proofs.Whois.Name -- how far names are a normal form

A name is the line that is kept of a description, without the blanks at its ends and then cut to
255 characters.  Read as a description again, a name is trimmed once more (`IsName.name?_eq`), so
names stay as they are, but for one case: of a longer line the cut may leave a blank at the end
(`CutAtBlank`), which the next reading takes away.

`AlmostNormal` has this for any name that a description gives, in both directions.  The case does
occur (`format?_cut`), so names that differ in blanks at their ends are the same only where none
has been cut so; lines that do are the same name wherever the cut falls (`KeepAlike`).
-/
import OwnerCache.Proofs.Whois.Description

namespace OwnerCache.Whois

set_option autoImplicit false

namespace Description

/-! ## The line that is kept -/

/-- The line that is kept, as it stands in the text. -/
def kept? (cs : List Char) : Option (List Char) :=
  (cs.splitOnP isLineBreak).find? (Blank.trim · ≠ [])

theorem name?_eq_kept (cs : List Char) :
    name? cs = (kept? cs).map fun line => (Blank.trim line).take maxLength := by
  rw [name?, lines, List.find?_map, Option.map_map]
  rfl

/-- The line that is kept is too long, and the last character that is left of it is a blank. -/
def CutAtBlank (cs : List Char) : Prop :=
  ∃ line, kept? cs = some line ∧ 255 < (Blank.trim line).length ∧
    ∃ c, (Blank.trim line)[254]? = some c ∧ Blank.isBlank c = true

theorem cutAtBlank_iff {cs line : List Char} (kept : kept? cs = some line) :
    CutAtBlank cs ↔ 255 < (Blank.trim line).length ∧
      ∃ c, (Blank.trim line)[254]? = some c ∧ Blank.isBlank c = true := by
  simp [CutAtBlank, kept]

/-- Names end in a blank only where they are cut at one. -/
theorem last_blank_iff {cs name : List Char} (named : name? cs = some name) :
    (∃ c ∈ name.getLast?, Blank.isBlank c = true) ↔ CutAtBlank cs := by
  rw [name?_eq_kept] at named
  obtain ⟨line, kept, rfl⟩ := Option.map_eq_some_iff.mp named
  rw [cutAtBlank_iff kept]
  rcases Nat.lt_or_ge 255 (Blank.trim line).length with long | short
  · have last : ((Blank.trim line).take maxLength).getLast? = (Blank.trim line)[254]? := by
      rw [List.getLast?_take, if_neg (by decide), maxLength,
        List.getElem?_eq_getElem (Nat.lt_of_succ_lt long), Option.some_or]
    rw [last]
    exact ⟨fun blank => ⟨long, blank⟩, And.right⟩
  · have whole : (Blank.trim line).take maxLength = Blank.trim line := List.take_of_length_le short
    rw [whole]
    constructor
    · rintro ⟨c, here, blank⟩
      rw [(Blank.trim_isTrimmed line).last c here] at blank
      cases blank
    · rintro ⟨long, -⟩
      exact absurd long (Nat.not_lt.mpr short)

/-! ## Names read again -/

/-- A name that is read as a description loses the blanks at its end, and nothing else. -/
theorem IsName.name?_eq {name : List Char} (h : IsName name) :
    name? name = some (Blank.trimEnd name) := by
  have whole : firstLine name = name :=
    List.takeWhile_eq_self_iff.mpr fun c mem => by simpa using h.oneLine c mem
  obtain ⟨after, parts, -⟩ := Blank.exists_trimEnd_append name
  have short : (Blank.trimEnd name).length ≤ maxLength := by
    have := congrArg List.length parts
    rw [List.length_append] at this
    exact Nat.le_trans (Nat.le.intro this.symm) h.length_le
  cases name with
  | nil => exact absurd rfl h.nonempty
  | cons c cs =>
      have solid : isEdge c = false := by
        rw [isEdge, Bool.or_eq_false_iff, decide_eq_false_iff_not]
        exact ⟨h.head c rfl, h.oneLine c List.mem_cons_self⟩
      rw [name?_of_solid solid, whole, List.take_of_length_le short]

/-- What a name is to the description that gives it. -/
structure AlmostNormal (raw name : String) : Prop where
  /-- It does not start with a blank. -/
  head : ∀ c ∈ name.toList.head?, Blank.isBlank c = false
  /-- It ends in one only where it has been cut at one. -/
  last : (∃ c ∈ name.toList.getLast?, Blank.isBlank c = true) ↔ CutAtBlank raw.toList
  /-- Read again it loses the blanks at its end. -/
  again : format? name = some (String.ofList (Blank.trimEnd name.toList))
  /-- It stays as it is unless it has been cut at one. -/
  fixed : format? name = some name ↔ ¬ CutAtBlank raw.toList

theorem almostNormal {raw name : String} (named : format? raw = some name) :
    AlmostNormal raw name := by
  obtain ⟨cs, kept, rfl⟩ := Option.map_eq_some_iff.mp named
  have again : format? (String.ofList cs) = some (String.ofList (Blank.trimEnd cs)) := by
    rw [format?, String.toList_ofList, (isName_of_name? kept).name?_eq]
    rfl
  refine ⟨?_, ?_, ?_, ?_⟩
  · rw [String.toList_ofList]
    exact (isName_of_name? kept).head
  · rw [String.toList_ofList]
    exact last_blank_iff kept
  · rw [String.toList_ofList]
    exact again
  · rw [again, ← last_blank_iff kept, Option.some_inj, String.ofList_inj, Blank.trimEnd_eq_iff]
    simp

/-- The cut may leave a blank at the end of a name, and then the name read again is another one. -/
theorem format?_cut :
    let letters := List.replicate 254 'a'
    let raw := String.ofList (letters ++ [' ', 'b'])
    let name := String.ofList (letters ++ [' '])
    format? raw = some name ∧ ¬ Blank.IsTrimmed name.toList ∧
      format? name = some (String.ofList letters) ∧ format? name ≠ some name := by
  intro letters raw name
  have named : name? raw.toList = some (letters ++ [' ']) := by
    rw [String.toList_ofList]
    decide +kernel
  have again : name? name.toList = some letters := by
    rw [String.toList_ofList]
    decide +kernel
  have shorter : letters ≠ letters ++ [' '] := by simp
  refine ⟨by rw [format?, named]; rfl, fun trimmed => ?_, by rw [format?, again]; rfl, ?_⟩
  · have sharp := trimmed.last ' ' (by rw [String.toList_ofList, List.getLast?_concat]; rfl)
    cases sharp
  · rw [format?, again]
    exact fun same => shorter (String.ofList_inj.mp (Option.some.inj same))

/-! ## Descriptions that keep the same -/

/-- What is kept of two descriptions differs in blanks at the ends at most. -/
inductive KeepAlike (cs cs' : List Char) : Prop
  /-- The lines do, wherever they are cut. -/
  | lines {line line' : List Char} (kept : kept? cs = some line) (kept' : kept? cs' = some line')
      (same : Blank.trim line = Blank.trim line')
  /-- The names do, and neither has been cut at a blank. -/
  | names {name name' : List Char} (named : name? cs = some name) (named' : name? cs' = some name')
      (same : Blank.trim name = Blank.trim name') (uncut : ¬ CutAtBlank cs) (uncut' : ¬ CutAtBlank cs')

theorem isTrimmed_of_name? {cs name : List Char} (named : name? cs = some name)
    (uncut : ¬ CutAtBlank cs) : Blank.IsTrimmed name where
  head := (isName_of_name? named).head
  last c mem := by
    rw [← last_blank_iff named] at uncut
    exact Bool.eq_false_iff.mpr fun blank => uncut ⟨c, mem, blank⟩

/-- Such descriptions give the same name. -/
theorem KeepAlike.exists_name {cs cs' : List Char} (alike : KeepAlike cs cs') :
    ∃ name, name? cs = some name ∧ name? cs' = some name := by
  cases alike with
  | @lines line line' kept kept' same =>
      exact ⟨(Blank.trim line).take maxLength, by rw [name?_eq_kept, kept]; rfl,
        by rw [name?_eq_kept, kept', same]; rfl⟩
  | @names name name' named named' same uncut uncut' =>
      rw [(isTrimmed_of_name? named uncut).trim_eq, (isTrimmed_of_name? named' uncut').trim_eq] at same
      exact ⟨name, named, same ▸ named'⟩

theorem KeepAlike.exists_format {raw raw' : String} (alike : KeepAlike raw.toList raw'.toList) :
    ∃ name, format? raw = some name ∧ format? raw' = some name := by
  obtain ⟨name, named, named'⟩ := alike.exists_name
  exact ⟨String.ofList name, by rw [format?, named]; rfl, by rw [format?, named']; rfl⟩

end Description

/-! ## Findings -/

/-- What has been found in a record with a description. -/
def Finding.IsDescribed (f : Finding) (raw : String) : Prop :=
  ∃ a net rest, ofRecord a ⟨net :: rest⟩ = .ok f ∧ net.description = some raw

theorem Finding.IsDescribed.description {f : Finding} {raw : String} (described : f.IsDescribed raw) :
    f.description = Description.format? raw := by
  obtain ⟨a, net, rest, found, text⟩ := described
  rw [description_of_ofRecord found, text, Option.bind_some]

end OwnerCache.Whois
