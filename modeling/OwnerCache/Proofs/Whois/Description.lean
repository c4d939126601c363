/-
# OwnerCache.Proofs.Whois.Description -- the name that a description gives

A description is read line by line, and the first line that is not blank gives the name.  So a
line break parts a description in two, of which the first one that gives a name at all decides
(`name?_append`), and lines that are joined are read as they would be one by one
(`format?_intercalate`).

Another way to read it takes away the blanks and the line breaks at both ends first, and then
takes one line.  Neither of the two kinds of characters contains the other, but what is in front
of the first character of neither kind never matters (`name?_dropWhile`), and from that character
on the rest of its line is the name (`name?_of_solid`).  So both ways come to the same
(`format?_eq_reading`).
-/
import Mathlib.Data.List.DropRight
import OwnerCache.Proofs.Text.Trim
import OwnerCache.Proofs.Whois.Finding

namespace OwnerCache.Whois

set_option autoImplicit false

namespace Description

theorem isLineBreak_eq (c : Char) : isLineBreak c = decide (c ∈ lineBreaks) := by
  rw [Bool.eq_iff_iff, decide_eq_true_iff]
  simp [isLineBreak, lineBreaks, ← Char.toNat_inj]
  omega

/-! ## Lines apart -/

theorem lines_append {sep : Char} (breaks : isLineBreak sep = true) (cs ds : List Char) :
    lines (cs ++ sep :: ds) = lines cs ++ lines ds := by
  rw [lines, List.splitOnP_append_cons cs ds breaks, List.map_append]
  rfl

/-- A line break parts a description; the part that gives a name first decides. -/
theorem name?_append {sep : Char} (breaks : isLineBreak sep = true) (cs ds : List Char) :
    name? (cs ++ sep :: ds) = (name? cs).or (name? ds) := by
  rw [name?, lines_append breaks, List.find?_append, Option.map_or]
  rfl

theorem name?_intercalate (ls : List (List Char)) :
    name? (['\n'].intercalate ls) = ls.findSome? name? := by
  induction ls with
  | nil => rfl
  | cons line ls ih =>
      cases ls with
      | nil => cases found : name? line <;> simp [found]
      | cons next ls =>
          rw [List.intercalate_cons_cons, List.append_assoc, List.singleton_append,
            name?_append rfl, ih]
          cases found : name? line <;> simp [List.findSome?_cons, found]

/-- Descriptions on lines of their own are read one by one. -/
theorem format?_intercalate (ls : List String) :
    format? ("\n".intercalate ls) = ls.findSome? format? := by
  rw [format?, String.toList_intercalate]
  change (name? (['\n'].intercalate _)).map _ = _
  rw [name?_intercalate, List.findSome?_map, List.map_findSome?]
  rfl

/-! ## The ends -/

/-- A character that is taken away at the ends. -/
def isEdge (c : Char) : Bool := Blank.isBlank c || c ∈ lineBreaks

theorem isEdge_eq (c : Char) : isEdge c = (Blank.isBlank c || isLineBreak c) := by
  rw [isEdge, isLineBreak_eq]

theorem lines_cons_of_blank {c : Char} (blank : Blank.isBlank c = true) (inner : isLineBreak c = false)
    (cs : List Char) : lines (c :: cs) = lines cs := by
  have parted := List.splitOnP_ne_nil isLineBreak cs
  rw [lines, List.splitOnP_cons_eq_if_modifyHead, if_neg (by simp [inner]), lines]
  cases pieces : cs.splitOnP isLineBreak with
  | nil => exact absurd pieces parted
  | cons first rest =>
      rw [List.modifyHead_cons, List.map_cons, List.map_cons, Blank.trim_cons_of_blank blank]

theorem name?_cons_of_isEdge {c : Char} (edge : isEdge c = true) (cs : List Char) :
    name? (c :: cs) = name? cs := by
  by_cases breaks : isLineBreak c = true
  · exact name?_append breaks [] cs
  · rw [Bool.not_eq_true] at breaks
    have blank : Blank.isBlank c = true := by simpa [isEdge_eq, breaks] using edge
    rw [name?, lines_cons_of_blank blank breaks, name?]

theorem name?_dropWhile (cs : List Char) : name? (cs.dropWhile isEdge) = name? cs := by
  induction cs with
  | nil => rfl
  | cons c cs ih =>
      by_cases edge : isEdge c = true
      · rw [List.dropWhile_cons_of_pos edge, ih, name?_cons_of_isEdge edge]
      · rw [List.dropWhile_cons_of_neg edge]

/-- The rest of the line. -/
def firstLine (cs : List Char) : List Char := cs.takeWhile (· ∉ lineBreaks)

theorem exists_splitOnP_eq (cs : List Char) :
    ∃ rest, cs.splitOnP isLineBreak = firstLine cs :: rest := by
  induction cs with
  | nil => exact ⟨[], rfl⟩
  | cons c cs ih =>
      rw [List.splitOnP_cons_eq_if_modifyHead, isLineBreak_eq]
      by_cases breaks : c ∈ lineBreaks
      · refine ⟨cs.splitOnP isLineBreak, ?_⟩
        rw [if_pos (by simpa using breaks), firstLine,
          List.takeWhile_cons_of_neg (by simpa using breaks)]
      · obtain ⟨rest, pieces⟩ := ih
        refine ⟨rest, ?_⟩
        rw [if_neg (by simpa using breaks), pieces, List.modifyHead_cons, firstLine, firstLine,
          List.takeWhile_cons_of_pos (by simpa using breaks)]

/-- From the first character on that is neither a blank nor a line break the rest of the line is the
name. -/
theorem name?_of_solid {c : Char} (solid : isEdge c = false) (cs : List Char) :
    name? (c :: cs) = some ((Blank.trimEnd (firstLine (c :: cs))).take maxLength) := by
  rw [isEdge, Bool.or_eq_false_iff, decide_eq_false_iff_not] at solid
  obtain ⟨sharp, inner⟩ := solid
  obtain ⟨rest, pieces⟩ := exists_splitOnP_eq (c :: cs)
  have line : firstLine (c :: cs) = c :: firstLine cs :=
    List.takeWhile_cons_of_pos (by simpa using inner)
  have trimmed : Blank.trim (firstLine (c :: cs)) = Blank.trimEnd (firstLine (c :: cs)) := by
    rw [Blank.trim, Blank.trimStart_eq]
    simpa [line] using sharp
  have kept : Blank.trimEnd (firstLine (c :: cs)) ≠ [] := by
    obtain ⟨after, whole, blank⟩ := Blank.exists_trimEnd_append (firstLine (c :: cs))
    intro empty
    rw [empty, line, List.nil_append] at whole
    have := blank c (whole ▸ List.mem_cons_self)
    rw [sharp] at this
    cases this
  rw [name?, lines, pieces, List.map_cons, trimmed, List.find?_cons_of_pos (by simpa using kept)]
  rfl

/-! ## The description as a whole -/

/-- A description without the blanks and line breaks at its ends. -/
def body (cs : List Char) : List Char := (cs.dropWhile isEdge).rdropWhile isEdge

theorem body_eq_nil_iff {cs : List Char} : body cs = [] ↔ ∀ c ∈ cs, isEdge c = true := by
  rw [body, List.rdropWhile_eq_nil_iff]
  constructor
  · intro rest c mem
    rw [← List.takeWhile_append_dropWhile (p := isEdge) (l := cs)] at mem
    rcases List.mem_append.mp mem with mem | mem
    · exact List.mem_takeWhile_imp mem
    · exact rest c mem
  · intro all c mem
    exact all c ((List.dropWhile_suffix _).subset mem)

/-- What is taken away at the end is blank as far as it is on the first line. -/
theorem trimEnd_firstLine_append (cs : List Char) {after : List Char}
    (edge : ∀ c ∈ after, isEdge c = true) :
    Blank.trimEnd (firstLine (cs ++ after)) = Blank.trimEnd (firstLine cs) := by
  rw [firstLine, firstLine, List.takeWhile_append]
  split
  · rename_i unbroken
    rw [(List.takeWhile_prefix _).eq_of_length unbroken]
    refine Blank.trimEnd_append_of_blank cs fun c mem => ?_
    have inner : c ∉ lineBreaks := by simpa using List.mem_takeWhile_imp mem
    have here := edge c ((List.takeWhile_prefix _).subset mem)
    simpa [isEdge, inner] using here
  · rfl

/-- Either way of reading a description gives the same name. -/
theorem name?_eq_reading (cs : List Char) :
    name? cs = if body cs = [] then none
      else some ((Blank.trimEnd (firstLine (body cs))).take maxLength) := by
  cases kept : body cs with
  | nil =>
      have edges : cs.dropWhile isEdge = [] := List.dropWhile_eq_nil_iff.mpr (body_eq_nil_iff.mp kept)
      rw [if_pos rfl, ← name?_dropWhile, edges]
      rfl
  | cons c rest =>
      have whole : cs.dropWhile isEdge = (c :: rest) ++ (cs.dropWhile isEdge).rtakeWhile isEdge := by
        rw [← kept, body, List.rdropWhile_append_rtakeWhile]
      have solid : isEdge c = false := by
        have head := List.head?_dropWhile_not isEdge cs
        rw [whole] at head
        exact head
      rw [if_neg (List.cons_ne_nil c rest), ← name?_dropWhile, whole, List.cons_append,
        name?_of_solid solid, ← List.cons_append,
        trimEnd_firstLine_append _ fun _ => List.mem_rtakeWhile_imp]

theorem format?_eq_none_iff {raw : String} :
    format? raw = none ↔ ∀ c ∈ raw.toList, Blank.isBlank c = true ∨ c ∈ lineBreaks := by
  have edges : body raw.toList = [] ↔ ∀ c ∈ raw.toList, Blank.isBlank c = true ∨ c ∈ lineBreaks := by
    simp [body_eq_nil_iff, isEdge]
  rw [← edges, format?, name?_eq_reading]
  by_cases kept : body raw.toList = [] <;> simp [kept]

/-- **A description is read as a whole**: without the blanks and line breaks at its ends it has a first
line, and that one without the blanks at its end gives the name, as far as 255 characters go.  There is
no name exactly if there are only blanks and line breaks. -/
theorem format?_eq_reading (raw : String) :
    (format? raw = if body raw.toList = [] then none
      else some (String.ofList (((firstLine (body raw.toList)).rdropWhile Blank.isBlank).take 255))) ∧
    (format? raw = none ↔ ∀ c ∈ raw.toList, Blank.isBlank c = true ∨ c ∈ lineBreaks) := by
  refine ⟨?_, format?_eq_none_iff⟩
  rw [format?, name?_eq_reading]
  by_cases kept : body raw.toList = []
  · rw [if_pos kept, if_pos kept]
    rfl
  · rw [if_neg kept, if_neg kept]
    rfl

end Description

/-! ## Findings -/

/-- A finding has the name that the description of the first network gives. -/
theorem Finding.description_of_ofRecord {a : Address} {net : Net} {rest : List Net} {f : Finding}
    (found : ofRecord a ⟨net :: rest⟩ = .ok f) :
    f.description = net.description.bind Description.format? := by
  change ofNet a net = .ok f at found
  cases text : net.cidr with
  | none => simp [ofNet, text] at found
  | some cidr =>
      simp only [ofNet, text] at found
      obtain ⟨block, -, next⟩ := bind_eq_ok.mp found
      obtain ⟨block', -, made⟩ := bind_eq_ok.mp next
      rw [← Except.ok.inj made]

end OwnerCache.Whois
