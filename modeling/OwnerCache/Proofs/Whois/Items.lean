/-
# OwnerCache.Proofs.Whois.Items -- which items of a list decide

A network text is one network or, with a comma, a list of them, and the two are read on
different paths.  They come to the same: what stands in a list by itself, with nothing but
commas and blanks around it, is read as it is without them, up to what is said of an address
outside of it (`Alike`).

Of a list the items decide in their order, until one holds the address or is malformed.  All
that is said here of lists follows from two facts: lists with the same items are read alike
(`ofNet_of_list`), and the items up to the first that decides are read as if there were no more
(`firstHolding_append_of_decided`).  Only a list in which no item decides is quoted as a whole,
so there, and nowhere else, the blanks that make no difference can be seen (`quoting`).
-/
import OwnerCache.Proofs.Whois.Listing

namespace OwnerCache.Whois

set_option autoImplicit false

/-- The network with another network text. -/
def Net.withCidr (net : Net) (text : List Char) : Net :=
  { net with cidr := some (String.ofList text) }

namespace Finding

/-! ## Items -/

/-- The pieces between commas, without blanks at their ends, that are not blank. -/
def itemsOf (pieces : List (List Char)) : List (List Char) :=
  (pieces.map Blank.trim).filter (· ≠ [])

theorem items_eq (cs : List Char) : items cs = itemsOf (cs.splitOn ',') := rfl

theorem itemsOf_append (ps qs : List (List Char)) :
    itemsOf (ps ++ qs) = itemsOf ps ++ itemsOf qs := by
  rw [itemsOf, List.map_append, List.filter_append, itemsOf, itemsOf]

theorem itemsOf_cons_of_blank {piece : List Char} (blank : ∀ c ∈ piece, Blank.isBlank c = true)
    (ps : List (List Char)) : itemsOf (piece :: ps) = itemsOf ps := by
  rw [itemsOf, List.map_cons, Blank.trim_eq_nil_iff.mpr blank]
  exact List.filter_cons_of_neg (by simp)

theorem itemsOf_cons_of_solid {piece : List Char} (solid : Blank.trim piece ≠ [])
    (ps : List (List Char)) : itemsOf (piece :: ps) = Blank.trim piece :: itemsOf ps :=
  List.filter_cons_of_pos (by simpa using solid)

theorem items_append (cs ds : List Char) : items (cs ++ ',' :: ds) = items cs ++ items ds := by
  have apart : (cs ++ ',' :: ds).splitOn ',' = cs.splitOn ',' ++ ds.splitOn ',' :=
    List.splitOnP_append_cons cs ds rfl
  rw [items_eq, apart, itemsOf_append, items_eq, items_eq]

/-- A text without commas is its own item. -/
theorem items_of_single {cs : List Char} (single : ',' ∉ cs) (solid : Blank.trim cs ≠ []) :
    items cs = [Blank.trim cs] := by
  rw [items_eq, List.splitOn_eq_singleton single, itemsOf_cons_of_solid solid]
  rfl

theorem items_cons_of_blank {c : Char} (blank : Blank.isBlank c = true) (cs : List Char) :
    items (c :: cs) = items cs := by
  have inner : (c == ',') = false := by
    rw [beq_eq_false_iff_ne]
    rintro rfl
    cases blank
  have parted := List.splitOnP_ne_nil (· == ',') cs
  simp only [items, List.splitOn, List.splitOnP_cons_eq_if_modifyHead, inner]
  cases pieces : cs.splitOnP (· == ',') with
  | nil => exact absurd pieces parted
  | cons first rest =>
      simp only [Bool.false_eq_true, if_false, List.modifyHead_cons, List.map_cons,
        Blank.trim_cons_of_blank blank]

/-- What stands between items, or around them. -/
def IsFilling (cs : List Char) : Prop := ∀ c ∈ cs, c = ',' ∨ Blank.isBlank c = true

theorem items_filling_append {before : List Char} (filling : IsFilling before) (cs : List Char) :
    items (before ++ cs) = items cs := by
  induction before with
  | nil => rfl
  | cons c before ih =>
      obtain ⟨here, later⟩ := List.forall_mem_cons.mp filling
      rw [List.cons_append]
      rcases here with rfl | blank
      · exact (items_append [] _).trans (ih later)
      · rw [items_cons_of_blank blank, ih later]

theorem items_of_filling {cs : List Char} (filling : IsFilling cs) : items cs = [] := by
  rw [← List.append_nil cs, items_filling_append filling]
  rfl

/-- Commas and blanks around a text without commas leave it the only item. -/
theorem items_filled {cs before after : List Char} (single : ',' ∉ cs) (solid : Blank.trim cs ≠ [])
    (filling : IsFilling (before ++ after)) : items (before ++ cs ++ after) = [Blank.trim cs] := by
  obtain ⟨ahead, behind⟩ := List.forall_mem_append.mp filling
  rw [List.append_assoc, items_filling_append ahead]
  by_cases comma : ',' ∈ after
  · obtain ⟨blanks, rest, rfl, none⟩ := List.eq_append_cons_of_mem comma
    obtain ⟨near, far⟩ := List.forall_mem_append.mp behind
    have blank : ∀ c ∈ blanks, Blank.isBlank c = true := fun c mem =>
      (near c mem).resolve_left fun comma => none (comma ▸ mem)
    have padded : Blank.trim (cs ++ blanks) = Blank.trim cs :=
      Blank.trim_append_of_blank (List.forall_mem_nil _) blank cs
    have joined : ',' ∉ cs ++ blanks := fun mem => (List.mem_append.mp mem).elim single none
    rw [← List.append_assoc, items_append, items_of_single joined (padded.symm ▸ solid), padded,
      items_of_filling (List.forall_mem_cons.mp far).2, List.append_nil]
  · have blank : ∀ c ∈ after, Blank.isBlank c = true := fun c mem =>
      (behind c mem).resolve_left fun here => comma (here ▸ mem)
    have padded : Blank.trim (cs ++ after) = Blank.trim cs :=
      Blank.trim_append_of_blank (List.forall_mem_nil _) blank cs
    have joined : ',' ∉ cs ++ after := fun mem => (List.mem_append.mp mem).elim single comma
    rw [items_of_single joined (padded.symm ▸ solid), padded]

/-! ## The items that decide -/

section Deciding

variable {a : Address} {xs ys : List (List Char)}

theorem firstHolding_append_of_none (none : firstHolding a xs = .ok none) :
    firstHolding a (xs ++ ys) = firstHolding a ys := by
  induction xs with
  | nil => rfl
  | cons item xs ih =>
      rw [firstHolding] at none
      obtain ⟨block, read, next⟩ := bind_eq_ok.mp none
      split at next
      · cases next
      · rename_i out
        rw [List.cons_append, firstHolding, read]
        exact (if_neg out).trans (ih next)

/-- The items up to one that decides are read as if there were no more. -/
theorem firstHolding_append_of_decided (decided : firstHolding a xs ≠ .ok none) :
    firstHolding a (xs ++ ys) = firstHolding a xs := by
  induction xs with
  | nil => exact absurd rfl decided
  | cons item xs ih =>
      rw [List.cons_append, firstHolding, firstHolding]
      rw [firstHolding] at decided
      cases read : readBlock item with
      | error e => rfl
      | ok block =>
          rw [read] at decided
          change (if a ∈ block then _ else _) ≠ _ at decided
          change (if a ∈ block then _ else _) = if a ∈ block then _ else _
          by_cases holds : a ∈ block
          · rw [if_pos holds, if_pos holds]
          · rw [if_neg holds] at decided
            rw [if_neg holds, if_neg holds, ih decided]

end Deciding

/-! ## What is found -/

/-- A block, with what else a network says. -/
def ofBlock (net : Net) (b : Block) : Finding where
  description := net.description.bind Description.format?
  country := net.country.bind Country.normalize?
  block := b

/-- What is found in a list, by the first of its items that holds the address. -/
def listed (a : Address) (net : Net) (text : List Char) :
    Except Error (Option Block) → Except Error Finding
  | .ok (some b) => .ok (ofBlock net b)
  | .ok none => .error (.noContainingCidr (String.ofList text) a)
  | .error e => .error e

section Texts

variable {a : Address} {net : Net} {text text' : List Char}

theorem ofNet_withCidr (a : Address) (net : Net) (text : List Char) :
    ofNet a (net.withCidr text) = (selectBlock a text >>= checkBlock a).map (ofBlock net) := by
  simp only [ofNet, Net.withCidr, String.toList_ofList]
  cases selectBlock a text with
  | error e => rfl
  | ok block =>
      change (checkBlock a block >>= _) = (checkBlock a block).map _
      cases checkBlock a block with
      | error e => rfl
      | ok block => rfl

/-- A list is read by its items. -/
theorem ofNet_of_list (list : ',' ∈ text) :
    ofNet a (net.withCidr text) = listed a net text (firstHolding a (items text)) := by
  rw [ofNet_withCidr, selectBlock, if_pos list]
  cases first : firstHolding a (items text) with
  | error e => rfl
  | ok found =>
      cases found with
      | none => rfl
      | some b =>
          obtain ⟨item, -, read, holds⟩ := firstHolding_eq_ok first
          have kept : checkBlock a b = .ok b := by
            rw [checkBlock_eq (readBlock_eq_ok.mp read), if_pos holds]
          change (checkBlock a b).map (ofBlock net) = _
          rw [kept]
          rfl

theorem readBlock_trim (cs : List Char) : readBlock (Blank.trim cs) = readBlock cs := by
  simp only [readBlock, Blank.trim_trim]

theorem ofNet_of_unlisted (single : ',' ∉ text) :
    ofNet a (net.withCidr text) = (readBlock text >>= checkBlock a).map (ofBlock net) := by
  rw [ofNet_withCidr, selectBlock, if_neg single]

/-- So is a single network whose item decides. -/
theorem ofNet_of_decided (decided : firstHolding a (items text) ≠ .ok none) :
    ofNet a (net.withCidr text) = listed a net text (firstHolding a (items text)) := by
  by_cases list : ',' ∈ text
  · exact ofNet_of_list list
  · have solid : Blank.trim text ≠ [] := by
      intro blank
      rw [items_of_filling fun c mem => .inr (Blank.trim_eq_nil_iff.mp blank c mem)] at decided
      exact decided rfl
    rw [items_of_single list solid, firstHolding, readBlock_trim] at decided ⊢
    rw [ofNet_of_unlisted list]
    cases read : readBlock text with
    | error e => rfl
    | ok b =>
        rw [read] at decided
        change (if a ∈ b then _ else _) ≠ _ at decided
        change (checkBlock a b).map _ = listed a net text (if a ∈ b then _ else _)
        rw [checkBlock_eq (readBlock_eq_ok.mp read)]
        by_cases holds : a ∈ b
        · rw [if_pos holds, if_pos holds]
          rfl
        · rw [if_neg holds] at decided
          exact absurd rfl decided

theorem listed_congr {first : Except Error (Option Block)} (decided : first ≠ .ok none) :
    listed a net text' first = listed a net text first := by
  match first, decided with
  | .error e, _ => rfl
  | .ok (some b), _ => rfl
  | .ok none, decided => exact absurd rfl decided

end Texts

/-! ## Lists that are read alike -/

/-- The same is found, or the same text is malformed; or the address is outside of the block, and
therefore not in the list. -/
inductive Alike (a : Address) (list : List Char) :
    Except Error Finding → Except Error Finding → Prop
  | found (f : Finding) : Alike a list (.ok f) (.ok f)
  | malformed (text : String) :
      Alike a list (.error (.malformedCidr text)) (.error (.malformedCidr text))
  | outside (b : Block) :
      Alike a list (.error (.addressOutOfRange a b))
        (.error (.noContainingCidr (String.ofList list) a))

/-- The outcome with another list quoted, where a list is. -/
def quoting (list : List Char) : Except Error Finding → Except Error Finding
  | .error (.noContainingCidr _ a) => .error (.noContainingCidr (String.ofList list) a)
  | result => result

/-- The text with blanks around it. -/
def IsPadded (core text : List Char) : Prop :=
  ∃ before after, text = before ++ core ++ after ∧
    (∀ c ∈ before, Blank.isBlank c = true) ∧ ∀ c ∈ after, Blank.isBlank c = true

theorem IsPadded.trim_eq {core text : List Char} (padded : IsPadded core text) :
    Blank.trim text = Blank.trim core := by
  obtain ⟨before, after, rfl, blank, blank'⟩ := padded
  exact Blank.trim_append_of_blank blank blank' core

/-- Pieces of two lists that differ in blank pieces, and in the blanks around the others. -/
inductive Respaced : List (List Char) → List (List Char) → Prop
  | nil : Respaced [] []
  | removed {piece : List Char} {ps qs : List (List Char)}
      (blank : ∀ c ∈ piece, Blank.isBlank c = true) (rest : Respaced ps qs) :
      Respaced (piece :: ps) qs
  | inserted {piece : List Char} {ps qs : List (List Char)}
      (blank : ∀ c ∈ piece, Blank.isBlank c = true) (rest : Respaced ps qs) :
      Respaced ps (piece :: qs)
  | item {core p q : List Char} {ps qs : List (List Char)} (left : IsPadded core p)
      (right : IsPadded core q) (rest : Respaced ps qs) : Respaced (p :: ps) (q :: qs)

theorem Respaced.itemsOf_eq {ps qs : List (List Char)} (respaced : Respaced ps qs) :
    itemsOf ps = itemsOf qs := by
  induction respaced with
  | nil => rfl
  | removed blank rest ih => rw [itemsOf_cons_of_blank blank, ih]
  | inserted blank rest ih => rw [itemsOf_cons_of_blank blank, ih]
  | @item core p q ps qs left right rest ih =>
      have same : Blank.trim p = Blank.trim q := left.trim_eq.trans right.trim_eq.symm
      rw [← List.singleton_append, itemsOf_append, ih, ← List.singleton_append (x := q),
        itemsOf_append]
      simp only [itemsOf, List.map_cons, List.map_nil, same]

section Reading

variable {a : Address} {net : Net} {text text' : List Char}

/-- What goes wrong with the items of a list is that one of them is malformed. -/
theorem malformed_of_firstHolding {xs : List (List Char)} {e : Error}
    (failed : firstHolding a xs = .error e) : ∃ quoted, e = .malformedCidr quoted := by
  obtain ⟨item, -, read⟩ := firstHolding_eq_error failed
  exact ⟨_, (readBlock_eq_error read).1⟩

theorem alike_of_filled {before after : List Char} (single : ',' ∉ text)
    (solid : Blank.trim text ≠ []) (filling : IsFilling (before ++ after))
    (comma : ',' ∈ before ++ after) :
    Alike a (before ++ text ++ after) (ofNet a (net.withCidr text))
      (ofNet a (net.withCidr (before ++ text ++ after))) := by
  have list : ',' ∈ before ++ text ++ after := by
    rcases List.mem_append.mp comma with here | here
    · exact List.mem_append_left _ (List.mem_append_left _ here)
    · exact List.mem_append_right _ here
  have same : items (before ++ text ++ after) = items text :=
    (items_filled single solid filling).trans (items_of_single single solid).symm
  rw [ofNet_of_list list, same]
  cases first : firstHolding a (items text) with
  | error e =>
      obtain ⟨quoted, rfl⟩ := malformed_of_firstHolding first
      rw [ofNet_of_decided (by simp [first]), first]
      exact .malformed quoted
  | ok found =>
      cases found with
      | some b =>
          rw [ofNet_of_decided (by simp [first]), first]
          exact .found _
      | none =>
          rw [items_of_single single solid] at first
          obtain ⟨b, read, out⟩ := firstHolding_eq_none.mp first _ (List.mem_singleton.mpr rfl)
          rw [readBlock_trim] at read
          have outside : ofNet a (net.withCidr text) = .error (.addressOutOfRange a b) := by
            rw [ofNet_of_unlisted single, read]
            change (checkBlock a b).map _ = _
            rw [checkBlock_eq (readBlock_eq_ok.mp read), if_neg out]
            rfl
          rw [outside]
          exact .outside b

theorem quoting_of_respaced (list : ',' ∈ text) (list' : ',' ∈ text')
    (respaced : Respaced (text.splitOn ',') (text'.splitOn ',')) :
    ofNet a (net.withCidr text') = quoting text' (ofNet a (net.withCidr text)) := by
  have same : items text' = items text := respaced.itemsOf_eq.symm
  rw [ofNet_of_list list, ofNet_of_list list', same]
  cases first : firstHolding a (items text) with
  | error e =>
      obtain ⟨quoted, rfl⟩ := malformed_of_firstHolding first
      rfl
  | ok found =>
      cases found with
      | none => rfl
      | some b => rfl

/-- A piece that denotes a block is an item, and reads as that block. -/
theorem itemsOf_of_denotes {piece : List Char} {b : Block}
    (denotes : Denotes (Blank.trim piece) b) (before : List (List Char)) :
    itemsOf (before ++ [piece]) = itemsOf before ++ [Blank.trim piece] := by
  rw [itemsOf_append, itemsOf_cons_of_solid denotes.nonempty]
  rfl

/-- The pieces up to one that holds the address decide. -/
theorem firstHolding_of_holding {piece : List Char} {b : Block}
    (denotes : Denotes (Blank.trim piece) b) (holds : a ∈ b) (before after : List (List Char)) :
    firstHolding a (itemsOf (before ++ [piece])) ≠ .ok none ∧
      firstHolding a (itemsOf (before ++ piece :: after)) =
        firstHolding a (itemsOf (before ++ [piece])) := by
  have decided : firstHolding a (itemsOf (before ++ [piece])) ≠ .ok none := by
    intro none
    rw [itemsOf_of_denotes denotes] at none
    obtain ⟨c, read, out⟩ := firstHolding_eq_none.mp none (Blank.trim piece) (by simp)
    rw [denotes.readBlock_eq] at read
    exact out (Except.ok.inj read ▸ holds)
  refine ⟨decided, ?_⟩
  rw [List.append_cons before piece after, itemsOf_append]
  exact firstHolding_append_of_decided decided

theorem ofNet_of_holding {before after after' : List (List Char)} {piece : List Char} {b : Block}
    (pieces : text.splitOn ',' = before ++ piece :: after)
    (pieces' : text'.splitOn ',' = before ++ piece :: after')
    (denotes : Denotes (Blank.trim piece) b) (holds : a ∈ b) :
    ofNet a (net.withCidr text') = ofNet a (net.withCidr text) := by
  obtain ⟨decided, first⟩ := firstHolding_of_holding denotes holds before after
  obtain ⟨-, first'⟩ := firstHolding_of_holding denotes holds before after'
  rw [← pieces, ← items_eq] at first
  rw [← pieces', ← items_eq] at first'
  rw [ofNet_of_decided (first'.symm ▸ decided), ofNet_of_decided (first.symm ▸ decided), first,
    first', listed_congr decided]

theorem ofNet_of_malformed {before after : List (List Char)} {piece : List Char}
    (pieces : text.splitOn ',' = before ++ piece :: after)
    (passed : ∀ p ∈ before, Blank.trim p = [] ∨ ∃ b, Denotes (Blank.trim p) b ∧ a ∉ b)
    (solid : Blank.trim piece ≠ []) (faulty : ∀ b, ¬ Denotes (Blank.trim piece) b) :
    ofNet a (net.withCidr text) = .error (.malformedCidr (String.ofList (Blank.trim piece))) := by
  have none : firstHolding a (itemsOf before) = .ok none := by
    refine firstHolding_eq_none.mpr fun item mem => ?_
    obtain ⟨p, here, rfl⟩ := List.mem_map.mp (List.mem_filter.mp mem).1
    have kept : Blank.trim p ≠ [] := by simpa using (List.mem_filter.mp mem).2
    obtain ⟨b, denotes, out⟩ := (passed p here).resolve_left kept
    exact ⟨b, denotes.readBlock_eq, out⟩
  have failed : readBlock (Blank.trim piece) =
      .error (.malformedCidr (String.ofList (Blank.trim piece))) := by
    rw [readBlock_trim]
    cases read : readBlock piece with
    | ok b => exact absurd (readBlock_eq_ok.mp read) (faulty b)
    | error e => rw [(readBlock_eq_error read).1]
  have first : firstHolding a (items text) =
      .error (.malformedCidr (String.ofList (Blank.trim piece))) := by
    rw [items_eq, pieces, itemsOf_append, firstHolding_append_of_none none,
      itemsOf_cons_of_solid solid, firstHolding, failed]
    rfl
  rw [ofNet_of_decided (by simp [first]), first]
  rfl

end Reading

/-- How the outcome for an address hangs on the items of a text. -/
structure ReadsItems (a : Address) (read : List Char → Except Error Finding) : Prop where
  /-- A network in a list by itself is read as it is outside of one. -/
  alone : ∀ text before after, ',' ∉ text → (¬ ∀ c ∈ text, Blank.isBlank c = true) →
    IsFilling (before ++ after) → ',' ∈ before ++ after →
      Alike a (before ++ text ++ after) (read text) (read (before ++ text ++ after))
  /-- Blank items and blanks around items do not matter. -/
  respaced : ∀ text text', ',' ∈ text → ',' ∈ text' →
    Respaced (text.splitOn ',') (text'.splitOn ',') → read text' = quoting text' (read text)
  /-- Items after one that holds the address do not matter. -/
  decided : ∀ text text' before piece after after' b,
    text.splitOn ',' = before ++ piece :: after → text'.splitOn ',' = before ++ piece :: after' →
      Denotes (Blank.trim piece) b → a ∈ b → read text' = read text
  /-- The first item that is no network decides, unless one before it holds the address. -/
  malformed : ∀ text before piece after, text.splitOn ',' = before ++ piece :: after →
    (∀ p ∈ before, (∀ c ∈ p, Blank.isBlank c = true) ∨ ∃ b, Denotes (Blank.trim p) b ∧ a ∉ b) →
      (¬ ∀ c ∈ piece, Blank.isBlank c = true) → (∀ b, ¬ Denotes (Blank.trim piece) b) →
        read text = .error (.malformedCidr (String.ofList (Blank.trim piece)))

/-- **A list is read item by item.**  Whatever else a record says, what is found for an address
in its network text hangs on the items of that text alone, one by one up to the first that
decides. -/
theorem ofRecord_readsItems (a : Address) (net : Net) (rest : List Net) :
    ReadsItems a fun text => ofRecord a ⟨net.withCidr text :: rest⟩ where
  alone text before after single solid filling comma :=
    alike_of_filled single (fun blank => solid (Blank.trim_eq_nil_iff.mp blank)) filling comma
  respaced text text' list list' respaced := quoting_of_respaced list list' respaced
  decided text text' before piece after after' b pieces pieces' denotes holds :=
    ofNet_of_holding pieces pieces' denotes holds
  malformed text before piece after pieces passed solid faulty := by
    refine ofNet_of_malformed pieces (fun p here => ?_)
      (fun blank => solid (Blank.trim_eq_nil_iff.mp blank)) faulty
    exact (passed p here).imp_left Blank.trim_eq_nil_iff.mpr

/-- A network with commas and blanks around it; a list with another blank item and other blanks,
which does not hold the address; one that ends before a malformed item, and goes on with it; and a
malformed item behind a blank one and a network elsewhere, and before one that holds the address. -/
theorem ofRecord_readsItems_mixed :
    let a : Address := ⟨0x0A010203, by decide⟩
    let read (text : String) := ofRecord a ⟨[Net.withCidr {} text.toList]⟩
    Alike a ", 10.0.0.0/8 ".toList (read "10.0.0.0/8") (read ", 10.0.0.0/8 ") ∧
      read "\t11.0.0.0/8,12.0.0.0/8" =
        quoting "\t11.0.0.0/8,12.0.0.0/8".toList (read "11.0.0.0/8 , ,12.0.0.0/8") ∧
      read "10.0.0.0/8,x" = read "10.0.0.0/8" ∧
      read " ,11.0.0.0/8, x,10.0.0.0/8" = .error (.malformedCidr "x") := by
  intro a read
  have reads := ofRecord_readsItems a {} []
  have solid : ¬ ∀ c ∈ "10.0.0.0/8".toList, Blank.isBlank c = true :=
    mt Blank.trim_eq_nil_iff.mpr (by decide)
  have space : ∀ c ∈ [' '], Blank.isBlank c = true := Blank.trim_eq_nil_iff.mp (by decide)
  have tab : ∀ c ∈ ['\t'], Blank.isBlank c = true := Blank.trim_eq_nil_iff.mp (by decide)
  have nothing : ∀ c ∈ ([] : List Char), Blank.isBlank c = true := by simp
  refine ⟨?_, ?_, ?_, ?_⟩
  · have filling : IsFilling [',', ' ', ' '] :=
      List.forall_mem_cons.mpr ⟨.inl rfl, List.forall_mem_cons.mpr
        ⟨.inr rfl, List.forall_mem_singleton.mpr (.inr rfl)⟩⟩
    exact reads.alone "10.0.0.0/8".toList [',', ' '] [' '] (by decide) solid filling (by decide)
  · refine reads.respaced _ _ (by decide) (by decide) ?_
    have first : IsPadded "11.0.0.0/8".toList "11.0.0.0/8 ".toList :=
      ⟨[], [' '], by decide, nothing, space⟩
    have first' : IsPadded "11.0.0.0/8".toList "\t11.0.0.0/8".toList :=
      ⟨['\t'], [], by decide, tab, nothing⟩
    have second : IsPadded "12.0.0.0/8".toList "12.0.0.0/8".toList :=
      ⟨[], [], by decide, nothing, nothing⟩
    exact .item first first' (.removed space (.item second second .nil))
  · have block : Denotes (Blank.trim "10.0.0.0/8".toList) (Cidr.ofOctets 10 0 0 0 8).block :=
      readBlock_eq_ok.mp (by decide)
    exact reads.decided _ _ [] "10.0.0.0/8".toList [] ["x".toList] _ (by decide) (by decide) block
      (by decide)
  · have elsewhere : Denotes (Blank.trim "11.0.0.0/8".toList) (Cidr.ofOctets 11 0 0 0 8).block :=
      readBlock_eq_ok.mp (by decide)
    have failed : readBlock " x".toList = .error (.malformedCidr "x") := by decide
    refine reads.malformed _ [[' '], "11.0.0.0/8".toList] " x".toList ["10.0.0.0/8".toList]
      (by decide) ?_ (mt Blank.trim_eq_nil_iff.mpr (by decide)) (readBlock_eq_error failed).2
    refine List.forall_mem_cons.mpr ⟨.inl space, List.forall_mem_singleton.mpr (.inr ?_)⟩
    exact ⟨_, elsewhere, by decide⟩

end Finding

end OwnerCache.Whois
