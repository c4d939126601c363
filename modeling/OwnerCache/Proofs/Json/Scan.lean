/-
# OwnerCache.Proofs.Json.Scan -- tokens are scanned as they were written

A scan that has come to the end of some tokens stands between tokens, or in a word that is not over
yet (`Scanned.Has`).  Either way the first character of a token that is no word ends there what it
has to, so such a token is scanned the same after any other; a word only has to be told from a word
before it.  So a text of tokens in which no two words meet (`Parted`) gives them back
(`scan_write`).

Of a string every character comes back from its escape (`Piece.Means`).  Its controls are all
escaped, so there is none in what is written (`Token.IsWritable.le_of_mem_write`).
-/
import Mathlib.Data.Bool.AllAny
import OwnerCache.Json.Token
import OwnerCache.Proofs.Net.Notation

namespace OwnerCache.Json

set_option autoImplicit false

/-! ## Runs of a scan -/

/-- Take units of text one after the other. -/
def Scanned.run (us : List (Option Char)) (s : Scanned) : Option Scanned :=
  us.foldlM Scanned.step s

theorem Scanned.run_cons {s t : Scanned} {u : Option Char} (stepped : s.step u = some t)
    (us : List (Option Char)) : Scanned.run (u :: us) s = Scanned.run us t := by
  rw [run, List.foldlM_cons, stepped]
  rfl

/-! ## Strings -/

/-- A piece that stands for a character: itself, or the bits of a control. -/
inductive Piece.Means : Piece → Char → Prop
  | unit (c : Char) : Means (.unit (some c)) c
  | bits (c : Char) (control : c.toNat < 0x20) : Means (.bits c.toNat) c

theorem joinPieces_cons {p : Piece} {c : Char} (means : p.Means c) (rest : List Piece) :
    joinPieces (p :: rest) = some c :: joinPieces rest := by
  cases means with
  | unit => rw [joinPieces]
  | bits control =>
      have high : isHighSurrogate c.toNat = false := by simp [isHighSurrogate]; omega
      have low : isLowSurrogate c.toNat = false := by simp [isLowSurrogate]; omega
      rcases rest with _ | ⟨_ | lo, rest⟩ <;> simp [joinPieces, high, low, Char.ofNat_toNat]

theorem joinPieces_eq {ps : List Piece} {cs : List Char} (means : List.Forall₂ Piece.Means ps cs) :
    joinPieces ps = cs.map some := by
  induction means with
  | nil => rfl
  | cons first _ ih => rw [joinPieces_cons first, ih, List.map_cons]

theorem value?_digitChar {d : Nat} (lt : d < 16) : Hex.value? (Nat.digitChar d) = some d := by
  revert d
  decide

/-- A letter after a backslash stands for a character. -/
theorem run_escape (done : List Token) (pieces : List Piece) {letter c : Char}
    (short : letter ≠ 'u') (escaped : escaped? letter = some c) (us : List (Option Char)) :
    Scanned.run (some '\\' :: some letter :: us) (done, .text pieces) =
      Scanned.run us (done, .text (.unit (some c) :: pieces)) := by
  rw [Scanned.run_cons (t := (done, .escape pieces)) rfl]
  refine Scanned.run_cons ?_ us
  simp [Scanned.step, Scan.step, short, escaped]

/-- A control is written with the four digits of its number. -/
theorem run_control (done : List Token) (pieces : List Piece) {n : Nat} (control : n < 0x20)
    (us : List (Option Char)) :
    Scanned.run (some '\\' :: some 'u' :: some '0' :: some '0' :: some (Nat.digitChar (n / 16)) ::
      some (Nat.digitChar (n % 16)) :: us) (done, .text pieces) =
      Scanned.run us (done, .text (.bits n :: pieces)) := by
  have sixteens := value?_digitChar (d := n / 16) (by omega)
  have ones := value?_digitChar (d := n % 16) (by omega)
  have sum : n / 16 * 16 + n % 16 = n := by omega
  rw [Scanned.run_cons (t := (done, .escape pieces)) rfl,
    Scanned.run_cons (t := (done, .hex pieces 4 0)) rfl,
    Scanned.run_cons (t := (done, .hex pieces 3 0)) rfl,
    Scanned.run_cons (t := (done, .hex pieces 2 0)) rfl,
    Scanned.run_cons (t := (done, .hex pieces 1 (n / 16)))]
  · refine Scanned.run_cons ?_ us
    simp [Scanned.step, Scan.step, ones, sum]
  · simp [Scanned.step, Scan.step, sixteens]

/-- How a character is written: as a letter after a backslash, by its number, or as it is. -/
inductive WrittenAs (c : Char) : List Char → Prop
  | escaped (letter : Char) (short : letter ≠ 'u') (visible : 0x20 ≤ letter.toNat)
      (escaped : escaped? letter = some c) : WrittenAs c ['\\', letter]
  | numbered (control : c.toNat < 0x20) :
      WrittenAs c ['\\', 'u', '0', '0', Nat.digitChar (c.toNat / 16), Nat.digitChar (c.toNat % 16)]
  | plain (visible : 0x20 ≤ c.toNat) (quote : c ≠ '"') (backslash : c ≠ '\\') : WrittenAs c [c]

theorem writeCharacter_writtenAs (c : Char) : WrittenAs c (writeCharacter c) := by
  by_cases short : c = '"' ∨ c = '\\' ∨ c = '\x08' ∨ c = '\x0c' ∨ c = '\n' ∨ c = '\r' ∨ c = '\t'
  · rcases short with rfl | rfl | rfl | rfl | rfl | rfl | rfl
    all_goals exact .escaped _ (by decide) (by decide) rfl
  · simp only [not_or] at short
    by_cases control : c.toNat < 0x20
    · have written : writeCharacter c =
          ['\\', 'u', '0', '0', Nat.digitChar (c.toNat / 16), Nat.digitChar (c.toNat % 16)] := by
        simp [writeCharacter, short, control]
      rw [written]
      exact .numbered control
    · have written : writeCharacter c = [c] := by simp [writeCharacter, short, control]
      rw [written]
      exact .plain (by omega) short.1 short.2.1

/-- A character is scanned as it was written. -/
theorem run_writeCharacter (done : List Token) (pieces : List Piece) (c : Char) :
    ∃ p : Piece, p.Means c ∧ ∀ us,
      Scanned.run ((writeCharacter c).map some ++ us) (done, .text pieces) =
        Scanned.run us (done, .text (p :: pieces)) := by
  have how := writeCharacter_writtenAs c
  generalize writeCharacter c = written at how
  cases how with
  | escaped letter short visible escaped =>
      exact ⟨_, .unit c, run_escape done pieces short escaped⟩
  | numbered control => exact ⟨_, .bits c control, run_control done pieces control⟩
  | plain visible quote backslash =>
      refine ⟨_, .unit c, fun us => Scanned.run_cons ?_ us⟩
      simp [Scanned.step, Scan.step, quote, backslash, Nat.not_lt.mpr visible]

theorem run_characters (done : List Token) (cs : List Char) (pieces : List Piece) :
    ∃ ps : List Piece, List.Forall₂ Piece.Means ps cs ∧ ∀ us,
      Scanned.run ((cs.flatMap writeCharacter).map some ++ us) (done, .text pieces) =
        Scanned.run us (done, .text (ps.reverse ++ pieces)) := by
  induction cs generalizing pieces with
  | nil => exact ⟨[], .nil, fun us => rfl⟩
  | cons c cs ih =>
      obtain ⟨p, means, first⟩ := run_writeCharacter done pieces c
      obtain ⟨ps, rest, later⟩ := ih (p :: pieces)
      refine ⟨p :: ps, .cons means rest, fun us => ?_⟩
      rw [List.flatMap_cons, List.map_append, List.append_assoc, first, later]
      simp

/-- A string is scanned as it was written, from between tokens. -/
theorem run_string (done : List Token) (cs : List Char) (us : List (Option Char)) :
    Scanned.run ((Token.string (cs.map some)).write.map some ++ us) (done, .between) =
      Scanned.run us (.string (cs.map some) :: done, .between) := by
  have body : (cs.map some).flatMap writeUnit = cs.flatMap writeCharacter := by
    rw [List.flatMap_map]
    rfl
  obtain ⟨ps, means, taken⟩ := run_characters done cs []
  have joined := joinPieces_eq means
  rw [Token.write, body, List.cons_append, List.map_cons, List.map_append, List.cons_append,
    Scanned.run_cons (t := (done, .text [])) rfl, List.append_assoc, taken]
  refine Scanned.run_cons ?_ us
  simp [Scanned.step, Scan.step, joined]

/-! ## Words -/

/-- The word of a token: characters that end no word. -/
structure Token.IsWord (word : List Char) (token : Token) : Prop where
  read : Token.ofWord? word = some token
  nonempty : word ≠ []
  goesOn : ∀ c ∈ word, endsWord c = false

theorem outside_of_word {c : Char} (goesOn : endsWord c = false) :
    Scan.outside c = (none, .word [c]) := by
  simp only [endsWord, Bool.or_eq_false_iff, beq_eq_false_iff_ne, Option.isSome_eq_false_iff,
    Option.isNone_iff_eq_none] at goesOn
  obtain ⟨⟨space, quote⟩, punctuation⟩ := goesOn
  simp [Scan.outside, space, quote, punctuation]

theorem run_word (done : List Token) {word : List Char} (goesOn : ∀ c ∈ word, endsWord c = false)
    (taken : List Char) (us : List (Option Char)) :
    Scanned.run (word.map some ++ us) (done, .word taken) =
      Scanned.run us (done, .word (word.reverse ++ taken)) := by
  induction word generalizing taken with
  | nil => rfl
  | cons c cs ih =>
      have here := goesOn c List.mem_cons_self
      have step : Scanned.step (done, .word taken) (some c) = some (done, .word (c :: taken)) := by
        simp [Scanned.step, Scan.step, here]
      rw [List.map_cons, List.cons_append, Scanned.run_cons step,
        ih (fun d mem => goesOn d (List.mem_cons_of_mem _ mem))]
      simp

/-- The characters of a number. -/
def IsNumeric (c : Char) : Prop :=
  c.isDigit = true ∨ c = '-' ∨ c = '+' ∨ c = '.' ∨ c = 'e' ∨ c = 'E'

theorem isNumeric_of_isDigits {cs : List Char} (digits : isDigits cs = true) :
    ∀ c ∈ cs, IsNumeric c := by
  simp only [isDigits, Bool.and_eq_true, List.all_eq_true] at digits
  exact fun c mem => .inl (digits.2 c mem)

theorem isNumeric_of_isIntegerPart {cs : List Char} (whole : isIntegerPart cs = true) :
    ∀ c ∈ cs, IsNumeric c := by
  intro c mem
  left
  unfold isIntegerPart at whole
  split at whole
  · rwa [List.mem_singleton.mp mem]
  · simp only [Bool.and_eq_true, List.all_eq_true] at whole
    rcases List.mem_cons.mp mem with rfl | mem
    · exact whole.1.1
    · exact whole.2 c mem
  · cases whole

theorem isNumeric_of_isExponent {cs : List Char} (exponent : isExponent cs = true) :
    ∀ c ∈ cs, IsNumeric c := by
  unfold isExponent at exponent
  split at exponent
  · exact List.forall_mem_cons.mpr ⟨by simp [IsNumeric], isNumeric_of_isDigits exponent⟩
  · exact List.forall_mem_cons.mpr ⟨by simp [IsNumeric], isNumeric_of_isDigits exponent⟩
  · exact isNumeric_of_isDigits exponent

/-- What is dropped starts where taking stopped. -/
theorem isNumeric_of_tail {test : Char → Bool} {cs : List Char}
    (stops : ∀ c, test c = false → IsNumeric c)
    (tail : (cs.dropWhile test == []) = true ∨ ∀ c ∈ (cs.dropWhile test).tail, IsNumeric c) :
    ∀ c ∈ cs.dropWhile test, IsNumeric c := by
  cases dropped : cs.dropWhile test with
  | nil => simp
  | cons c rest =>
      rw [dropped] at tail
      have first := List.head?_dropWhile_not test cs
      rw [dropped] at first
      refine List.forall_mem_cons.mpr ⟨stops c (by simpa using first), ?_⟩
      exact tail.resolve_left (by simp)

theorem isNumeric_of_isUnsigned {cs : List Char} (unsigned : isUnsigned cs = true) :
    ∀ c ∈ cs, IsNumeric c := by
  simp only [isUnsigned, Bool.and_eq_true, Bool.or_eq_true] at unsigned
  obtain ⟨⟨whole, fraction⟩, exponent⟩ := unsigned
  rw [← List.takeWhile_append_dropWhile (p := fun c => c != 'e' && c != 'E') (l := cs)]
  refine List.forall_mem_append.mpr ⟨?_, isNumeric_of_tail (fun c letter => ?_)
    (exponent.imp_right isNumeric_of_isExponent)⟩
  · generalize cs.takeWhile (fun c => c != 'e' && c != 'E') = mantissa at *
    rw [← List.takeWhile_append_dropWhile (p := (· != '.')) (l := mantissa)]
    refine List.forall_mem_append.mpr ⟨isNumeric_of_isIntegerPart whole,
      isNumeric_of_tail (fun c point => ?_) (fraction.imp_right isNumeric_of_isDigits)⟩
    obtain rfl : c = '.' := by simpa using point
    simp [IsNumeric]
  · by_cases small : c = 'e'
    · simp [IsNumeric, small]
    · obtain rfl : c = 'E' := by simpa [small] using letter
      simp [IsNumeric]

theorem isNumeric_of_isNumber {cs : List Char} (number : isNumber cs = true) :
    ∀ c ∈ cs, IsNumeric c := by
  unfold isNumber at number
  split at number
  · exact List.forall_mem_cons.mpr ⟨by simp [IsNumeric], isNumeric_of_isUnsigned number⟩
  · exact isNumeric_of_isUnsigned number

theorem endsWord_of_isNumeric {c : Char} (numeric : IsNumeric c) : endsWord c = false := by
  rcases numeric with digit | rfl | rfl | rfl | rfl | rfl
  · obtain ⟨lt, same⟩ := Decimal.digitChar_of_isDigit digit
    rw [← same]
    generalize c.toNat - '0'.toNat = d at lt
    revert d
    decide
  all_goals decide

theorem isWord_of_isNumber {literal : List Char} (number : isNumber literal = true) :
    (Token.number literal).IsWord literal where
  read := by
    have null : literal ≠ "null".toList := by
      rintro rfl
      exact absurd number (by decide)
    have yes : literal ≠ "true".toList := by
      rintro rfl
      exact absurd number (by decide)
    have no : literal ≠ "false".toList := by
      rintro rfl
      exact absurd number (by decide)
    simp only [Token.ofWord?, null, yes, no, number, if_false, if_true]
  nonempty := by
    rintro rfl
    exact absurd number (by decide)
  goesOn c mem := endsWord_of_isNumeric (isNumeric_of_isNumber number c mem)

/-! ## Tokens -/

namespace Token

/-- A number is one of the grammar, and a string has characters only. -/
def IsWritable : Token → Prop
  | .number literal => isNumber literal = true
  | .string us => ∃ cs : List Char, us = cs.map some
  | _ => True

def isWord : Token → Bool
  | .null | .bool _ | .number _ => true
  | _ => false

theorem IsWritable.isWord_write {t : Token} (writable : t.IsWritable) (word : t.isWord = true) :
    t.IsWord t.write := by
  cases t with
  | null => exact ⟨rfl, by simp [write], by simp [write]; decide⟩
  | bool b => cases b <;> exact ⟨rfl, by simp [write], by simp [write]; decide⟩
  | number literal => exact isWord_of_isNumber writable
  | _ => cases word

end Token

/-- Where a scan stands at the end of tokens: between tokens, or at the end of a word. -/
inductive Scanned.Has : Bool → Scanned → List Token → Prop
  | between (ts : List Token) : Has false (ts.reverse, .between) ts
  | word (ts : List Token) {w : List Char} {t : Token} (spelled : t.IsWord w) :
      Has true (ts.reverse, .word w.reverse) (ts ++ [t])

namespace Scanned.Has

variable {b : Bool} {s : Scanned} {ts : List Token}

theorem close (has : Has b s ts) : (s.2.close?).map (s.1.reverse ++ ·) = some ts := by
  cases has with
  | between => simp [Scan.close?]
  | word before spelled => simp [Scan.close?, spelled.read]

/-- A character that ends words is taken as from between tokens. -/
theorem run_cons (has : Has b s ts) {c : Char} (ends : endsWord c = true)
    (us : List (Option Char)) :
    Scanned.run (some c :: us) s = Scanned.run (some c :: us) (ts.reverse, .between) := by
  cases has with
  | between => rfl
  | @word before w t spelled =>
      have step : Scanned.step (before.reverse, .word w.reverse) (some c) =
          Scanned.step ((before ++ [t]).reverse, .between) (some c) := by
        simp [Scanned.step, Scan.step, ends, spelled.read]
      rw [Scanned.run, Scanned.run, List.foldlM_cons, List.foldlM_cons, step]

/-- A character that is a token is scanned as one. -/
theorem punctuation (has : Has b s ts) {c : Char} {t : Token} (spells : punctuation? c = some t)
    (space : isSpace c = false) (quote : c ≠ '"') (us : List (Option Char)) :
    Scanned.run (some c :: us) s = Scanned.run us ((ts ++ [t]).reverse, .between) := by
  have ends : endsWord c = true := by simp [endsWord, spells]
  rw [has.run_cons ends]
  refine Scanned.run_cons ?_ us
  simp [Scanned.step, Scan.step, Scan.outside, space, quote, spells]

/-- A token is scanned as it was written, if it is not a word after another. -/
theorem write (has : Has b s ts) {t : Token} (writable : t.IsWritable)
    (parted : t.isWord = true → b = false) :
    ∃ s', Has t.isWord s' (ts ++ [t]) ∧
      ∀ us, Scanned.run (t.write.map some ++ us) s = Scanned.run us s' := by
  cases word : t.isWord with
  | true =>
      have spelled := writable.isWord_write word
      obtain ⟨c, cs, first⟩ := List.exists_cons_of_ne_nil spelled.nonempty
      have goesOn := spelled.goesOn
      cases parted word
      cases has with
      | between =>
          refine ⟨_, .word ts spelled, fun us => ?_⟩
          rw [first] at goesOn ⊢
          have begun : Scanned.step (ts.reverse, .between) (some c) =
              some (ts.reverse, .word [c]) := by
            simp [Scanned.step, Scan.step, outside_of_word (goesOn c List.mem_cons_self)]
          rw [List.map_cons, List.cons_append, Scanned.run_cons begun,
            run_word _ (fun d mem => goesOn d (List.mem_cons_of_mem _ mem)), List.reverse_cons]
  | false =>
      refine ⟨_, .between _, ?_⟩
      cases t with
      | openBrace => exact has.punctuation rfl rfl (by decide)
      | closeBrace => exact has.punctuation rfl rfl (by decide)
      | openBracket => exact has.punctuation rfl rfl (by decide)
      | closeBracket => exact has.punctuation rfl rfl (by decide)
      | comma => exact has.punctuation rfl rfl (by decide)
      | colon => exact has.punctuation rfl rfl (by decide)
      | string us =>
          obtain ⟨cs, rfl⟩ := writable
          intro us
          have taken := run_string ts.reverse cs us
          rw [Token.write, List.cons_append, List.map_cons, List.cons_append] at taken ⊢
          rw [has.run_cons (by decide), taken]
          simp
      | _ => cases word

end Scanned.Has

/-! ## Texts of tokens -/

/-- No word comes right after another, or first, if one comes before. -/
inductive Parted : Bool → List Token → Prop
  | nil (b : Bool) : Parted b []
  | cons {b : Bool} {t : Token} {ts : List Token} (word : t.isWord = true → b = false)
      (rest : Parted t.isWord ts) : Parted b (t :: ts)

theorem run_write {b : Bool} {s : Scanned} {before ts : List Token} (has : Scanned.Has b s before)
    (parted : Parted b ts) (writable : ∀ t ∈ ts, t.IsWritable) :
    ∃ b' s', Scanned.Has b' s' (before ++ ts) ∧
      Scanned.run ((ts.flatMap Token.write).map some) s = some s' := by
  induction parted generalizing s before with
  | nil b => exact ⟨b, s, by rwa [List.append_nil], rfl⟩
  | @cons b t ts word rest ih =>
      obtain ⟨s', has', taken⟩ := has.write (writable t List.mem_cons_self) word
      obtain ⟨b', s'', has'', later⟩ := ih has' fun u mem => writable u (List.mem_cons_of_mem _ mem)
      refine ⟨b', s'', by rwa [List.append_assoc] at has'', ?_⟩
      rw [List.flatMap_cons, List.map_append, taken, later]

/-- **Tokens are scanned as they were written.** -/
theorem scan_write {ts : List Token} (parted : Parted false ts)
    (writable : ∀ t ∈ ts, t.IsWritable) : scan ((ts.flatMap Token.write).map some) = some ts := by
  obtain ⟨b, s, has, taken⟩ := run_write (.between []) parted writable
  have closed := has.close
  obtain ⟨last, ended, whole⟩ := Option.map_eq_some_iff.mp closed
  change List.foldlM Scanned.step ([], .between) _ = some s at taken
  rw [scan, taken]
  simpa [ended] using whole

/-! ## Characters of tokens -/

theorem le_of_isNumeric {c : Char} (numeric : IsNumeric c) : 0x20 ≤ c.toNat := by
  rcases numeric with digit | rfl | rfl | rfl | rfl | rfl
  · have low : 48 ≤ c.toNat := (Char.isDigit_iff_toNat.mp digit).1
    omega
  all_goals decide

/-- Controls are not written as they are. -/
theorem le_of_mem_writeCharacter {c d : Char} (mem : d ∈ writeCharacter c) : 0x20 ≤ d.toNat := by
  have how := writeCharacter_writtenAs c
  generalize writeCharacter c = written at how mem
  cases how with
  | escaped letter short visible =>
      rcases List.mem_pair.mp mem with rfl | rfl
      · decide
      · exact visible
  | numbered control =>
      have digits : ∀ n < 0x20,
          ['\\', 'u', '0', '0', Nat.digitChar (n / 16), Nat.digitChar (n % 16)].all
            fun d => 0x20 ≤ d.toNat := by decide
      exact List.all_iff_forall_prop.mp (digits _ control) d mem
  | plain visible => exact List.mem_singleton.mp mem ▸ visible

theorem Token.IsWritable.le_of_mem_write {t : Token} (writable : t.IsWritable) {c : Char}
    (mem : c ∈ t.write) : 0x20 ≤ c.toNat := by
  cases t with
  | number literal => exact le_of_isNumeric (isNumeric_of_isNumber writable c mem)
  | string us =>
      rw [Token.write, List.cons_append, List.mem_cons, List.mem_append, List.mem_singleton] at mem
      rcases mem with rfl | body | rfl
      · decide
      · obtain ⟨u, -, written⟩ := List.mem_flatMap.mp body
        exact le_of_mem_writeCharacter written
      · decide
  | bool b =>
      have plain : ∀ b, (Token.bool b).write.all fun c => 0x20 ≤ c.toNat := by decide
      exact List.all_iff_forall_prop.mp (plain b) c mem
  | null =>
      have plain : Token.null.write.all fun c => 0x20 ≤ c.toNat := by decide
      exact List.all_iff_forall_prop.mp plain c mem
  | _ =>
      obtain rfl := List.mem_singleton.mp mem
      decide

end OwnerCache.Json
