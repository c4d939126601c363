/-
# OwnerCache.Proofs.Config -- a setting is what its variable says

A setting has a variable of its own, and a kind, which tells what its variable may say: any text,
a number below a bound, a yes, or that it is there (`Kind.Tells`).  The configuration that is loaded
has for each setting what its variable says, and the default where that says nothing (`value_load`).
The default is the one of `Config` itself, although `load` has it from a text of its own, or from a
number of its own for a text that is none (`numeric_toNat`).

An environment that spells a configuration says all of it, but for what is the default anyway, so
nothing is lost between writing and loading.
-/
import Mathlib.Data.Bool.AllAny
import Mathlib.Logic.Function.Basic
import OwnerCache.Config
import OwnerCache.Proofs.Net.Notation
import OwnerCache.Proofs.Text.Lowercase

namespace OwnerCache.Config

set_option autoImplicit false

/-! ## Numbers -/

/-- A text is made of digits with the value `n`, and a plus sign in front of them or not. -/
def Spells (value : String) (n : Nat) : Prop :=
  ∃ digits : List Char, (value.toList = digits ∨ value.toList = '+' :: digits) ∧
    Decimal.Spells digits.length digits n

theorem decimalRead?_eq_some {digits : List Char} {n : Nat} :
    Decimal.read? digits = some n ↔ Decimal.Spells digits.length digits n := by
  rw [Decimal.read?_eq_some]
  exact ⟨fun ⟨nonempty, digits, value⟩ => ⟨nonempty, digits, Nat.le_refl _, value⟩,
    fun spelled => ⟨spelled.nonempty, spelled.digits, spelled.value_eq⟩⟩

theorem number?_eq_some {value : String} {n : Nat} : number? value = some n ↔ Spells value n := by
  -- A plus sign is no digit, so it is in front of the digits or nowhere.
  have plain : ∀ cs : List Char, ¬Decimal.Spells ('+' :: cs).length ('+' :: cs) n :=
    fun cs spelled => absurd (spelled.digits '+' List.mem_cons_self) (by decide)
  unfold number? Spells
  split
  · rename_i cs signed
    rw [decimalRead?_eq_some]
    constructor
    · exact fun spelled => ⟨cs, .inr signed, spelled⟩
    · rintro ⟨digits, same | same, spelled⟩
      · exact absurd (same.symm.trans signed ▸ spelled) (plain cs)
      · rwa [List.tail_eq_of_cons_eq (signed.symm.trans same)]
  · rename_i unsigned
    rw [decimalRead?_eq_some]
    constructor
    · exact fun spelled => ⟨value.toList, .inl rfl, spelled⟩
    · rintro ⟨digits, same | same, spelled⟩
      · rwa [same]
      · exact absurd same (unsigned digits)

theorem numberBelow?_eq_some {bound n : Nat} {value : String} :
    numberBelow? bound value = some n ↔ Spells value n ∧ n < bound := by
  simp [numberBelow?, Option.filter_eq_some_iff, number?_eq_some]

theorem spells_write (n : Nat) : Spells (String.ofList (Decimal.write n)) n :=
  ⟨Decimal.write n, .inl String.toList_ofList, decimalRead?_eq_some.mp (Decimal.read?_write n)⟩

/-- A numeric setting is the number that its variable spells, or else `other`, if the text that stands
for a variable without one spells `other`. -/
theorem numeric_toNat {ν : Type} {ofNat : Nat → ν} {toNat : ν → Nat} {bound : Nat}
    (exact : ∀ n < bound, toNat (ofNat n) = n) {unset : String} {other : ν}
    (stands : numberBelow? bound unset = some (toNat other)) (value : Option String) :
    toNat (numeric (fun text => (numberBelow? bound text).map ofNat) unset other value) =
      (value.bind (numberBelow? bound)).getD (toNat other) := by
  have known : ∀ text, toNat (((numberBelow? bound text).map ofNat).getD other) =
      (numberBelow? bound text).getD (toNat other) := fun text => by
    cases read : numberBelow? bound text with
    | none => rfl
    | some n => exact exact n (numberBelow?_eq_some.mp read).2
  cases value with
  | none =>
      refine (known unset).trans ?_
      rw [stands]
      rfl
  | some text => exact known text

/-! ## Yes -/

theorem isYes_iff {value : String} :
    isYes value = true ↔ value = "1" ∨ value.toList.map Char.toLower = "true".toList := by
  have small : ∀ d ∈ "true".toList, d.toNat < 0x80 ∧ d ≠ 'i' ∧ d ≠ 'k' :=
    List.all_iff_forall_prop.mp (by decide)
  simp only [isYes, Bool.or_eq_true, beq_iff_eq, Lowercase.ofList_eq_iff small]

/-! ## Settings -/

inductive Setting where
  | dbPath
  | acceptedRangeLength
  | rangeTtlSecs
  | whoisTimeoutSecs
  | rdapUrl
  | sweepEnabled
  | sweepIntervalSecs
  | debug
deriving DecidableEq, Repr

/-- What may be said of a setting. -/
inductive Kind where
  | text
  | number (bound : Nat)
  | yes
  | presence
deriving DecidableEq, Repr

inductive Value where
  | text (text : String)
  | number (n : Nat)
  | flag (on : Bool)
deriving DecidableEq, Repr

/-- What a variable says: one that is unset or undecodable says nothing. -/
inductive Kind.Tells : Kind → Variable → Value → Prop
  | text (text : String) : Tells .text (.text text) (.text text)
  | number {bound n : Nat} {text : String} (spelled : Spells text n) (lt : n < bound) :
      Tells (.number bound) (.text text) (.number n)
  | yes {text : String}
      (yes : text = "1" ∨ text.toList.map Char.toLower = "true".toList) :
      Tells .yes (.text text) (.flag true)
  | presence (text : String) : Tells .presence (.text text) (.flag true)

/-- What a text says. -/
def Kind.read? : Kind → String → Option Value
  | .text, given => some (.text given)
  | .number bound, given => (numberBelow? bound given).map .number
  | .yes, given => if isYes given then some (.flag true) else none
  | .presence, _ => some (.flag true)

theorem Kind.read?_eq_some {kind : Kind} {x : Variable} {value : Value} :
    x.text?.bind kind.read? = some value ↔ kind.Tells x value := by
  constructor
  · intro read
    obtain ⟨text, here, read⟩ := Option.bind_eq_some_iff.mp read
    cases x with
    | unset | undecodable => cases here
    | text given =>
        obtain rfl := Option.some.inj here
        cases kind with
        | text => cases read; exact .text given
        | number bound =>
            obtain ⟨n, below, rfl⟩ := Option.map_eq_some_iff.mp read
            obtain ⟨spelled, lt⟩ := numberBelow?_eq_some.mp below
            exact .number spelled lt
        | yes =>
            obtain ⟨yes, same⟩ := Option.ite_none_right_eq_some.mp read
            cases same
            exact .yes (isYes_iff.mp yes)
        | presence => cases read; exact .presence given
  · rintro (text | ⟨spelled, lt⟩ | yes | text)
    · rfl
    · exact Option.map_eq_some_iff.mpr ⟨_, numberBelow?_eq_some.mpr ⟨spelled, lt⟩, rfl⟩
    · exact if_pos (isYes_iff.mpr yes)
    · rfl

theorem Kind.read?_eq_none {kind : Kind} {x : Variable} :
    x.text?.bind kind.read? = none ↔ ∀ value, ¬kind.Tells x value := by
  rw [Option.eq_none_iff_forall_ne_some]
  exact forall_congr' fun value => not_congr Kind.read?_eq_some

namespace Setting

/-- The name of the variable. -/
def name : Setting → String
  | dbPath => "ISPR_DB_PATH"
  | acceptedRangeLength => "ISPR_ACCEPTED_RANGE_LENGTH"
  | rangeTtlSecs => "ISPR_RANGE_TTL_SECS"
  | whoisTimeoutSecs => "ISPR_WHOIS_TIMEOUT_SECS"
  | rdapUrl => "ISPR_RDAP_URL"
  | sweepEnabled => "ISPR_SWEEP_ENABLED"
  | sweepIntervalSecs => "ISPR_SWEEP_INTERVAL_SECS"
  | debug => "DEBUG"

def kind : Setting → Kind
  | dbPath | rdapUrl => .text
  | acceptedRangeLength => .number UInt32.size
  | rangeTtlSecs | whoisTimeoutSecs | sweepIntervalSecs => .number UInt64.size
  | sweepEnabled => .yes
  | debug => .presence

def value (c : Config) : Setting → Value
  | dbPath => .text c.dbPath
  | acceptedRangeLength => .number c.acceptedRangeLength.toNat
  | rangeTtlSecs => .number c.rangeTtlSecs.toNat
  | whoisTimeoutSecs => .number c.whoisTimeoutSecs.toNat
  | rdapUrl => .text c.rdapUrl
  | sweepEnabled => .flag c.sweepEnabled
  | sweepIntervalSecs => .number c.sweepIntervalSecs.toNat
  | debug => .flag c.debug

theorem name_injective : Function.Injective name := by
  intro s t
  cases s <;> cases t <;> decide

end Setting

/-- A configuration is the values of its settings. -/
theorem ext_of_value {c c' : Config} (same : ∀ s, Setting.value c s = Setting.value c' s) :
    c = c' := by
  have number32 : ∀ {m n : UInt32}, Value.number m.toNat = .number n.toNat → m = n :=
    fun same => UInt32.toNat_inj.mp (Value.number.inj same)
  have number64 : ∀ {m n : UInt64}, Value.number m.toNat = .number n.toNat → m = n :=
    fun same => UInt64.toNat_inj.mp (Value.number.inj same)
  exact Config.ext (Value.text.inj (same .dbPath)) (number32 (same .acceptedRangeLength))
    (number64 (same .rangeTtlSecs)) (number64 (same .whoisTimeoutSecs))
    (Value.text.inj (same .rdapUrl)) (Value.flag.inj (same .sweepEnabled))
    (number64 (same .sweepIntervalSecs)) (Value.flag.inj (same .debug))

/-! ## Loading -/

section

/-! What `load` makes of the value of a variable, for each kind. -/

variable (x : Option String)

theorem text_getD (other : String) :
    Value.text (x.getD other) = (x.bind Kind.text.read?).getD (.text other) := by
  cases x <;> rfl

theorem number_numeric {ν : Type} {ofNat : Nat → ν} {toNat : ν → Nat} {bound : Nat}
    (exact : ∀ n < bound, toNat (ofNat n) = n) {unset : String} {other : ν}
    (stands : numberBelow? bound unset = some (toNat other)) :
    Value.number (toNat (numeric (fun text => (numberBelow? bound text).map ofNat) unset other x)) =
      (x.bind (Kind.number bound).read?).getD (.number (toNat other)) := by
  rw [numeric_toNat exact stands]
  cases x with
  | none => rfl
  | some text => exact (Option.getD_map ..).symm

theorem flag_isYes :
    Value.flag ((x.map isYes).getD false) = (x.bind Kind.yes.read?).getD (.flag false) := by
  cases x with
  | none => rfl
  | some text =>
      simp only [Option.map_some, Option.bind_some, Option.getD_some, Kind.read?]
      cases isYes text <;> rfl

theorem flag_isSome :
    Value.flag x.isSome = (x.bind Kind.presence.read?).getD (.flag false) := by
  cases x <;> rfl

end

/-- A setting is what its variable says, and else the default. -/
theorem value_load (env : Environment) (s : Setting) :
    s.value (load env) = ((env s.name).text?.bind s.kind.read?).getD (s.value {}) := by
  have exact32 : ∀ n < UInt32.size, (UInt32.ofNat n).toNat = n :=
    fun _ lt => UInt32.toNat_ofNat_of_lt' lt
  have exact64 : ∀ n < UInt64.size, (UInt64.ofNat n).toNat = n :=
    fun _ lt => UInt64.toNat_ofNat_of_lt' lt
  cases s with
  | dbPath | rdapUrl => exact text_getD _ _
  | acceptedRangeLength => exact number_numeric _ exact32 (by decide)
  | rangeTtlSecs | whoisTimeoutSecs | sweepIntervalSecs =>
      exact number_numeric _ exact64 (by decide)
  | sweepEnabled => exact flag_isYes _
  | debug => exact flag_isSome _

/-- What is written says the value, or else the value is the default. -/
theorem value_environment (c : Config) (s : Setting) :
    ((environment c s.name).text?.bind s.kind.read?).getD (s.value {}) = s.value c := by
  have written : ∀ {bound n : Nat}, n < bound →
      (Kind.number bound).read? (String.ofList (Decimal.write n)) = some (.number n) :=
    fun lt => Option.map_eq_some_iff.mpr
      ⟨_, numberBelow?_eq_some.mpr ⟨spells_write _, lt⟩, rfl⟩
  cases s with
  | dbPath | rdapUrl => rfl
  | acceptedRangeLength => exact congrArg (Option.getD · _) (written (UInt32.toNat_lt_size _))
  | rangeTtlSecs | whoisTimeoutSecs | sweepIntervalSecs =>
      exact congrArg (Option.getD · _) (written (UInt64.toNat_lt_size _))
  | sweepEnabled =>
      have spelled : ∀ on : Bool, (Kind.yes.read? (if on then "true" else "false")).getD (.flag false) =
          .flag on := by decide
      exact spelled c.sweepEnabled
  | debug =>
      have spelled : ∀ on : Bool, ((if on then Variable.text "1" else .unset).text?.bind
          Kind.presence.read?).getD (.flag false) = .flag on := by decide
      exact spelled c.debug

/-- **A setting is what its variable says, and else the default**, in every environment: texts that are
no number, numbers that are too large and bytes that are not text leave the default.  No other
variable matters to a setting, and a configuration that is written comes back, whatever else is in
the environment. -/
theorem load_fieldwise :
    (∀ (env : Environment) (s : Setting),
      (∀ value, s.kind.Tells (env s.name) value → s.value (load env) = value) ∧
      ((∀ value, ¬s.kind.Tells (env s.name) value) → s.value (load env) = s.value {})) ∧
    (∀ env : Environment, (load env).sweepEnabled = true ↔
      ∃ text : String, env "ISPR_SWEEP_ENABLED" = .text text ∧
        (text = "1" ∨ text.toList.map Char.toLower = "true".toList)) ∧
    (∀ (env : Environment) (s t : Setting) (x : Variable), s ≠ t →
      s.value (load (Function.update env t.name x)) = s.value (load env)) ∧
    ∀ (c : Config) (env : Environment), (∀ s : Setting, env s.name = environment c s.name) →
      load env = c := by
  refine ⟨fun env s => ⟨fun value told => ?_, fun silent => ?_⟩, fun env => ?_,
    fun env s t x other => ?_, fun c env written => ?_⟩
  · rw [value_load, Kind.read?_eq_some.mpr told, Option.getD_some]
  · rw [value_load, Kind.read?_eq_none.mpr silent, Option.getD_none]
  · show ((env "ISPR_SWEEP_ENABLED").text?.map isYes).getD false = true ↔ _
    cases env "ISPR_SWEEP_ENABLED" with
    | unset | undecodable => simp [Variable.text?]
    | text text => simp [Variable.text?, isYes_iff]
  · rw [value_load, value_load,
      Function.update_of_ne fun same => other (Setting.name_injective same)]
  · refine ext_of_value fun s => ?_
    rw [value_load, written, value_environment]

/-- A number may have a sign and zeros in front, but not too many digits; a yes may have capitals; and
bytes that are not text do not count. -/
theorem load_fieldwise_mixed :
    let env : Environment := fun
      | "ISPR_ACCEPTED_RANGE_LENGTH" => .text "+0065536"
      | "ISPR_RANGE_TTL_SECS" => .text "18446744073709551616"
      | "ISPR_SWEEP_ENABLED" => .text "TrUe"
      | "DEBUG" => .undecodable
      | _ => .unset
    let c : Config := { rdapUrl := "http://localhost:9000", sweepIntervalSecs := 0, debug := true }
    let written : Environment := Function.update (environment c) "HOME" (.text "/")
    (Setting.acceptedRangeLength.kind.Tells (.text "+0065536") (.number 65536) ∧
      Setting.acceptedRangeLength.value (load env) = .number 65536) ∧
    ((∀ value, ¬Setting.rangeTtlSecs.kind.Tells (.text "18446744073709551616") value) ∧
      Setting.rangeTtlSecs.value (load env) = .number 15552000) ∧
    ((∀ value, ¬Setting.debug.kind.Tells .undecodable value) ∧
      Setting.debug.value (load env) = .flag false) ∧
    (load env).sweepEnabled = true ∧
    (Setting.rangeTtlSecs ≠ .debug ∧
      Setting.rangeTtlSecs.value (load (Function.update env "DEBUG" (.text ""))) =
        Setting.rangeTtlSecs.value (load env)) ∧
    (∀ s : Setting, written s.name = environment c s.name) ∧ load written = c := by
  intro env c written
  have length : Setting.acceptedRangeLength.kind.Tells (.text "+0065536") (.number 65536) :=
    Kind.read?_eq_some.mp (by decide)
  have ttl : ∀ value, ¬Setting.rangeTtlSecs.kind.Tells (.text "18446744073709551616") value :=
    Kind.read?_eq_none.mp (by decide)
  have debug : ∀ value, ¬Setting.debug.kind.Tells .undecodable value := Kind.read?_eq_none.mp rfl
  have same : ∀ s : Setting, written s.name = environment c s.name := fun s =>
    Function.update_of_ne (by cases s <;> decide) _ _
  obtain ⟨told, sweep, others, back⟩ := load_fieldwise
  exact ⟨⟨length, (told env .acceptedRangeLength).1 _ length⟩,
    ⟨ttl, (told env .rangeTtlSecs).2 ttl⟩, ⟨debug, (told env .debug).2 debug⟩,
    (sweep env).mpr ⟨"TrUe", rfl, .inr (by decide)⟩,
    ⟨by decide, others env .rangeTtlSecs .debug (.text "") (by decide)⟩, same, back c written same⟩

end OwnerCache.Config
