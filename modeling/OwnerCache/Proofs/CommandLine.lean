/-
# OwnerCache.Proofs.CommandLine -- a run answers its addresses one after the other

A run calls the resolver for each argument that spells an address, on the store that the call
before it left, until a call fails.  `Answers` says so argument by argument, of a provider and a
clock that may do as they like: what they reply, and what becomes of them, is up to the state of
the world around the run.

What is printed is one line for each answer and nothing else.  A line is the text of a document, so
no control stands in it, and it gives back the address with the owner and whether the owner was new
(`readLine?_line`).

The other arguments leave no trace but in the log: without them a run prints the same, leaves the
same store and ends the same way (`resolveAll_spelling`).
-/
import OwnerCache.CommandLine
import OwnerCache.Proofs.Json.RoundTrip
import OwnerCache.Store.Durable

namespace OwnerCache.CommandLine

set_option autoImplicit false

open Json

/-! ## Lines -/

/-- The identity that a document describes; its id may have any size. -/
def identity? (j : Json) : Option Identity := do
  match ← j.fields? ["id", "name", "country"] with
  | [id, name, country] =>
    return {
      id := ← id.required? Json.asInt?
      name := ← name.optional? Json.asString?
      country := ← country.optional? Json.asString? }
  | _ => none

/-- The address and the resolution that a line tells. -/
def readLine? (text : String) : Option (Address × Resolution) := do
  match ← (← Json.ofText? text).fields? ["address", "owner", "created"] with
  | [address, owner, created] =>
    return (← address.required? Json.asAddress?,
      { owner := ← owner.optional? identity?
        created := ← created.required? Json.asBool? })
  | _ => none

theorem identity?_toJson (i : Identity) : identity? i.toJson = some i := by
  have given : i.toJson.fields? ["id", "name", "country"] =
      some [.given (.ofInt i.id), .given (.ofOption .ofString i.name),
        .given (.ofOption .ofString i.country)] := fields?_ofFields (by simp)
  simp [identity?, given, Field.required?, Field.optional?, asInt?_ofInt, nullable?_asString?]

/-- The document that a line is the text of. -/
def document (a : Address) (r : Resolution) : Json :=
  .ofFields (("address", .ofString a.text) :: r.fields)

theorem document_isWritable (a : Address) (r : Resolution) : (document a r).IsWritable := by
  refine ofFields_isWritable ?_
  have created : (Json.bool r.created).IsWritable := by simp [IsWritable, tokens, Token.IsWritable]
  simp [Resolution.fields, ofString_isWritable, ofOption_isWritable Identity.toJson_isWritable,
    created]

theorem readLine?_line (a : Address) (r : Resolution) : readLine? (line a r) = some (a, r) := by
  have read : Json.ofText? (line a r) = some (document a r) := ofText?_text (document_isWritable a r)
  have given : (document a r).fields? ["address", "owner", "created"] =
      some [.given (.ofString a.text), .given (.ofOption Identity.toJson r.owner),
        .given (.bool r.created)] := fields?_ofFields (by simp [Resolution.fields])
  have owner : Field.nullable? identity? (.ofOption Identity.toJson r.owner) = some r.owner :=
    nullable?_ofOption (fun i _ => identity?_toJson i) (by simp [Identity.toJson, ofFields])
  simp [readLine?, read, given, Field.required?, Field.optional?, asAddress?_ofString, owner,
    asBool?]

/-! ## Runs that look alike -/

/-- Two runs differ in nothing but what they log. -/
structure SameButLog {σ ω : Type} (x y : Run σ × ω) : Prop where
  lines : x.1.lines = y.1.lines
  failure : x.1.failure = y.1.failure
  store : x.1.store = y.1.store
  world : x.2 = y.2

namespace SameButLog

variable {σ ω : Type} {x y z : Run σ × ω}

theorem symm (same : SameButLog x y) : SameButLog y x :=
  ⟨same.lines.symm, same.failure.symm, same.store.symm, same.world.symm⟩

theorem trans (same : SameButLog x y) (same' : SameButLog y z) : SameButLog x z :=
  ⟨same.lines.trans same'.lines, same.failure.trans same'.failure, same.store.trans same'.store,
    same.world.trans same'.world⟩

/-- What is printed before, and logged, makes no further difference. -/
theorem after (same : SameButLog x y) (lines : List String) (events events' : List Event) :
    SameButLog (x.1.after lines events, x.2) (y.1.after lines events', y.2) :=
  ⟨congrArg (lines ++ ·) same.lines, same.failure, same.store, same.world⟩

end SameButLog

/-! ## Answers -/

variable {σ ω : Type} [RangeStore σ]

/-- What comes of arguments, from a store and a state of the world on: the addresses that are answered,
each with its resolution, the failure that ends the run, if any, and the store and the world that are
left. -/
inductive Answers (r : Resolver (StateM ω)) :
    List String → σ → ω → List (Address × Resolution) → Option StoreError → σ → ω → Prop
  | done (s : σ) (w : ω) : Answers r [] s w [] none s w
  | skipped {argument : String} {rest : List String} {s s' : σ} {w w' : ω}
      {answers : List (Address × Resolution)} {failure : Option StoreError}
      (other : ∀ a : Address, Blank.trim argument.toList ≠ a.write)
      (later : Answers r rest s w answers failure s' w') :
      Answers r (argument :: rest) s w answers failure s' w'
  | answered {argument : String} {rest : List String} {a : Address} {s s' : σ} {w w' w'' : ω}
      {out : Outcome σ} {resolution : Resolution} {answers : List (Address × Resolution)}
      {failure : Option StoreError} (spelled : Blank.trim argument.toList = a.write)
      (called : r.matchOrCreate a s w = (out, w')) (result : out.result = .ok resolution)
      (later : Answers r rest out.store w' answers failure s' w'') :
      Answers r (argument :: rest) s w ((a, resolution) :: answers) failure s' w''
  | failed {argument : String} {rest : List String} {a : Address} {s : σ} {w w' : ω}
      {out : Outcome σ} {e : StoreError} (spelled : Blank.trim argument.toList = a.write)
      (called : r.matchOrCreate a s w = (out, w')) (result : out.result = .error e) :
      Answers r (argument :: rest) s w [] (some e) out.store w'

theorem address?_eq_some {argument : String} {a : Address} :
    address? argument = some a ↔ Blank.trim argument.toList = a.write := Address.read?_eq_some

theorem address?_eq_none {argument : String} :
    address? argument = none ↔ ∀ a : Address, Blank.trim argument.toList ≠ a.write := by
  rw [Option.eq_none_iff_forall_ne_some]
  exact forall_congr' fun a => not_congr address?_eq_some

/-- The answers are those of the arguments that spell addresses, in their order: of all of them, or up
to the first one that failed. -/
theorem Answers.addresses {r : Resolver (StateM ω)} {arguments : List String} {s s' : σ} {w w' : ω}
    {answers : List (Address × Resolution)} {failure : Option StoreError}
    (answered : Answers r arguments s w answers failure s' w') :
    ∃ unanswered, arguments.filterMap address? = answers.map (·.1) ++ unanswered ∧
      (failure = none ↔ unanswered = []) := by
  induction answered with
  | done s w => exact ⟨[], rfl, by simp⟩
  | skipped other later ih =>
      obtain ⟨unanswered, parts, ended⟩ := ih
      exact ⟨unanswered, by rw [List.filterMap_cons_none (address?_eq_none.mpr other), parts], ended⟩
  | answered spelled called result later ih =>
      obtain ⟨unanswered, parts, ended⟩ := ih
      refine ⟨unanswered, ?_, ended⟩
      rw [List.filterMap_cons_some (address?_eq_some.mpr spelled), parts, List.map_cons,
        List.cons_append]
  | failed spelled called result =>
      exact ⟨_, List.filterMap_cons_some (address?_eq_some.mpr spelled), by simp⟩

/-- An argument makes one call at most, and what comes of the call is settled. -/
theorem call_unique {r : Resolver (StateM ω)} {argument : String} {a a' : Address} {s : σ}
    {w w₁ w₂ : ω} {out₁ out₂ : Outcome σ}
    (spelled : Blank.trim argument.toList = a.write) (spelled' : Blank.trim argument.toList = a'.write)
    (called : r.matchOrCreate a s w = (out₁, w₁)) (called' : r.matchOrCreate a' s w = (out₂, w₂)) :
    a = a' ∧ out₁ = out₂ ∧ w₁ = w₂ := by
  obtain rfl : a = a' := Option.some.inj
    ((address?_eq_some.mpr spelled).symm.trans (address?_eq_some.mpr spelled'))
  exact ⟨rfl, Prod.mk.inj (called.symm.trans called')⟩

/-- What comes of arguments is settled by the store and the world that they meet. -/
theorem Answers.unique {r : Resolver (StateM ω)} {arguments : List String} {s s₁ s₂ : σ}
    {w w₁ w₂ : ω} {answers₁ answers₂ : List (Address × Resolution)}
    {failure₁ failure₂ : Option StoreError}
    (one : Answers r arguments s w answers₁ failure₁ s₁ w₁)
    (other : Answers r arguments s w answers₂ failure₂ s₂ w₂) :
    answers₁ = answers₂ ∧ failure₁ = failure₂ ∧ s₁ = s₂ ∧ w₁ = w₂ := by
  induction one generalizing answers₂ with
  | done s w => cases other; exact ⟨rfl, rfl, rfl, rfl⟩
  | skipped unspelled later ih =>
      cases other with
      | skipped _ later' => exact ih later'
      | answered spelled | failed spelled => exact absurd spelled (unspelled _)
  | answered spelled called result later ih =>
      cases other with
      | skipped unspelled => exact absurd spelled (unspelled _)
      | answered spelled' called' result' later' =>
          obtain ⟨rfl, rfl, rfl⟩ := call_unique spelled spelled' called called'
          obtain rfl := Except.ok.inj (result.symm.trans result')
          obtain ⟨rfl, rest⟩ := ih later'
          exact ⟨rfl, rest⟩
      | failed spelled' called' result' =>
          obtain ⟨rfl, rfl, rfl⟩ := call_unique spelled spelled' called called'
          cases result.symm.trans result'
  | failed spelled called result =>
      cases other with
      | skipped unspelled => exact absurd spelled (unspelled _)
      | answered spelled' called' result' =>
          obtain ⟨rfl, rfl, rfl⟩ := call_unique spelled spelled' called called'
          cases result.symm.trans result'
      | failed spelled' called' result' =>
          obtain ⟨rfl, rfl, rfl⟩ := call_unique spelled spelled' called called'
          obtain rfl := Except.error.inj (result.symm.trans result')
          exact ⟨rfl, rfl, rfl, rfl⟩

/-! ## Runs -/

section

variable {r : Resolver (StateM ω)} {argument : String} {rest : List String} {a : Address} {s : σ}
variable {w w' : ω} {out : Outcome σ}

theorem resolveAll_skipped (other : address? argument = none) :
    resolveAll r (argument :: rest) s w =
      ((resolveAll r rest s w).1.after [] [.skipped argument], (resolveAll r rest s w).2) := by
  rw [resolveAll, other]
  rfl

theorem resolveAll_answered (spelled : address? argument = some a)
    (called : r.matchOrCreate a s w = (out, w')) {resolution : Resolution}
    (result : out.result = .ok resolution) :
    resolveAll r (argument :: rest) s w =
      ((resolveAll r rest out.store w').1.after [line a resolution] out.events,
        (resolveAll r rest out.store w').2) := by
  rw [resolveAll, spelled]
  simp only [bind, StateT.bind, called, result]
  rfl

theorem resolveAll_failed (spelled : address? argument = some a)
    (called : r.matchOrCreate a s w = (out, w')) {e : StoreError} (result : out.result = .error e) :
    resolveAll r (argument :: rest) s w =
      ({ events := out.events, failure := some e, store := out.store }, w') := by
  rw [resolveAll, spelled]
  simp only [bind, StateT.bind, called, result]
  rfl

end

/-- The lines of a run are those of its answers. -/
theorem answers_resolveAll (r : Resolver (StateM ω)) (arguments : List String) (s : σ) (w : ω) :
    let ran := resolveAll r arguments s w
    ∃ answers, Answers r arguments s w answers ran.1.failure ran.1.store ran.2 ∧
      ran.1.lines = answers.map fun (a, resolution) => line a resolution := by
  induction arguments generalizing s w with
  | nil => exact ⟨[], .done s w, rfl⟩
  | cons argument rest ih =>
      cases spelled : address? argument with
      | none =>
          obtain ⟨answers, later, lines⟩ := ih s w
          rw [resolveAll_skipped spelled]
          exact ⟨answers, .skipped (address?_eq_none.mp spelled) later, lines⟩
      | some a =>
          rcases called : r.matchOrCreate a s w with ⟨out, w'⟩
          cases result : out.result with
          | error e =>
              rw [resolveAll_failed spelled called result]
              exact ⟨[], .failed (address?_eq_some.mp spelled) called result, rfl⟩
          | ok resolution =>
              obtain ⟨answers, later, lines⟩ := ih out.store w'
              rw [resolveAll_answered spelled called result]
              refine ⟨(a, resolution) :: answers,
                .answered (address?_eq_some.mp spelled) called result later, ?_⟩
              exact congrArg (line a resolution :: ·) lines

/-- Arguments that spell no address make no difference but to the log. -/
theorem resolveAll_spelling (r : Resolver (StateM ω)) (arguments : List String) (s : σ) (w : ω) :
    SameButLog (resolveAll r (arguments.filter fun argument => (address? argument).isSome) s w)
      (resolveAll r arguments s w) := by
  induction arguments generalizing s w with
  | nil => exact ⟨rfl, rfl, rfl, rfl⟩
  | cons argument rest ih =>
      cases spelled : address? argument with
      | none =>
          rw [List.filter_cons_of_neg (by simp [spelled]), resolveAll_skipped spelled]
          exact (ih s w).trans ⟨rfl, rfl, rfl, rfl⟩
      | some a =>
          rw [List.filter_cons_of_pos (by simp [spelled])]
          rcases called : r.matchOrCreate a s w with ⟨out, w'⟩
          cases result : out.result with
          | error e =>
              rw [resolveAll_failed spelled called result, resolveAll_failed spelled called result]
              exact ⟨rfl, rfl, rfl, rfl⟩
          | ok resolution =>
              rw [resolveAll_answered spelled called result, resolveAll_answered spelled called result]
              exact (ih out.store w').after [line a resolution] out.events out.events

/-- Without a sweep a run is what comes of its arguments; its report is for the log only. -/
theorem run_quiet {config : Config} (quiet : config.sweepEnabled = false)
    (r : Resolver (StateM ω)) (arguments : List String) (s : σ) (w : ω) :
    SameButLog (run config r arguments s w) (resolveAll r arguments s w) := by
  have whole : run config r arguments s w =
      ((report (resolveAll r arguments s w).1).after [] [], (resolveAll r arguments s w).2) := by
    rw [run, quiet]
    rfl
  rw [whole]
  unfold report
  split <;> exact ⟨rfl, rfl, rfl, rfl⟩

/-- **A run is a fold over the arguments that spell addresses.**  Each is answered on the store that the
one before it left, up to the first one that fails; of the others nothing shows.  It prints a
line for each answer, which gives the answer back and has no control in it. -/
theorem run_answers {config : Config} (quiet : config.sweepEnabled = false)
    (r : Resolver (StateM ω)) (arguments : List String) (s : σ) (w : ω) :
    let ran := run config r arguments s w
    (∃ answers, Answers r arguments s w answers ran.1.failure ran.1.store ran.2 ∧
      ran.1.lines = answers.map (fun (a, resolution) => line a resolution) ∧
      ran.1.lines.map readLine? = answers.map some ∧
      ∃ unanswered, arguments.filterMap address? = answers.map (·.1) ++ unanswered ∧
        (ran.1.failure = none ↔ unanswered = [])) ∧
    (∀ text ∈ ran.1.lines, ∀ c ∈ text.toList, 0x20 ≤ c.toNat) ∧
    SameButLog (run config r (arguments.filter fun argument => (address? argument).isSome) s w)
      ran := by
  intro ran
  have resolved := run_quiet quiet r arguments s w
  obtain ⟨answers, answered, lines⟩ := answers_resolveAll r arguments s w
  rw [← resolved.failure, ← resolved.store, ← resolved.world] at answered
  rw [← resolved.lines] at lines
  refine ⟨⟨answers, answered, lines, ?_, answered.addresses⟩, fun text mem c has => ?_, ?_⟩
  · rw [lines, List.map_map]
    exact List.map_congr_left fun (a, resolution) _ => readLine?_line a resolution
  · rw [lines] at mem
    obtain ⟨⟨a, resolution⟩, -, rfl⟩ := List.mem_map.mp mem
    exact le_of_mem_text (document_isWritable a resolution) has
  · have kept := resolveAll_spelling r arguments s w
    exact ((run_quiet quiet r _ s w).trans kept).trans resolved.symm

/-- Of six arguments two spell no address, two are answered from one lookup, and one meets a row that
means no range: what comes after it is not looked at. -/
theorem run_answers_up_to_failure :
    let a : Address := ⟨0x08080808, by decide⟩
    let b : Address := ⟨0x08080809, by decide⟩
    let config : Config := {}
    let r : Resolver (StateM (List Address)) :=
      { settings := settings config
        classify := fun _ => none
        ask := fun a asked =>
          (.record ⟨[{ cidr := some "8.8.8.0/24", description := some "Goo\"gle\x01" }]⟩, a :: asked)
        clock := fun asked => (.least, asked) }
    let s : Durable := ⟨[⟨7, 0x09090909, 0x09090909, none, 0x7FFFFFFFFFFFFFFF⟩], [], 7, 0⟩
    let arguments := ["8.8.8", " 8.8.8.8\n", "", "8.8.8.9", "9.9.9.9", "8.8.8.8"]
    let google : Identity := ⟨1, some "Goo\"gle\x01", none⟩
    let ran := run config r arguments s []
    config.sweepEnabled = false ∧
      ran.1.failure = some (.corrupt (.time 7 0x7FFFFFFFFFFFFFFF)) ∧ ran.2 = [a] ∧
      ran.1.lines = [line a ⟨some google, true⟩, line b ⟨some google, false⟩] ∧
      Answers r arguments s [] [(a, ⟨some google, true⟩), (b, ⟨some google, false⟩)] ran.1.failure
        ran.1.store ran.2 ∧
      (∀ text ∈ ran.1.lines, ∀ c ∈ text.toList, 0x20 ≤ c.toNat) ∧
      SameButLog (run config r [" 8.8.8.8\n", "8.8.8.9", "9.9.9.9", "8.8.8.8"] s []) ran := by
  intro a b config r s arguments google ran
  have quiet : config.sweepEnabled = false := rfl
  let first : Outcome Durable × List Address := r.matchOrCreate a s []
  let second : Outcome Durable × List Address := r.matchOrCreate b first.1.store first.2
  let third : Outcome Durable × List Address :=
    r.matchOrCreate ⟨0x09090909, by decide⟩ second.1.store second.2
  have looked : first.1.result = .ok ⟨some google, true⟩ := by decide
  have cached : second.1.result = .ok ⟨some google, false⟩ := by decide
  have met : third.1.result = .error (.corrupt (.time 7 0x7FFFFFFFFFFFFFFF)) := by decide
  have told : Answers r arguments s [] [(a, ⟨some google, true⟩), (b, ⟨some google, false⟩)]
      (some (.corrupt (.time 7 0x7FFFFFFFFFFFFFFF))) third.1.store third.2 :=
    .skipped (address?_eq_none.mp (by decide)) <|
    .answered (by decide) (Prod.eta first).symm looked <|
    .skipped (address?_eq_none.mp (by decide)) <|
    .answered (by decide) (Prod.eta second).symm cached <|
    .failed (by decide) (Prod.eta third).symm met
  have asked : third.2 = [a] := by decide
  have kept : (arguments.filter fun argument => (address? argument).isSome) =
      [" 8.8.8.8\n", "8.8.8.9", "9.9.9.9", "8.8.8.8"] := by decide
  have whole : run config r arguments s [] = ran := rfl
  obtain ⟨⟨answers, answered, lines, -, -⟩, plain, same⟩ := run_answers quiet r arguments s []
  rw [kept] at same
  -- A run that is not named would be evaluated.
  rw [whole] at answered lines plain same
  obtain ⟨rfl, failure, -, world⟩ := answered.unique told
  exact ⟨quiet, failure, world.trans asked, lines, answered, plain, same⟩

end OwnerCache.CommandLine
