/-
# OwnerCache.Proofs.Resolver.Order -- independent resolutions in any order

If no address is in the blocks of two findings of a plan, then the order in which its
addresses are resolved does not matter.  No call for an address with a finding is settled
by the range of another one, and none meets its block stored already, so each of them adds
its block for its owner (`Tracks.step`); the other calls add nothing.  At the end of a
schedule that carries out the plan the store holds the findings (`run_compact`), in an order
and under numbers of its own, and every identity owns a range.  Such stores are the same but
for their numbers (`sameButNumbers`).

Nothing is refused on the way (`Accepting`), since there are not as many addresses as ids.
Rows also refuse a time that does not come back from its milliseconds.  That is the leap
second after the last second there is, and no other time.
-/
import Mathlib.Data.Fintype.Card
import OwnerCache.Net.Reserved
import OwnerCache.Proofs.Resolver.Plan
import OwnerCache.Proofs.Store.Accept
import OwnerCache.Proofs.Store.Match
import OwnerCache.Proofs.Store.Renumber

namespace OwnerCache

set_option autoImplicit false

/-- What the block of a finding is held for. -/
def Whois.Finding.holding (f : Whois.Finding) : Block × Option (Option String × Option String) :=
  (f.block, some (f.description, f.country))

/-! ## Storing where the block is new -/

namespace Volatile

variable {v v' : Volatile} {f : Whois.Finding} {res : Resolution}

/-- Placing a new range adds its block and the label of its owner. -/
theorem holdings_append (sound : v.Sound) {r : AddressRange} (grows : v.Grows v')
    (ranges : v'.ranges = v.ranges ++ [r]) (owner : v'.holding r = f.holding)
    (h : v.WellFormed) : v'.holdings = v.holdings ++ [f.holding] := by
  have before : v.ranges.map v'.holding = v.ranges.map v.holding := by
    refine List.map_congr_left fun x mem => ?_
    obtain ⟨i, stored, id⟩ := sound.owned x mem
    have known : ∀ id ∈ x.ownerId, v.identity? id ≠ none := by
      rintro _ same
      rw [id] at same
      obtain rfl := Option.some.inj same
      simp [h.identity?_of_mem stored]
    rw [holding, holding, grows.ownerOf known]
  rw [holdings, ranges, List.map_append, before, List.map_singleton, owner, holdings]

theorem Effect.holdings_eq (h : v.WellFormed) (sound : v.Sound) (effect : v.Effect f (.ok res) v')
    (absent : ∀ r ∈ v.ranges, r.block ≠ f.block) : v'.holdings = v.holdings ++ [f.holding] := by
  have grows := effect.grows
  have after := h.effect effect
  cases effect with
  | present range mem same id le => exact absurd same (absent range mem)
  | shared _ owner known time id le =>
      obtain ⟨stored, name, country, -⟩ := mem_of_known? known
      refine holdings_append sound grows rfl ?_ h
      have found := after.identity?_of_mem stored
      simp [holding, ownerOf, found, Whois.Finding.holding, Identity.label, name, country]
  | created _ unknown time id le =>
      refine holdings_append sound grows rfl ?_ h
      have found := after.identity?_of_mem (mem_createIdentity v f)
      exact congrArg (fun i? => (f.block, Option.map Identity.label i?)) found

/-- Whoever is new owns the new range. -/
theorem Effect.owning (effect : v.Effect f (.ok res) v')
    (owning : ∀ i ∈ v.identities, ∃ r ∈ v.ranges, r.ownerId = some i.id) :
    ∀ i ∈ v'.identities, ∃ r ∈ v'.ranges, r.ownerId = some i.id := by
  have kept : ∀ i ∈ v.identities, ∃ r ∈ v'.ranges, r.ownerId = some i.id := fun i mem => by
    obtain ⟨r, stored, id⟩ := owning i mem
    exact ⟨r, effect.grows.ranges.subset stored, id⟩
  cases effect with
  | present range mem same id le => exact kept
  | shared absent owner known time id le => exact kept
  | created absent unknown time id le =>
      intro i mem
      rcases List.mem_append.mp mem with old | new
      · exact kept i old
      · obtain rfl := List.mem_singleton.mp new
        exact ⟨_, List.mem_append_right _ (List.mem_singleton.mpr rfl), rfl⟩

theorem Numbered.wellFormed (numbered : v.Numbered) (sound : v.Sound) : v.WellFormed where
  rangeIds := numbered.ranges.imp fun lt => Int.ne_of_lt lt
  range_le := numbered.range_le
  identityIds := numbered.identities.imp fun lt => Int.ne_of_lt lt
  identity_le := numbered.identity_le
  blocks := sound.blocks

end Volatile

namespace Schedule

/-! ## Lists -/

/-- There are 2^32 addresses. -/
theorem length_le_of_nodup {addresses : List Address} (nodup : addresses.Nodup) :
    addresses.length ≤ 0x100000000 := by
  have once : (addresses.map fun a => (⟨a.value, a.value_lt⟩ : Fin 0x100000000)).Nodup :=
    nodup.map fun a b same => Address.ext (Fin.mk.inj same)
  have bound := once.length_le_card
  rwa [List.length_map, Fintype.card_fin] at bound

theorem map_modify_of_eq {α β : Type} {g : α → β} {change : α → α} (same : ∀ x, g (change x) = g x)
    (xs : List α) (i : Nat) : (xs.modify i change).map g = xs.map g := by
  refine List.ext_getElem? fun j => ?_
  simp only [List.getElem?_map, List.getElem?_modify]
  by_cases here : i = j
  · cases xs[j]? <;> simp [here, same]
  · simp [here]

theorem map_set_of_eq {α β : Type} {g : α → β} {xs : List α} {i : Nat} {x y : α}
    (here : xs[i]? = some x) (same : g y = g x) : (xs.set i y).map g = xs.map g := by
  obtain ⟨within, rfl⟩ := List.getElem?_eq_some_iff.mp here
  rw [List.map_set, same, ← List.map_set, List.set_getElem_self]

/-- What had nothing to add to a list adds what it becomes. -/
theorem filterMap_set_perm {α β : Type} {g : α → Option β} {xs : List α} {i : Nat} {x : α}
    (here : xs[i]? = some x) (nothing : g x = none) (y : α) :
    ((xs.set i y).filterMap g).Perm ((g y).toList ++ xs.filterMap g) := by
  induction xs generalizing i with
  | nil => simp at here
  | cons z zs ih =>
      cases i with
      | zero =>
          obtain rfl : z = x := by simpa using here
          rw [List.set_cons_zero, List.filterMap_cons_none nothing]
          cases added : g y with
          | none => rw [List.filterMap_cons_none added]; exact .refl _
          | some b => rw [List.filterMap_cons_some added]; exact .refl _
      | succ i =>
          have rest := ih (i := i) (by simpa using here)
          rw [List.set_cons_succ]
          cases kept : g z with
          | none => rwa [List.filterMap_cons_none kept, List.filterMap_cons_none kept]
          | some b =>
              rw [List.filterMap_cons_some kept, List.filterMap_cons_some kept]
              exact (rest.cons b).trans List.perm_middle.symm

/-! ## Worlds -/

/-- The findings that the calls of a world have stored, in the order the calls began. -/
def World.stored {σ : Type} (w : World σ) : List Whois.Finding := w.calls.filterMap Call.stored?

theorem World.stored_congr {σ : Type} {w w' : World σ}
    (same : w'.calls.map Call.stored? = w.calls.map Call.stored?) : w'.stored = w.stored := by
  have each : ∀ u : World σ, u.stored = (u.calls.map Call.stored?).filterMap id := fun u => by
    rw [List.filterMap_map]
    rfl
  rw [each, each, same]

theorem filterMap_begun_cons (step : Step) (steps : List Step) :
    (step :: steps).filterMap Step.begun? = step.begun?.toList ++ steps.filterMap Step.begun? := by
  cases begun : step.begun? with
  | none => rw [List.filterMap_cons_none begun]; rfl
  | some a => rw [List.filterMap_cons_some begun]; rfl

section

variable {σ : Type} [RangeStore σ]

/-- What a call with a finding adds is the finding. -/
theorem World.stored_finish {w : World σ} {i : Nat} {c : Call} (called : w.calls[i]? = some c)
    {f : Whois.Finding} (finding : c.finding? = some f) (now : Instant) :
    (w.step (.finish i now)).stored.Perm (f :: w.stored) := by
  obtain ⟨unstored, done⟩ := Call.stored?_of_finding now w.store finding
  have set := filterMap_set_perm called unstored (c.finish now w.store).1
  rw [done, Option.toList_some, List.singleton_append] at set
  simpa only [World.stored, World.step, called] using set

/-- A call is added by the step that begins it, and no step changes whom a call is for. -/
theorem addresses_step (w : World σ) (step : Step) :
    (w.step step).calls.map Call.address = w.calls.map Call.address ++ step.begun?.toList := by
  cases step with
  | begin policy a =>
      have address : (Call.begin policy a w.store).address = a := rfl
      simp [World.step, Step.begun?, address]
  | answer i reply =>
      simpa [World.step, Step.begun?] using
        map_modify_of_eq (fun _ => Call.address_answer reply) w.calls i
  | finish i now =>
      cases called : w.calls[i]? with
      | none => simp [World.step, Step.begun?, called]
      | some c =>
          simpa [World.step, Step.begun?, called] using
            map_set_of_eq called (Call.address_finish now w.store)
  | sweep ttl now => simp [World.step, Step.begun?]
  | look a => simp [World.step, Step.begun?]

end

/-! ## On the way -/

variable {σ : Type} [RangeStore σ] [Accepting σ]

open Legible Meaningful

/-- The world is on the way of a plan, with some addresses to go. -/
structure Tracks (p : Plan) (w : World σ) (v : Volatile) (rest : List Address) : Prop where
  means : Means w.store v
  numbered : v.Numbered
  sound : v.Sound
  owning : ∀ i ∈ v.identities, ∃ r ∈ v.ranges, r.ownerId = some i.id
  holdings : v.holdings.Perm (w.stored.map Whois.Finding.holding)
  follows : ∀ c ∈ w.calls, c.Follows p
  due : (w.calls.map Call.address ++ rest).Perm p.addresses
  spent : Accepting.Spent w.store w.stored.length

namespace Tracks

variable {p : Plan} {w : World σ} {v : Volatile} {a : Address} {rest : List Address}

/-- A step that begins a call takes its address from those to go. -/
theorem due_step (step : Step) (tracks : Tracks p w v (step.begun?.toList ++ rest)) :
    ((w.step step).calls.map Call.address ++ rest).Perm p.addresses := by
  rw [addresses_step, List.append_assoc]
  exact tracks.due

/-- Every range has the block of a finding that another call has stored. -/
theorem exists_call (tracks : Tracks p w v rest) {r : AddressRange} (mem : r ∈ v.ranges) :
    ∃ c ∈ w.calls, ∃ f, c.stored? = some f ∧ p.found c.address = .ok f ∧ f.block = r.block := by
  have held : v.holding r ∈ w.stored.map Whois.Finding.holding :=
    tracks.holdings.subset (List.mem_map_of_mem mem)
  obtain ⟨f, mem, same⟩ := List.mem_map.mp held
  obtain ⟨c, called, stored⟩ := List.mem_filterMap.mp mem
  exact ⟨c, called, f, stored, (tracks.follows c called).found_of_stored? stored,
    (Prod.mk.inj same).1⟩

/-- The ranges of other addresses are apart from the block of a finding. -/
theorem apart (tracks : Tracks p w v rest) (apart : p.IsApart) {a : Address} {f : Whois.Finding}
    (planned : a ∈ p.addresses) (found : p.found a = .ok f)
    (others : ∀ c ∈ w.calls, c.stored? ≠ none → c.address ≠ a) :
    ∀ r ∈ v.ranges, a ∉ r.block := by
  intro r mem
  obtain ⟨c, called, g, stored, found', same⟩ := tracks.exists_call mem
  have other : a ≠ c.address := fun equal => others c called (by simp [stored]) equal.symm
  have planned' : c.address ∈ p.addresses :=
    tracks.due.subset (List.mem_append_left _ (List.mem_map_of_mem called))
  rw [← same]
  exact apart.blocks a planned c.address planned' other f g found found' a
    (mem_block_of_lookedUp found)

/-- A call begins without knowing anything, or is settled by a range that holds its address. -/
theorem begin (tracks : Tracks p w v (a :: rest)) (apart : p.IsApart) :
    Tracks p (w.step (.begin (p.policy a) a)) v rest := by
  have once := (tracks.due.nodup_iff.mpr apart.nodup)
  have planned : a ∈ p.addresses := tracks.due.subset (by simp)
  have new : ∀ c ∈ w.calls, c.address ≠ a := by
    rintro c mem rfl
    have disjoint := (List.nodup_append.mp once).2.2
    exact disjoint c.address (List.mem_map_of_mem mem) c.address List.mem_cons_self rfl
  have same : (w.step (.begin (p.policy a) a)).stored = w.stored := by
    simp [World.stored, World.step, List.filterMap_append, Call.stored?_begin]
  refine ⟨tracks.means, tracks.numbered, tracks.sound, tracks.owning, same ▸ tracks.holdings,
    fun c mem => ?_, due_step (.begin (p.policy a) a) tracks, same ▸ tracks.spent⟩
  rcases List.mem_append.mp mem with old | mem
  · exact tracks.follows c old
  · obtain rfl := List.mem_singleton.mp mem
    refine ⟨rfl, ?_⟩
    simp only [Call.begin, readCache_eq tracks.means]
    cases reading : v.reading (p.policy a).settings.acceptedLength a with
    | settled owner =>
        intro f found
        obtain ⟨r, stored, holds, -⟩ := Volatile.settled_of_reading reading
        exact tracks.apart apart planned found (fun c called _ => new c called) r stored holds
    | tooBroad owner length => trivial
    | absent => trivial

theorem answer (tracks : Tracks p w v rest) {i : Nat} {reply : Reply}
    (replied : ∀ c, w.calls[i]? = some c → reply = p.reply c.address) :
    Tracks p (w.step (.answer i reply)) v rest := by
  have same : (w.step (.answer i reply)).stored = w.stored :=
    World.stored_congr (map_modify_of_eq (fun _ => Call.stored?_answer reply) w.calls i)
  refine ⟨tracks.means, tracks.numbered, tracks.sound, tracks.owning, same ▸ tracks.holdings,
    fun c mem => ?_, due_step (.answer i reply) tracks, same ▸ tracks.spent⟩
  obtain ⟨j, called⟩ := List.getElem?_of_mem mem
  simp only [World.step, List.getElem?_modify] at called
  obtain ⟨c', before, rfl⟩ := Option.map_eq_some_iff.mp called
  have follows := tracks.follows c' (List.mem_of_getElem? before)
  by_cases here : i = j
  · subst here
    simpa using follows.answer (replied c' before)
  · simpa [here] using follows

/-- A call without a finding ends and adds nothing. -/
theorem finish_of_none (tracks : Tracks p w v rest) {i : Nat} {c : Call}
    (called : w.calls[i]? = some c) (nothing : c.finding? = none) (now : Instant) :
    Tracks p (w.step (.finish i now)) v rest := by
  have after : w.step (.finish i now) = ⟨w.store, w.calls.set i (c.finish now w.store).1⟩ := by
    simp only [World.step, called, Call.finish_store_of_none nothing]
  have same : World.stored ⟨w.store, w.calls.set i (c.finish now w.store).1⟩ = w.stored :=
    World.stored_congr (map_set_of_eq called (Call.stored?_finish_of_none now w.store nothing))
  have due := due_step (.finish i now) tracks
  rw [after] at due ⊢
  refine ⟨tracks.means, tracks.numbered, tracks.sound, tracks.owning, same ▸ tracks.holdings,
    fun c' mem => ?_, due, same ▸ tracks.spent⟩
  rcases List.mem_or_eq_of_mem_set mem with old | rfl
  · exact tracks.follows c' old
  · exact (tracks.follows c (List.mem_of_getElem? called)).finish now w.store

/-- There are not as many addresses as ids. -/
theorem left (tracks : Tracks p w v rest) (apart : p.IsApart) :
    (w.stored.length : Int) < Durable.greatestId := by
  have stored : w.stored.length ≤ w.calls.length := List.length_filterMap_le _ _
  have called : w.calls.length ≤ p.addresses.length := by
    have due := tracks.due.length_eq
    rw [List.length_append, List.length_map] at due
    omega
  have planned := length_le_of_nodup apart.nodup
  unfold Durable.greatestId
  omega

/-- A call with a finding adds its block, for its owner. -/
theorem finish_of_finding (tracks : Tracks p w v rest) (apart : p.IsApart) {i : Nat} {c : Call}
    (called : w.calls[i]? = some c) {f : Whois.Finding} (finding : c.finding? = some f)
    {now : Instant} (timely : Accepting.Timely σ now) :
    ∃ v', Tracks p (w.step (.finish i now)) v' rest := by
  have mem : c ∈ w.calls := List.mem_of_getElem? called
  have follows := tracks.follows c mem
  have found : p.found c.address = .ok f := follows.found_eq finding
  have once : (w.calls.map Call.address).Nodup :=
    (List.nodup_append.mp (tracks.due.nodup_iff.mpr apart.nodup)).1
  obtain ⟨unstored, -⟩ := Call.stored?_of_finding now w.store finding
  have others : ∀ c' ∈ w.calls, c'.stored? ≠ none → c'.address ≠ c.address := by
    intro c' called' stored same
    rw [List.inj_on_of_nodup_map once called' mem same] at stored
    exact stored unstored
  have planned : c.address ∈ p.addresses :=
    tracks.due.subset (List.mem_append_left _ (List.mem_map_of_mem mem))
  have absent : ∀ r ∈ v.ranges, r.block ≠ f.block := fun r stored same =>
    tracks.apart apart planned found others r stored (same ▸ mem_block_of_lookedUp found)
  obtain ⟨⟨committed, ok⟩, spent⟩ :=
    Accepting.transact_ok tracks.means tracks.numbered tracks.spent (tracks.left apart) f now timely
  obtain ⟨v', stored, means⟩ :=
    Meaningful.transact tracks.means tracks.numbered.range_le f now
  have effect := stored.effect
  rw [ok] at effect
  have h := tracks.numbered.wellFormed tracks.sound
  have added := World.stored_finish called finding now
  have store : (w.step (.finish i now)).store = (RangeStore.transact (commit f now) w.store).2 := by
    simp only [World.step, called, Call.finish_of_finding finding]
  refine ⟨v', store ▸ means, numbered_stored tracks.numbered stored, ?_, effect.owning tracks.owning,
    ?_, fun c' mem' => ?_, due_step (.finish i now) tracks, ?_⟩
  · exact sound_kept.stored tracks.numbered tracks.sound ⟨_, _, _, trivial, found⟩ stored
  · rw [effect.holdings_eq h tracks.sound absent]
    have both := (tracks.holdings.append_right [f.holding]).trans (List.perm_append_singleton _ _)
    exact both.trans (added.map Whois.Finding.holding).symm
  · simp only [World.step, called] at mem'
    rcases List.mem_or_eq_of_mem_set mem' with old | rfl
    · exact tracks.follows c' old
    · exact follows.finish now w.store
  · rw [store, added.length_eq]
    exact spent

/-- Every step of a schedule goes on with the plan. -/
theorem step {step : Step} (tracks : Tracks p w v (step.begun?.toList ++ rest)) (apart : p.IsApart)
    (policies : ∀ policy a, step = .begin policy a → policy = p.policy a)
    (replies : ∀ i reply, step = .answer i reply → ∀ c, w.calls[i]? = some c →
      reply = p.reply c.address)
    (unswept : ∀ ttl now, step ≠ .sweep ttl now)
    (timely : ∀ i now, step = .finish i now → Accepting.Timely σ now) :
    ∃ v', Tracks p (w.step step) v' rest := by
  cases step with
  | begin policy a =>
      obtain rfl := policies policy a rfl
      exact ⟨v, tracks.begin apart⟩
  | answer i reply => exact ⟨v, tracks.answer (replies i reply rfl)⟩
  | finish i now =>
      change Tracks p w v rest at tracks
      cases called : w.calls[i]? with
      | none => exact ⟨v, by simpa only [World.step, called] using tracks⟩
      | some c =>
          cases finding : c.finding? with
          | none => exact ⟨v, tracks.finish_of_none called finding now⟩
          | some f => exact tracks.finish_of_finding apart called finding (timely i now rfl)
  | sweep ttl now => exact absurd rfl (unswept ttl now)
  | look a => exact ⟨v, tracks⟩

/-- A schedule goes through a plan to its end. -/
theorem run {steps : List Step} (tracks : Tracks p w v (steps.filterMap Step.begun?))
    (apart : p.IsApart) (policies : ∀ policy a, .begin policy a ∈ steps → policy = p.policy a)
    (replies : ∀ i reply, .answer i reply ∈ steps →
      ∀ a, (w.calls.map Call.address ++ steps.filterMap Step.begun?)[i]? = some a →
        reply = p.reply a)
    (sweepless : Sweepless steps)
    (timely : ∀ i now, .finish i now ∈ steps → Accepting.Timely σ now) :
    ∃ v', Tracks p (w.run steps) v' [] := by
  induction steps generalizing w v with
  | nil => exact ⟨v, tracks⟩
  | cons step steps ih =>
      rw [filterMap_begun_cons] at tracks
      obtain ⟨v', tracks'⟩ := tracks.step apart
        (fun policy a same => policies policy a (by simp [same]))
        (fun i reply same c called => replies i reply (by simp [same]) c.address (by
          have here : (w.calls.map Call.address)[i]? = some c.address := by simp [called]
          rw [List.getElem?_append_left (List.getElem?_eq_some_iff.mp here).1, here]))
        sweepless.head (fun i now same => timely i now (by simp [same]))
      refine ih tracks' (fun policy a mem => policies policy a (by simp [mem]))
        (fun i reply mem a here => replies i reply (by simp [mem]) a ?_) sweepless.tail
        fun i now mem => timely i now (by simp [mem])
      rw [filterMap_begun_cons, ← List.append_assoc, ← addresses_step]
      exact here

end Tracks

/-! ## The end of a schedule -/

/-- A schedule that carries out a plan stores its findings, each for its owner, in some order. -/
theorem run_compact {p : Plan} (apart : p.IsApart) {w : World σ} (empty : Means w.store {})
    (unspent : Accepting.Spent w.store 0) (idle : w.calls = []) {steps : List Step}
    (out : p.IsCarriedOut w steps)
    (timely : ∀ i now, .finish i now ∈ steps → Accepting.Timely σ now) :
    ∃ v, Means (w.run steps).store v ∧ v.Compact ∧
      v.holdings.Perm (p.findings.map Whois.Finding.holding) := by
  have start : Tracks p w {} (steps.filterMap Step.begun?) := by
    refine ⟨empty, Volatile.numbered_empty, .empty, by simp, ?_, by simp [idle], ?_, ?_⟩
    · simp [World.stored, idle, Volatile.holdings]
    · simpa [idle] using out.begun
    · simpa [World.stored, idle] using unspent
  obtain ⟨v, tracks⟩ := start.run apart out.policies (by simpa [idle] using out.replies)
    out.sweepless timely
  refine ⟨v, tracks.means, ⟨tracks.numbered.wellFormed tracks.sound, tracks.sound, tracks.owning⟩, ?_⟩
  have all : (w.run steps).stored =
      ((w.run steps).calls.map Call.address).filterMap fun a => (p.found a).toOption := by
    rw [List.filterMap_map]
    exact List.filterMap_congr fun c mem => (tracks.follows c mem).stored?_eq (out.ended c mem)
  have due : ((w.run steps).calls.map Call.address).Perm p.addresses := by simpa using tracks.due
  refine tracks.holdings.trans (List.Perm.map _ ?_)
  rw [all]
  exact due.filterMap _

/-- Two stores at the end of one plan: what they hold are its findings, and they are the same but
for their numbers. -/
structure Orderless {σ τ : Type} [RangeStore σ] [Legible σ] [RangeStore τ] [Legible τ] (p : Plan)
    (s : σ) (t : τ) : Prop where
  held : ((ranges s).map fun r => (r.block, (ownerOf s r).map Identity.label)).Perm
    (p.findings.map Whois.Finding.holding)
  owners : OwnersMatch s
  same : SameButNumbers s t

theorem orderless_of_compact {σ τ : Type} [RangeStore σ] [Legible σ] [RangeStore τ] [Legible τ]
    {p : Plan} {s : σ} {t : τ}
    (hs : ∃ v, Means s v ∧ v.Compact ∧ v.holdings.Perm (p.findings.map Whois.Finding.holding))
    (ht : ∃ v, Means t v ∧ v.Compact ∧ v.holdings.Perm (p.findings.map Whois.Finding.holding)) :
    Orderless p s t := by
  obtain ⟨v, means, compact, held⟩ := hs
  obtain ⟨v', means', compact', held'⟩ := ht
  refine ⟨?_, ownersMatch means compact,
    sameButNumbers means means' compact compact' (held.trans held'.symm)⟩
  simp only [ranges_eq means, ownerOf_eq means]
  exact held

/-- No call finishes in a leap second after the last second there is. -/
def BeforeTheEnd (steps : List Step) : Prop :=
  ∀ i now, .finish i now ∈ steps → now.IsLeap → now.seconds ≠ Instant.greatestSecond

theorem inMemory_compact {p : Plan} (apart : p.IsApart) {steps : List Step}
    (out : p.IsCarriedOut ⟨({} : Volatile), []⟩ steps) :
    ∃ v, Means (inMemory steps).store v ∧ v.Compact ∧
      v.holdings.Perm (p.findings.map Whois.Finding.holding) :=
  run_compact apart (rfl : Means ({} : Volatile) {}) trivial rfl out fun _ _ _ => trivial

theorem asRows_compact {p : Plan} (apart : p.IsApart) {steps : List Step}
    (out : p.IsCarriedOut ⟨({} : Durable), []⟩ steps) (early : BeforeTheEnd steps) :
    ∃ v, Means (asRows steps).store v ∧ v.Compact ∧
      v.holdings.Perm (p.findings.map Whois.Finding.holding) := by
  have unspent : Accepting.Spent ({} : Durable) 0 := ⟨Int.le_refl 0, Int.le_refl 0⟩
  exact run_compact apart Durable.means_empty unspent rfl out fun i now mem =>
    Instant.ofMillis?_millis_ne_none (early i now mem)

/-- **The order of independent resolutions does not matter**: two schedules that carry out one plan,
in memory or as rows, end in stores that hold the findings of the plan, each for its owner, and are
the same but for their numbers. -/
theorem run_orderless {p : Plan} (apart : p.IsApart) {steps steps' : List Step} :
    (p.IsCarriedOut ⟨({} : Volatile), []⟩ steps → p.IsCarriedOut ⟨({} : Volatile), []⟩ steps' →
      Orderless p (inMemory steps).store (inMemory steps').store) ∧
    (p.IsCarriedOut ⟨({} : Durable), []⟩ steps → p.IsCarriedOut ⟨({} : Durable), []⟩ steps' →
      BeforeTheEnd steps → BeforeTheEnd steps' →
      Orderless p (asRows steps).store (asRows steps').store) := by
  constructor
  · intro out out'
    exact orderless_of_compact (inMemory_compact apart out) (inMemory_compact apart out')
  · intro out out' early early'
    exact orderless_of_compact (asRows_compact apart out early) (asRows_compact apart out' early')

/-- Two networks have one owner, the owner of a third has no name, one address is special, and about
a neighbour in the first network the provider is silent.  By turns the neighbour comes first and
nothing is found for it.  With overlaps the owners come in another order, and the neighbour comes
last and is known from the cache. -/
theorem run_orderless_overlapping :
    let policy : Policy := ⟨{}, Reserved.name?⟩
    let answer (cidr : String) (name : Option String) : Reply :=
      .record ⟨[{ cidr := some cidr, description := name, country := some "US" }]⟩
    let reply (a : Address) : Reply :=
      if a.value = 0x08080808 then answer "8.8.8.0/24" (some "Google")
      else if a.value = 0x09090909 then answer "9.9.9.0/24" (some "Google")
      else if a.value = 0x01010101 then answer "1.1.1.0/24" none
      else .silence
    let neighbour : Address := ⟨0x08080809, by decide⟩
    let google : Address := ⟨0x08080808, by decide⟩
    let other : Address := ⟨0x09090909, by decide⟩
    let nameless : Address := ⟨0x01010101, by decide⟩
    let loopback : Address := ⟨0x7F000001, by decide⟩
    let p : Plan := ⟨[neighbour, google, other, nameless, loopback], fun _ => policy, reply⟩
    let steps : List Step :=
      [.begin policy neighbour, .answer 0 (reply neighbour), .finish 0 .least,
        .begin policy google, .answer 1 (reply google), .finish 1 .least,
        .begin policy other, .answer 2 (reply other), .finish 2 .least,
        .begin policy nameless, .answer 3 (reply nameless), .finish 3 .least,
        .begin policy loopback, .answer 4 (reply loopback), .finish 4 .least]
    let steps' : List Step :=
      [.begin policy google, .begin policy loopback, .begin policy other, .begin policy nameless,
        .answer 3 (reply nameless), .answer 1 (reply loopback), .finish 3 .least,
        .answer 2 (reply other), .answer 0 (reply google), .finish 1 .least, .finish 2 .least,
        .finish 0 .least, .begin policy neighbour, .answer 4 (reply neighbour), .finish 4 .least]
    p.IsApart ∧
      p.IsCarriedOut ⟨({} : Volatile), []⟩ steps ∧ p.IsCarriedOut ⟨({} : Volatile), []⟩ steps' ∧
      p.IsCarriedOut ⟨({} : Durable), []⟩ steps ∧ p.IsCarriedOut ⟨({} : Durable), []⟩ steps' ∧
      BeforeTheEnd steps ∧ BeforeTheEnd steps' ∧
      Orderless p (inMemory steps).store (inMemory steps').store ∧
      Orderless p (asRows steps).store (asRows steps').store ∧
      (inMemory steps).store.identities.map (·.name) = [some "Google", none, some "Loopback"] ∧
      (inMemory steps').store.identities.map (·.name) = [none, some "Loopback", some "Google"] := by
  intro policy answer reply neighbour google other nameless loopback p steps steps'
  have apart : p.IsApart := by
    -- What is found for an address is in its network of class A, and nothing else is.
    have networks : ∀ a ∈ p.addresses, ∀ f ∈ (p.found a).toOption,
        f.block.first.value / 0x1000000 = a.value / 0x1000000 ∧
          f.block.last.value / 0x1000000 = a.value / 0x1000000 := by decide
    have within : ∀ a ∈ p.addresses, ∀ f, p.found a = .ok f → ∀ x ∈ f.block,
        x.value / 0x1000000 = a.value / 0x1000000 := by
      rintro a mem f found x ⟨least, greatest⟩
      obtain ⟨first, last⟩ := networks a mem f (by simp [found, Except.toOption])
      simp only [Address.le_def] at least greatest
      omega
    have alone : ∀ a ∈ p.addresses, ∀ b ∈ p.addresses, a ≠ b → (p.found a).toOption ≠ none →
        (p.found b).toOption ≠ none → a.value / 0x1000000 ≠ b.value / 0x1000000 := by decide
    refine ⟨by decide, fun a mem b mem' apart f g found found' x here there => ?_⟩
    refine alone a mem b mem' apart (by simp [found, Except.toOption])
      (by simp [found', Except.toOption]) ?_
    rw [← within a mem f found x here, within b mem' g found' x there]
  have policies : ∀ q a, .begin q a ∈ steps → q = p.policy a := by
    simp [steps, p, or_imp, forall_and]
  have policies' : ∀ q a, .begin q a ∈ steps' → q = p.policy a := by
    simp [steps', p, or_imp, forall_and]
  have begun : steps.filterMap Step.begun? = [neighbour, google, other, nameless, loopback] := rfl
  have begun' : steps'.filterMap Step.begun? = [google, loopback, other, nameless, neighbour] := rfl
  have replies : ∀ i r, .answer i r ∈ steps → ∀ a, (steps.filterMap Step.begun?)[i]? = some a →
      r = p.reply a := by
    simp [begun, p, steps, or_imp, forall_and]
  have replies' : ∀ i r, .answer i r ∈ steps' → ∀ a, (steps'.filterMap Step.begun?)[i]? = some a →
      r = p.reply a := by
    simp [begun', p, steps', or_imp, forall_and]
  have sweepless : Sweepless steps := by simp [Sweepless, steps]
  have sweepless' : Sweepless steps' := by simp [Sweepless, steps']
  have least : ¬ Instant.least.IsLeap := by decide
  have early : BeforeTheEnd steps := by simp [BeforeTheEnd, steps, or_imp, forall_and, least]
  have early' : BeforeTheEnd steps' := by simp [BeforeTheEnd, steps', or_imp, forall_and, least]
  have memory : p.IsCarriedOut ⟨({} : Volatile), []⟩ steps :=
    ⟨by decide, policies, replies, sweepless, by decide⟩
  have memory' : p.IsCarriedOut ⟨({} : Volatile), []⟩ steps' :=
    ⟨by decide, policies', replies', sweepless', by decide⟩
  have rows : p.IsCarriedOut ⟨({} : Durable), []⟩ steps :=
    ⟨by decide, policies, replies, sweepless, by decide⟩
  have rows' : p.IsCarriedOut ⟨({} : Durable), []⟩ steps' :=
    ⟨by decide, policies', replies', sweepless', by decide⟩
  exact ⟨apart, memory, memory', rows, rows', early, early', (run_orderless apart).1 memory memory',
    (run_orderless apart).2 rows rows' early early', by decide, by decide⟩

end Schedule

end OwnerCache
