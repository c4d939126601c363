/-
# OwnerCache.Proofs.Resolver.Plan -- addresses to resolve, and what is found for them

A `Plan` is a list of addresses, with what the lookup of each would meet.  It `IsApart` if
the addresses are distinct and no address is in the blocks of two findings.  A schedule
carries a plan out if it resolves each address once, with its reply, deletes nothing on the
way, and leaves no call waiting (`IsCarriedOut`).

A call that `Follows` a plan is for one of its addresses and learns what there is to find.
Once it is over it has stored that (`Follows.stored?_eq`), or there was nothing to store:
a call that the cache settled follows the plan only if its lookup would have failed.
-/
import OwnerCache.Proofs.Resolver.History

namespace OwnerCache

set_option autoImplicit false

namespace Schedule

/-! ## Plans -/

/-- Addresses to resolve, each under a policy and with the reply that its lookup would get. -/
structure Plan where
  addresses : List Address
  policy : Address → Policy
  reply : Address → Reply

namespace Plan

variable (p : Plan)

/-- What the lookup of an address finds. -/
def found (a : Address) : Except Whois.Error Whois.Finding := lookedUp (p.policy a) a (p.reply a)

/-- The findings of a plan. -/
def findings : List Whois.Finding := p.addresses.filterMap fun a => (p.found a).toOption

/-- The addresses differ, and no two findings have an address in common. -/
structure IsApart : Prop where
  nodup : p.addresses.Nodup
  blocks : ∀ a ∈ p.addresses, ∀ b ∈ p.addresses, a ≠ b → ∀ f g, p.found a = .ok f →
    p.found b = .ok g → ∀ x ∈ f.block, x ∉ g.block

end Plan

/-- The address that a step begins to resolve. -/
def Step.begun? : Step → Option Address
  | .begin _ a => some a
  | _ => none

/-- A schedule, run from a world without calls, resolves the addresses of a plan, each once. -/
structure Plan.IsCarriedOut {σ : Type} [RangeStore σ] (p : Plan) (w : World σ) (steps : List Step) :
    Prop where
  begun : (steps.filterMap Step.begun?).Perm p.addresses
  policies : ∀ policy a, .begin policy a ∈ steps → policy = p.policy a
  replies : ∀ i reply, .answer i reply ∈ steps →
    ∀ a, (steps.filterMap Step.begun?)[i]? = some a → reply = p.reply a
  sweepless : Sweepless steps
  /-- At the end all calls have returned. -/
  ended : ∀ c ∈ (w.run steps).calls, c.result? ≠ none

/-! ## Calls -/

/-- The finding that a call has stored. -/
def Call.stored? (c : Call) : Option Whois.Finding :=
  match c.progress with
  | .returned (some (.ok f)) _ => some f
  | _ => none

/-- What a call has learned is what there was to find; without a lookup there was nothing. -/
def Progress.Fits (found : Except Whois.Error Whois.Finding) : Progress → Prop
  | .lookingUp _ => True
  | .informed _ learned => learned = found
  | .returned (some learned) _ => learned = found
  | .returned none _ => ∀ f, found ≠ .ok f

/-- The call is on its way in the plan. -/
structure Call.Follows (p : Plan) (c : Call) : Prop where
  policy : c.policy = p.policy c.address
  fits : c.progress.Fits (p.found c.address)

namespace Call

variable {p : Plan} {c : Call}

theorem stored?_begin {σ : Type} [RangeStore σ] (policy : Policy) (a : Address) (s : σ) :
    (Call.begin policy a s).stored? = none := by
  simp only [begin, stored?]
  split
  · rename_i progress
    split at progress <;> simp at progress
  · rfl

theorem stored?_answer (reply : Reply) : (c.answer reply).stored? = c.stored? := by
  unfold answer stored?
  cases progress : c.progress with
  | lookingUp reading => simp
  | informed reading found => simp [progress]
  | returned found result => simp [progress]

theorem address_answer (reply : Reply) : (c.answer reply).address = c.address := by
  unfold answer
  split <;> rfl

theorem Follows.answer (follows : c.Follows p) {reply : Reply} (replied : reply = p.reply c.address) :
    (c.answer reply).Follows p := by
  subst replied
  unfold Call.answer
  split
  · refine ⟨follows.policy, ?_⟩
    change lookedUp c.policy c.address (p.reply c.address) = p.found c.address
    rw [follows.policy]
    rfl
  · exact follows

section Finish

variable {σ : Type} [RangeStore σ] (now : Instant) (s : σ)

theorem address_finish : (c.finish now s).1.address = c.address := by
  unfold finish
  split <;> rfl

theorem stored?_finish_of_none (nothing : c.finding? = none) :
    (c.finish now s).1.stored? = c.stored? := by
  unfold finding? at nothing
  unfold finish stored?
  cases progress : c.progress with
  | lookingUp reading => simp [progress]
  | returned found result => simp [progress]
  | informed reading found =>
      cases found with
      | error cause => simp
      | ok f => simp [progress] at nothing

theorem Follows.finish (follows : c.Follows p) : (c.finish now s).1.Follows p := by
  unfold Call.finish
  split
  · rename_i progress
    have fits := follows.fits
    rw [progress] at fits
    exact ⟨follows.policy, fits⟩
  · exact follows

/-- A call has found what there was to find. -/
theorem Follows.found_eq (follows : c.Follows p) {f : Whois.Finding} (finding : c.finding? = some f) :
    p.found c.address = .ok f := by
  obtain ⟨reading, informed⟩ := finding?_eq_some.mp finding
  have fits := follows.fits
  rw [informed] at fits
  exact Eq.symm fits

theorem stored?_of_finding {f : Whois.Finding} (finding : c.finding? = some f) :
    c.stored? = none ∧ (c.finish now s).1.stored? = some f := by
  have done := finish_of_finding finding now s
  obtain ⟨reading, informed⟩ := finding?_eq_some.mp finding
  refine ⟨by simp [stored?, informed], ?_⟩
  rw [done]
  rfl

end Finish

/-- A call has stored what there was to find. -/
theorem Follows.found_of_stored? (follows : c.Follows p) {f : Whois.Finding}
    (stored : c.stored? = some f) : p.found c.address = .ok f := by
  have fits := follows.fits
  unfold stored? at stored
  split at stored
  · rename_i progress
    rw [progress] at fits
    rw [← Option.some.inj stored]
    exact Eq.symm fits
  · cases stored

/-- A call that is over has stored what there was to find, if there was something. -/
theorem Follows.stored?_eq (follows : c.Follows p) (ended : c.result? ≠ none) :
    c.stored? = (p.found c.address).toOption := by
  have fits := follows.fits
  unfold result? at ended
  unfold stored?
  cases progress : c.progress with
  | lookingUp reading => simp [progress] at ended
  | informed reading found => simp [progress] at ended
  | returned found result =>
      rw [progress] at fits
      cases found with
      | none =>
          cases missed : p.found c.address with
          | error cause => rfl
          | ok f => exact absurd missed (fits f)
      | some learned =>
          obtain rfl : learned = p.found c.address := fits
          cases p.found c.address with
          | error cause => rfl
          | ok f => rfl

end Call

end Schedule

end OwnerCache
