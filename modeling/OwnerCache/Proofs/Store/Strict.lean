/-
# OwnerCache.Proofs.Store.Strict -- units of work that end at the first error

A unit of work is `Strict` if it ends with an error as soon as a reply is one, as
the resolver's own unit is (`commit_strict`).

In a store of rows a request that finds no id left undoes the unit there and
then, and what a unit still asks would take effect at once.  A strict unit asks
nothing more, so for it nothing of this can be told: it comes to what it comes to
on a private copy (`transact_onCopy`).

Requests only ever take ids, and a unit that fails gives back no more than it
took, so a store that has room for ids (`HasRoom`) had it before, whatever the unit
(`hasRoom_of_transact`).
-/
import OwnerCache.Proofs.Store.Undo
import OwnerCache.Resolver.Basic
import OwnerCache.Store.Durable

namespace OwnerCache

set_option autoImplicit false

namespace Work

variable {α β : Type}

/-- After an error nothing is asked any more. -/
inductive Strict : Work α → Prop where
  | done (a : α) : Strict (.done a)
  | fail (e : StoreError) : Strict (.fail e)
  | ask (q : Request) (next : Except StoreError q.Reply → Work α)
      (stops : ∀ e, ∃ e', next (.error e) = .fail e')
      (goesOn : ∀ reply, (next (.ok reply)).Strict) : Strict (.ask q next)

theorem request_strict (q : Request) : (request q).Strict :=
  .ask q _ (fun e => ⟨e, rfl⟩) fun reply => .done reply

theorem Strict.bind {work : Work α} {f : α → Work β} (strict : work.Strict)
    (then_ : ∀ a, (f a).Strict) : (work >>= f).Strict := by
  induction strict with
  | done a => exact then_ a
  | fail e => exact .fail e
  | ask q next stops goesOn ih =>
      refine .ask q _ (fun e => ?_) ih
      obtain ⟨e', stopped⟩ := stops e
      exact ⟨e', by rw [stopped]; rfl⟩

end Work

theorem identify_strict (name country : Option String) : (identify name country).Strict := by
  cases name with
  | none => exact (Work.request_strict _).bind fun _ => .done _
  | some name =>
      refine (Work.request_strict (.findIdentity name country)).bind fun found => ?_
      cases found with
      | none => exact (Work.request_strict _).bind fun _ => .done _
      | some identity => exact .done _

theorem commit_strict (f : Whois.Finding) (now : Instant) : (commit f now).Strict := by
  refine (Work.request_strict (.createRange f.block now)).bind fun placed => ?_
  split
  · refine (identify_strict _ _).bind fun owner => ?_
    exact (Work.request_strict (.attachOwner _ _)).bind fun _ => .done _
  · split
    · exact (Work.request_strict (.getIdentity _)).bind fun _ => .done _
    · exact .done _

namespace Durable

/-- Rolling back what was abandoned gives the store at the start. -/
theorem Draft.rollback_abandon {d : Draft} (active : d.abandoned = false) :
    d.abandon.rollback = d.saved := by
  simp [Draft.abandon, Draft.rollback, active]

/-- A request leaves a draft abandoned, or with the store that the answer leaves. -/
theorem perform_cases (q : Request) (d : Draft) : (perform q d).1 = (answer q d.store).1 ∧
    ((answer q d.store).1 = .error (.backend .full) ∧ (perform q d).2 = d.abandon ∨
      (perform q d).2 = { d with store := (answer q d.store).2 }) := by
  rcases answered : answer q d.store with ⟨reply, store⟩
  by_cases full : reply = .error (.backend .full)
  · subst full
    rw [perform, answered]
    exact ⟨rfl, .inl ⟨rfl, rfl⟩⟩
  · have goesOn : perform q d = (reply, { d with store := store }) := by
      rw [perform, answered]
      split
      · rename_i same
        cases same
        exact absurd rfl full
      · rename_i same
        cases same
        rfl
    rw [goesOn]
    exact ⟨rfl, .inr rfl⟩

theorem perform_ok {q : Request} {d : Draft} {reply : q.Reply} {store : Durable}
    (answered : answer q d.store = (.ok reply, store)) :
    perform q d = (.ok reply, { d with store := store }) := by
  rw [perform, answered]

theorem perform_error {q : Request} {d : Draft} {e : StoreError} {store : Durable}
    (active : d.abandoned = false) (answered : answer q d.store = (.error e, store)) :
    ∃ d', perform q d = (.error e, d') ∧ d'.rollback = d.saved := by
  obtain ⟨reply, left⟩ := perform_cases q d
  rw [answered] at reply left
  refine ⟨(perform q d).2, Prod.ext reply rfl, ?_⟩
  rcases left with ⟨-, abandoned⟩ | goesOn
  · rw [abandoned, Draft.rollback_abandon active]
  · rw [goesOn]
    simp [Draft.rollback, active]

/-- A strict unit goes on only in a draft that is not abandoned. -/
theorem run_perform {α : Type} {work : Work α} (strict : work.Strict) {d : Draft}
    (active : d.abandoned = false) :
    (∃ a store, work.run answer d.store = (.ok a, store) ∧
        work.run perform d = (.ok a, { d with store := store })) ∨
      ∃ e store d', work.run answer d.store = (.error e, store) ∧
        work.run perform d = (.error e, d') ∧ d'.rollback = d.saved := by
  induction strict generalizing d with
  | done a => exact .inl ⟨a, d.store, rfl, rfl⟩
  | fail e => exact .inr ⟨e, d.store, d, rfl, rfl, by simp [Draft.rollback, active]⟩
  | ask q next stops goesOn ih =>
      rcases answered : answer q d.store with ⟨e | reply, store⟩
      · obtain ⟨e', stopped⟩ := stops e
        obtain ⟨d', performed, rollback⟩ := perform_error active answered
        refine .inr ⟨e', store, d', ?_, ?_, rollback⟩
        · simp only [Work.run, answered, stopped]
        · simp only [Work.run, performed, stopped]
      · have rest := ih reply (d := { d with store := store }) active
        simpa only [Work.run, answered, perform_ok answered] using rest

theorem transact_onCopy {α : Type} {work : Work α} (strict : work.Strict) (s : Durable) :
    transact work s = work.onCopy answer s := by
  rcases run_perform strict (d := Draft.begin s) rfl with
    ⟨a, store, onCopy, inPlace⟩ | ⟨e, store, d, onCopy, inPlace, rollback⟩
  · change work.run answer s = _ at onCopy
    rw [transact, Work.onCopy, inPlace, onCopy]
    rfl
  · change work.run answer s = _ at onCopy
    rw [transact, Work.onCopy, inPlace, onCopy]
    exact congrArg _ rollback

/-! ## Room for ids -/

/-- Ids are left, of both kinds. -/
def HasRoom (s : Durable) : Prop := s.lastRangeId < greatestId ∧ s.lastIdentityId < greatestId

theorem hasRoom_of_answer {q : Request} {s : Durable} (room : (answer q s).2.HasRoom) :
    s.HasRoom := by
  unfold HasRoom at *
  cases q with
  | createRange block createdAt =>
      simp only [answer, createRange] at room
      split at room
      · exact room
      · split at room <;> (simp only at room; omega)
  | createIdentity name country =>
      simp only [answer, createIdentity] at room
      split at room
      · exact room
      · simp only at room
        omega
  | attachOwner rangeId ownerId =>
      simp only [answer, attachOwner] at room
      repeat' split at room
      all_goals exact room
  | getIdentity id => exact room
  | findIdentity name country => exact room

/-- Room in a draft was there at its start, whether or not it was abandoned on the way. -/
theorem hasRoom_of_run {α : Type} (work : Work α) {s : Durable} {d : Draft} (saved : d.saved = s)
    (earlier : d.store.HasRoom → s.HasRoom) :
    (work.run perform d).2.saved = s ∧ ((work.run perform d).2.store.HasRoom → s.HasRoom) := by
  induction work generalizing d with
  | done a => exact ⟨saved, earlier⟩
  | fail e => exact ⟨saved, earlier⟩
  | ask q next ih =>
      refine ih (perform q d).1 (d := (perform q d).2) ?_ ?_
      all_goals rcases (perform_cases q d).2 with ⟨-, abandoned⟩ | goesOn
      · rw [abandoned, Draft.abandon]
        split <;> exact saved
      · rwa [goesOn]
      · rw [abandoned, Draft.abandon]
        split
        · exact earlier
        · rw [← saved]
          exact id
      · rw [goesOn]
        exact fun room => earlier (hasRoom_of_answer room)

/-- Room that a unit leaves was there before it. -/
theorem hasRoom_of_transact {α : Type} {work : Work α} {s : Durable}
    (room : (transact work s).2.HasRoom) : s.HasRoom := by
  obtain ⟨saved, earlier⟩ := hasRoom_of_run work (d := Draft.begin s) rfl id
  rw [transact] at room
  rcases ran : work.run perform (Draft.begin s) with ⟨_ | _, d⟩
  all_goals rw [ran] at room saved earlier
  · simp only [Draft.rollback] at room
    split at room
    · exact earlier room
    · change d.saved = s at saved
      rwa [saved] at room
  · exact earlier room

end Durable

end OwnerCache
