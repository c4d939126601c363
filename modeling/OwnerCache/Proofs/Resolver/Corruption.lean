/-
# OwnerCache.Proofs.Resolver.Corruption -- what rows that mean no range do to calls

A call looks into at most two rows: the one that wins its address, when it reads the cache, and
the one of the block it wants to store.  A defect of either ends the call with an error that says
so; no other row is looked into, and none other can end a call that way
(`matchOrCreate_eq_corrupt_iff`).

The first of the two is looked into before anything is asked: a call that meets a defect there is
over at once, whatever the provider and the clock would have said.  The second is looked into
within the transaction of the call, after an id was taken for it, so the transaction has something
to undo: it gives the id back.

After its request for a range a unit of work only ever fails for want of an id or of a row
(`Refused`), so a defect is never reported from further on.
-/
import OwnerCache.Proofs.Resolver.Containment
import OwnerCache.Proofs.Resolver.Invariant
import OwnerCache.Proofs.Store.Defect

namespace OwnerCache

set_option autoImplicit false

namespace Durable

variable {α β ω : Type} {s : Durable} {a : Address} {d : Defect}

/-! ## Units of work -/

/-- On every store a unit of work ends well or is refused: no defect is reported. -/
def Refused (work : Work α) : Prop :=
  ∀ s e, (work.run answer s).1 = .error e → ∃ cause, e = .backend cause

theorem refused_pure (result : α) : Refused (pure result) := by
  intro s e failed
  cases failed

theorem refused_bind {work : Work α} {f : α → Work β} (first : Refused work)
    (later : ∀ result, Refused (f result)) : Refused (work >>= f) := by
  intro s e failed
  rw [Work.run_bind] at failed
  rcases ran : work.run answer s with ⟨e' | result, s'⟩
  · rw [ran] at failed
    cases failed
    exact first s e (by rw [ran])
  · rw [ran] at failed
    exact later result s' e failed

theorem refused_request {q : Request} (other : ∀ block createdAt, q ≠ .createRange block createdAt) :
    Refused (Work.request q) := by
  intro s e failed
  rw [Work.run_request] at failed
  cases q with
  | createRange block createdAt => exact absurd rfl (other block createdAt)
  | getIdentity id => cases failed
  | findIdentity name country => cases failed
  | createIdentity name country =>
      rw [answer, createIdentity] at failed
      split at failed <;> cases failed
      exact ⟨_, rfl⟩
  | attachOwner rangeId ownerId =>
      rw [answer, attachOwner] at failed
      repeat' split at failed
      all_goals cases failed
      all_goals exact ⟨_, rfl⟩

theorem refused_identify (name country : Option String) : Refused (identify name country) := by
  cases name with
  | none => exact refused_bind (refused_request (by simp)) fun _ => refused_pure _
  | some name =>
      refine refused_bind (refused_request (q := .findIdentity name country) (by simp)) fun known => ?_
      cases known with
      | some identity => exact refused_pure _
      | none => exact refused_bind (refused_request (by simp)) fun _ => refused_pure _

/-- Storing a finding asks for its range first, and after that no defect is reported. -/
theorem exists_commit_eq (f : Whois.Finding) (now : Instant) :
    ∃ rest, commit f now = Work.request (.createRange f.block now) >>= rest ∧
      ∀ placed, Refused (rest placed) := by
  refine ⟨_, rfl, fun placed => ?_⟩
  split
  · refine refused_bind (refused_identify _ _) fun owner => ?_
    exact refused_bind (refused_request (by simp)) fun _ => refused_pure _
  · split
    · exact refused_bind (refused_request (by simp)) fun _ => refused_pure _
    · exact refused_pure _

/-- Storing a finding reports a defect exactly where the row of its block has it. -/
theorem transact_eq_corrupt_iff {f : Whois.Finding} {now : Instant} :
    (s.transact (commit f now)).1 = .error (.corrupt d) ↔
      ∃ row ∈ s.rowFor? f.block now, row.Has d := by
  obtain ⟨rest, parts, refused⟩ := exists_commit_eq f now
  have onCopy : (s.transact (commit f now)).1 = ((commit f now).run answer s).1 := by
    rw [transact_onCopy (commit_strict f now), Work.onCopy]
    rcases (commit f now).run answer s with ⟨_ | _, _⟩ <;> rfl
  rw [onCopy, ← createRange_eq_corrupt_iff, parts, Work.run_bind, Work.run_request, answer]
  rcases createRange f.block now s with ⟨e | placed, s'⟩
  · exact Iff.of_eq (by simp)
  · refine ⟨fun failed => ?_, fun failed => by cases failed⟩
    obtain ⟨cause, same⟩ := refused placed s' _ failed
    cases same

theorem transact_store_of_error {f : Whois.Finding} {now : Instant} {e : StoreError}
    (failed : (s.transact (commit f now)).1 = .error e) : (s.transact (commit f now)).2 = s :=
  Atomic.store_eq (commit_strict f now) (Prod.ext failed rfl)

/-! ## Calls -/

/-- What is found ends a call with an error exactly where it cannot be stored. -/
theorem conclude_eq_error_iff {fallback : Option Identity} {f : Whois.Finding} {now : Instant}
    {e : StoreError} : (conclude a fallback (.ok f) now s).result = .error e ↔
      (s.transact (commit f now)).1 = .error e := by
  rw [Schedule.conclude_result, show RangeStore.transact (commit f now) s = _ from rfl]
  cases (s.transact (commit f now)).1 <;> simp [Except.map]

open Resolver in
/-- A call ends with a defect exactly where a row that it looks into has it. -/
theorem IsTable.matchOrCreate_eq_corrupt_iff (table : s.IsTable) (r : Resolver (StateM ω))
    (w : ω) :
    let looked := r.lookup a w
    (r.matchOrCreate a s w).1.result = .error (.corrupt d) ↔
      (∃ row, s.Wins a row ∧ row.Has d) ∨
        LeftOpen r.settings.acceptedLength s a ∧ ∃ f, looked.1.1 = .ok f ∧
          ∃ row ∈ s.rowFor? f.block (r.clock looked.2).1, row.Has d := by
  have won : (∃ row, s.Wins a row ∧ row.Has d) ↔
      RangeStore.bestMatch s a = .error (.corrupt d) := by
    rw [show RangeStore.bestMatch s a = s.bestMatch a from rfl, table.bestMatch_eq_error_iff]
    constructor
    · rintro ⟨row, wins, defect⟩
      exact ⟨row, d, wins, defect, rfl⟩
    · rintro ⟨row, _, wins, defect, ⟨⟩⟩
      exact ⟨row, wins, defect⟩
  rw [won]
  rcases readCache_cases r.settings.acceptedLength s a with
    ⟨e, broken, read⟩ | ⟨owner, ⟨found, sound⟩, closed, read⟩ |
      ⟨reading, ⟨found, sound⟩, unsettled, read, proper, -⟩
  · have closed : ¬ LeftOpen r.settings.acceptedLength s a := by
      rintro ⟨found, sound, -⟩
      rw [broken] at sound
      cases sound
    simp [matchOrCreate_error read, broken, closed]
  · simp [matchOrCreate_settled read, sound, closed]
  · rw [matchOrCreate_open read proper, goOn]
    simp only [sound, unsettled, reduceCtorEq, true_and, false_or]
    cases found : (r.lookup a w).1.1 with
    | error cause => simp [conclude]
    | ok f =>
        rw [conclude_eq_error_iff, transact_eq_corrupt_iff]
        simp

open Resolver in
/-- A call that fails changes nothing. -/
theorem matchOrCreate_store_of_error (r : Resolver (StateM ω)) {w : ω} {e : StoreError}
    (failed : (r.matchOrCreate a s w).1.result = .error e) : (r.matchOrCreate a s w).1.store = s := by
  rcases readCache_cases r.settings.acceptedLength s a with
    ⟨e', -, read⟩ | ⟨owner, -, -, read⟩ | ⟨reading, -, -, read, proper, -⟩
  · rw [matchOrCreate_error read]
  · rw [matchOrCreate_settled read]
  · rw [matchOrCreate_open read proper] at failed ⊢
    simp only [goOn] at failed ⊢
    cases found : (r.lookup a w).1.1 with
    | error cause => rfl
    | ok f =>
        rw [found, conclude_eq_error_iff] at failed
        rw [Schedule.conclude_store]
        exact transact_store_of_error failed

/-- A call that reads a defect is over, and nobody was asked for anything. -/
theorem matchOrCreate_of_bestMatch {m : Type → Type} [Monad m] (r : Resolver m)
    {e : StoreError} (failed : s.bestMatch a = .error e) :
    r.matchOrCreate a s = pure ⟨.error e, [], s⟩ := by
  have read : readCache r.settings.acceptedLength s a = .error e := by
    rw [readCache, matchAddress, show RangeStore.bestMatch s a = _ from failed]
  rw [Resolver.matchOrCreate, read]

/-- **The harm that a row does ends where it is not looked into.**  Where a row that means no range wins
an address it is reported, and elsewhere it makes no difference.  A call that reads it is over
before anybody is asked; a call ends with a defect for nothing but the row that it reads and the row
of the block that it stores, and leaves the store as it was.  The last part is the storing step of
a call among others. -/
theorem corruption_contained (table : s.IsTable) :
    (∀ row ∈ s.rows, row.IsCorrupt → ∀ a,
      (s.Wins a row → ∃ d, row.Has d ∧ s.bestMatch a = .error (.corrupt d)) ∧
        (¬ s.Wins a row → s.bestMatch a = (s.without row.id).bestMatch a)) ∧
    (∀ a row d, s.Wins a row → row.Has d → ∀ (m : Type → Type) [Monad m] (r : Resolver m),
      r.matchOrCreate a s = pure ⟨.error (.corrupt d), [], s⟩) ∧
    (∀ (ω : Type) (r : Resolver (StateM ω)) a w d,
      let looked := r.lookup a w
      let out := (r.matchOrCreate a s w).1
      (out.result = .error (.corrupt d) ↔
        (∃ row, s.Wins a row ∧ row.Has d) ∨
          Resolver.LeftOpen r.settings.acceptedLength s a ∧ ∃ f, looked.1.1 = .ok f ∧
            ∃ row ∈ s.rowFor? f.block (r.clock looked.2).1, row.Has d) ∧
        (out.result = .error (.corrupt d) → out.store = s)) ∧
    ∀ (c : Schedule.Call) reading f now d, c.progress = .informed reading (.ok f) →
      (∃ row ∈ s.rowFor? f.block now, row.Has d) →
        c.finish now s = ({ c with progress := .returned (some (.ok f)) (.error (.corrupt d)) }, s) := by
  refine ⟨fun row mem corrupt a => ⟨fun wins => ?_, fun loses => ?_⟩,
    fun a row d wins defect m _ r => ?_, fun ω r a w d => ⟨?_, fun failed => ?_⟩,
    fun c reading f now d informed met => ?_⟩
  · obtain ⟨d, defect⟩ := Row.isCorrupt_iff.mp corrupt
    exact ⟨d, defect, table.bestMatch_eq_error_iff.mpr ⟨row, d, wins, defect, rfl⟩⟩
  · exact bestMatch_without table mem loses
  · exact matchOrCreate_of_bestMatch r
      (table.bestMatch_eq_error_iff.mpr ⟨row, d, wins, defect, rfl⟩)
  · exact table.matchOrCreate_eq_corrupt_iff r w
  · exact matchOrCreate_store_of_error r failed
  · have failed := transact_eq_corrupt_iff.mpr met
    have result : (conclude c.address reading.fallback (.ok f) now s).result =
        .error (.corrupt d) := conclude_eq_error_iff.mpr failed
    have store : (conclude c.address reading.fallback (.ok f) now s).store = s := by
      rw [Schedule.conclude_store]
      exact transact_store_of_error failed
    simp only [Schedule.Call.finish, informed, result, store]

/-- The first two of three rows mean no range.  Where the second one is in the way it is reported, where
the third one wins neither makes a difference, and a call that goes on from there to store the block of
the second one fails on it. -/
theorem corruption_contained_row_in_the_way :
    let addr (n : Nat) (below : n < 0x100000000) : Address := ⟨n, below⟩
    let a := addr 0x08080808 (by decide)
    let b := addr 0x08080801 (by decide)
    let vast : Row := ⟨1, -5, 0x7FFFFFFFFFFFFFFA, some 9, 0⟩
    let timeless : Row := ⟨2, 0x08080800, 0x080808FF, none, 0x7FFFFFFFFFFFFFFF⟩
    let sound : Row := ⟨3, 0x08080808, 0x08080809, some 1, 0⟩
    let s : Durable := ⟨[vast, timeless, sound], [⟨1, some "Google", none⟩], 3, 1⟩
    let defect : Defect := .time 2 0x7FFFFFFFFFFFFFFF
    let f : Whois.Finding :=
      ⟨some "Google", none, ⟨addr 0x08080800 (by decide), addr 0x080808FF (by decide)⟩⟩
    let r : Resolver (StateM Nat) :=
      { settings := { acceptedLength := 0 }
        classify := fun _ => none
        ask := fun _ asked =>
          (.record ⟨[{ cidr := some "8.8.8.0/24", description := some "Google" }]⟩, asked + 1)
        clock := fun asked => (.least, asked) }
    let c : Schedule.Call := ⟨⟨r.settings, r.classify⟩, a, .informed .absent (.ok f)⟩
    s.IsTable ∧ (vast.IsCorrupt ∧ ¬ s.Wins a vast ∧ s.bestMatch a = (s.without 1).bestMatch a) ∧
      (timeless.IsCorrupt ∧ ¬ s.Wins a timeless ∧ s.bestMatch a = (s.without 2).bestMatch a) ∧
      (s.Wins b timeless ∧ timeless.Has defect ∧
        r.matchOrCreate b s = pure ⟨.error (.corrupt defect), [], s⟩) ∧
      ((r.matchOrCreate a s 0).1.result = .error (.corrupt defect) ∧
        (r.matchOrCreate a s 0).1.store = s) ∧
      c.finish .least s = ({ c with progress := .returned (some (.ok f)) (.error (.corrupt defect)) }, s) := by
  intro addr a b vast timeless sound s defect f r c
  have table : s.IsTable := ⟨by decide, by decide⟩
  have corrupt : vast.IsCorrupt := .inl fun bound => absurd bound.1 (by decide)
  have untimely : ¬ Instant.IsTime timeless.createdAt := fun timely => absurd timely.2 (by decide)
  have loses : ¬ s.Wins a vast := fun wins => absurd (table.least?_eq_some.mpr wins) (by decide)
  have loses' : ¬ s.Wins a timeless := fun wins => absurd (table.least?_eq_some.mpr wins) (by decide)
  have wins : s.Wins b timeless := table.least?_eq_some.mp (by decide)
  have has : timeless.Has defect := .time untimely
  obtain ⟨rows, read, calls, overlapping⟩ := corruption_contained table
  have met : ∃ row ∈ s.rowFor? f.block .least, row.Has defect := ⟨timeless, by decide, has⟩
  have unsettled : Resolver.LeftOpen 0 s a := by
    refine ⟨some ⟨⟨3, ⟨a, addr 0x08080809 (by decide)⟩, some 1, ⟨0, 0, by decide, by decide, by decide,
      fun leap => absurd leap (by decide)⟩⟩, some ⟨1, some "Google", none⟩⟩, by decide, ?_⟩
    rintro _ ⟨⟩
    decide
  obtain ⟨ends, undone⟩ := calls Nat r a 0 defect
  have failed := ends.mpr (.inr ⟨unsettled, f, by decide, met⟩)
  exact ⟨table, ⟨corrupt, loses, (rows vast (by decide) corrupt a).2 loses⟩,
    ⟨.inr (.inr untimely), loses', (rows timeless (by decide) (.inr (.inr untimely)) a).2 loses'⟩,
    ⟨wins, has, read b timeless defect wins has _ r⟩, ⟨failed, undone failed⟩,
    overlapping c .absent f .least defect rfl met⟩

end Durable

end OwnerCache
