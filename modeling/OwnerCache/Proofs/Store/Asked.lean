/-
# OwnerCache.Proofs.Store.Asked -- what a store was asked, and what it replied

The transcript of a unit of work has its requests with their replies.  `Work.run_keeps` packs the
induction over a unit: what every request keeps, of the state and of the record so far, the unit
keeps.  A strict unit that ends well was refused nothing (`Work.Strict.replies_ok`).

`Work.createdAt log` reads the times off a record that ranges were asked to be created at, by the
ids that they were given.  An id that comes back, after the unit that took it first has failed,
has the time of the range that it was given to last.
-/
import OwnerCache.Proofs.Store.Strict

namespace OwnerCache.Work

set_option autoImplicit false

variable {α υ : Type}

/-! ## Along a unit of work -/

/-- What every request keeps, with its reply on record, a unit of work keeps. -/
theorem run_keeps {perform : Perform υ} {allowed : Asked → Prop} {Inv : List Asked → υ → Prop}
    (keeps : ∀ log u q, Inv log u → allowed ⟨q, (perform q u).1⟩ →
      Inv (log ++ [⟨q, (perform q u).1⟩]) (perform q u).2)
    (work : Work α) {log : List Asked} {u : υ} (inv : Inv log u)
    (all : ∀ asked ∈ work.transcript perform u, allowed asked) :
    Inv (log ++ work.transcript perform u) (work.run perform u).2 := by
  induction work generalizing log u with
  | done a => simpa [transcript, run] using inv
  | fail e => simpa [transcript, run] using inv
  | ask q next ih =>
      have asked : Inv (log ++ [⟨q, (perform q u).1⟩]) (perform q u).2 :=
        keeps log u q inv (all _ List.mem_cons_self)
      have rest := ih (perform q u).1 asked fun asked mem => all asked (List.mem_cons_of_mem _ mem)
      simpa [transcript, run] using rest

/-- A unit that stops at the first error, and ends well, has met none. -/
theorem Strict.replies_ok {perform : Perform υ} {work : Work α} (strict : work.Strict) {u : υ}
    {a : α} (ended : (work.run perform u).1 = .ok a) :
    ∀ asked ∈ work.transcript perform u, ∃ reply, asked.reply = .ok reply := by
  induction strict generalizing u with
  | done b => simp [transcript]
  | fail e => simp [transcript]
  | ask q next stops goesOn ih =>
      cases answered : (perform q u).1 with
      | error e =>
          obtain ⟨e', stopped⟩ := stops e
          simp [run, answered, stopped] at ended
      | ok reply =>
          simp only [run, answered] at ended
          simp only [transcript, answered]
          exact List.forall_mem_cons.mpr ⟨⟨reply, rfl⟩, ih reply ended⟩

/-! ## Times of creation -/

namespace Asked

/-- No range is to be created in a leap second. -/
def IsOrdinary (asked : Asked) : Prop :=
  match asked.request with
  | .createRange _ createdAt => ¬ createdAt.IsLeap
  | _ => True

instance : (asked : Asked) → Decidable asked.IsOrdinary
  | ⟨.createRange _ createdAt, _⟩ => inferInstanceAs (Decidable (¬ createdAt.IsLeap))
  | ⟨.getIdentity _, _⟩ => isTrue trivial
  | ⟨.findIdentity .., _⟩ => isTrue trivial
  | ⟨.createIdentity .., _⟩ => isTrue trivial
  | ⟨.attachOwner .., _⟩ => isTrue trivial

/-- The id of a range that was created, and the time that it was to be created at. -/
def created? : Asked → Option (Int × Instant)
  | ⟨.createRange _ createdAt, .ok placed⟩ =>
    if placed.inserted then some (placed.range.id, createdAt) else none
  | _ => none

theorem created?_error (q : Request) (e : StoreError) : created? ⟨q, .error e⟩ = none := by
  cases q <;> rfl

end Asked

/-- The times of creation with one more request on record. -/
def note (times : Int → Option Instant) (asked : Asked) (id : Int) : Option Instant :=
  match asked.created? with
  | some (new, time) => if id = new then some time else times id
  | none => times id

/-- The times that ranges were to be created at, by their ids. -/
def createdAt (log : List Asked) : Int → Option Instant := log.foldl note fun _ => none

theorem createdAt_append (log : List Asked) (asked : Asked) :
    createdAt (log ++ [asked]) = note (createdAt log) asked := by
  rw [createdAt, List.foldl_append]
  rfl

variable {times : Int → Option Instant} {asked : Asked}

theorem note_of_none (nothing : asked.created? = none) : note times asked = times := by
  funext id
  simp only [note, nothing]

theorem note_new {new : Int} {time : Instant} (created : asked.created? = some (new, time)) :
    note times asked new = some time := by
  simp only [note, created, if_true]

theorem note_other {new id : Int} {time : Instant} (created : asked.created? = some (new, time))
    (ne : id ≠ new) : note times asked id = times id := by
  simp only [note, created, if_neg ne]

end OwnerCache.Work
