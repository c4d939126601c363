/-
# OwnerCache.Proofs.Store.Chronicle -- ids are given once, and in order

Ids come from counters.  A unit of work that fails gives back what it took, and a sweep takes rows
away without a look at the counters, so what a store holds does not say which ids were given.  The
chronicle of a run does: `committed` lists the ids of all rows that were ever put in to stay, one
act after the other.

Of one kind of rows a store has a `Tally`, their ids and the last one given.  Each request puts new
ids behind those that are there, beyond the last one given before (`Tally.Extends`), and that adds
up along a unit of work.  A unit that ends badly leaves the store as it was, but for what it goes on
to ask of rows once it is abandoned.  So in the end each unit extends the tally and each sweep thins
it out; both keep the ids of the chronicle ascending up to the last one given (`Ascending.run`).
-/
import OwnerCache.Proofs.Store.Enduring

namespace OwnerCache

set_option autoImplicit false

/-! ## Tallies -/

/-- The rows of a store, and so their ids, are of two kinds. -/
inductive Kind where
  | range
  | identity
deriving DecidableEq, Repr

/-- The ids of the rows of a kind in the order in which they were put in, and the last id given. -/
@[ext] structure Tally where
  ids : List Int
  last : Int
deriving DecidableEq, Repr

namespace Tally

/-- Further ids stand behind the others, and ascend from beyond the last one given before up to the
last one given. -/
structure Adds (t : Tally) (new : List Int) (t' : Tally) : Prop where
  ids_eq : t'.ids = t.ids ++ new
  ascending : new.Pairwise (· < ·)
  bounds : ∀ id ∈ new, t.last < id ∧ id ≤ t'.last
  last_le : t.last ≤ t'.last

/-- The second tally has what the first one has, and maybe more. -/
def Extends (t t' : Tally) : Prop := ∃ new, t.Adds new t'

variable {t t' t'' : Tally}

/-- Ids may be passed over. -/
theorem extends_skip (ids : t'.ids = t.ids) (le : t.last ≤ t'.last) : t.Extends t' :=
  ⟨[], by rw [ids, List.append_nil], .nil, by simp, le⟩

theorem extends_self (t : Tally) : t.Extends t := extends_skip rfl (Int.le_refl _)

theorem extends_next (ids : t'.ids = t.ids ++ [t.last + 1]) (last : t'.last = t.last + 1) :
    t.Extends t' := by
  have lt := Int.lt_succ t.last
  refine ⟨[t.last + 1], ids, List.pairwise_singleton .., ?_, ?_⟩
  · rw [last]
    exact List.forall_mem_singleton.mpr ⟨lt, Int.le_refl _⟩
  · rw [last]
    exact Int.le_of_lt lt

theorem Extends.trans (first : t.Extends t') (second : t'.Extends t'') : t.Extends t'' := by
  obtain ⟨new, ids, ascending, bounds, le⟩ := first
  obtain ⟨newer, ids', ascending', bounds', le'⟩ := second
  refine ⟨new ++ newer, by rw [ids', ids, List.append_assoc], ?_, ?_, Int.le_trans le le'⟩
  · refine List.pairwise_append.mpr ⟨ascending, ascending', fun i mem j mem' => ?_⟩
    exact Int.lt_of_le_of_lt (bounds i mem).2 (bounds' j mem').1
  · refine List.forall_mem_append.mpr ⟨fun id mem => ?_, fun id mem => ?_⟩
    · exact ⟨(bounds id mem).1, Int.le_trans (bounds id mem).2 le'⟩
    · exact ⟨Int.lt_of_le_of_lt le (bounds' id mem).1, (bounds' id mem).2⟩

end Tally

/-- A store whose units of work extend the tallies and whose sweeps thin them out. -/
class Tallied (σ : Type) [RangeStore σ] where
  tally : Kind → σ → Tally
  transact_extends {α : Type} (kind : Kind) (work : Work α) (s : σ) :
    (tally kind s).Extends (tally kind (RangeStore.transact work s).2)
  sweep_sublist (kind : Kind) (ttl : Duration) (now : Instant) (s : σ) :
    (tally kind (RangeStore.deleteExpired ttl now s).2).ids.Sublist (tally kind s).ids
  sweep_last (kind : Kind) (ttl : Duration) (now : Instant) (s : σ) :
    (tally kind (RangeStore.deleteExpired ttl now s).2).last = (tally kind s).last

/-! ## In memory -/

namespace Volatile

def tally : Kind → Volatile → Tally
  | .range, v => ⟨v.ranges.map (·.id), v.lastRangeId⟩
  | .identity, v => ⟨v.identities.map (·.id), v.lastIdentityId⟩

theorem map_id_setOwner (id : Int) (owner : Option Int) (rs : List AddressRange) :
    (setOwner id owner rs).map (·.id) = rs.map (·.id) := by
  induction rs with
  | nil => rfl
  | cons r rs ih => by_cases same : r.id = id <;> simp [setOwner, same, ih]

theorem tally_createRange (kind : Kind) (block : Block) (createdAt : Instant) (v : Volatile) :
    (tally kind v).Extends (tally kind (createRange block createdAt v).2) := by
  rw [createRange]
  split
  · exact Tally.extends_self _
  · cases kind with
    | range => exact Tally.extends_next List.map_append rfl
    | identity => exact Tally.extends_self _

theorem tally_createIdentity (kind : Kind) (name country : Option String) (v : Volatile) :
    (tally kind v).Extends (tally kind (createIdentity name country v).2) := by
  cases kind with
  | range => exact Tally.extends_self _
  | identity => exact Tally.extends_next List.map_append rfl

theorem tally_attach (kind : Kind) (rangeId ownerId : Int) (v : Volatile) :
    tally kind (attach rangeId ownerId v).2 = tally kind v := by
  rw [attach]
  split
  · rfl
  · split
    · rfl
    · cases kind with
      | range => simp only [tally, map_id_setOwner]
      | identity => rfl

theorem tally_answer (kind : Kind) (q : Request) (v : Volatile) :
    (tally kind v).Extends (tally kind (answer q v).2) := by
  cases q with
  | createRange block createdAt => exact tally_createRange kind block createdAt v
  | getIdentity id => exact Tally.extends_self _
  | findIdentity name country => exact Tally.extends_self _
  | createIdentity name country => exact tally_createIdentity kind name country v
  | attachOwner rangeId ownerId =>
      rw [answer, tally_attach]
      exact Tally.extends_self _

theorem tally_run {α : Type} (kind : Kind) (work : Work α) (v : Volatile) :
    (tally kind v).Extends (tally kind (work.run answer v).2) := by
  induction work generalizing v with
  | done a => exact Tally.extends_self _
  | fail e => exact Tally.extends_self _
  | ask q next ih => exact (tally_answer kind q v).trans (ih (answer q v).1 (answer q v).2)

/-- A unit that ends badly gives its ids back, and all else with them. -/
theorem tally_transact {α : Type} (kind : Kind) (work : Work α) (v : Volatile) :
    (tally kind v).Extends (tally kind (transact work v).2) := by
  have copied := tally_run kind work v
  rw [transact_onCopy, Work.onCopy]
  rcases ran : work.run answer v with ⟨_ | _, copy⟩
  all_goals rw [ran] at copied
  · exact Tally.extends_self _
  · exact copied

instance : Tallied Volatile where
  tally := tally
  transact_extends := tally_transact
  sweep_sublist kind ttl now v := by
    cases kind with
    | range => exact List.filter_sublist.map _
    | identity => exact List.Sublist.refl _
  sweep_last kind ttl now v := by cases kind <;> rfl

end Volatile

/-! ## In rows -/

namespace Durable

def tally : Kind → Durable → Tally
  | .range, s => ⟨s.rows.map (·.id), s.lastRangeId⟩
  | .identity, s => ⟨s.identities.map (·.id), s.lastIdentityId⟩

theorem tally_createRange (kind : Kind) (block : Block) (createdAt : Instant) (s : Durable) :
    (tally kind s).Extends (tally kind (createRange block createdAt s).2) := by
  rw [createRange]
  split
  · exact Tally.extends_self _
  · split
    · cases kind with
      | range => exact Tally.extends_skip rfl (Int.le_of_lt (Int.lt_succ _))
      | identity => exact Tally.extends_self _
    · cases kind with
      | range => exact Tally.extends_next List.map_append rfl
      | identity => exact Tally.extends_self _

theorem tally_createIdentity (kind : Kind) (name country : Option String) (s : Durable) :
    (tally kind s).Extends (tally kind (createIdentity name country s).2) := by
  rw [createIdentity]
  split
  · exact Tally.extends_self _
  · cases kind with
    | range => exact Tally.extends_self _
    | identity => exact Tally.extends_next List.map_append rfl

theorem tally_attachOwner (kind : Kind) (rangeId ownerId : Int) (s : Durable) :
    tally kind (attachOwner rangeId ownerId s).2 = tally kind s := by
  rw [attachOwner]
  split
  · split
    · rfl
    · cases kind with
      | range =>
          have ids : ∀ row : Row, (if row.id = rangeId then { row with ownerId := some ownerId }
              else row).id = row.id := by
            intro row
            split <;> rfl
          simp only [tally, List.map_map, Function.comp_def, ids]
      | identity => rfl
  · rfl

theorem tally_answer (kind : Kind) (q : Request) (s : Durable) :
    (tally kind s).Extends (tally kind (answer q s).2) := by
  cases q with
  | createRange block createdAt => exact tally_createRange kind block createdAt s
  | getIdentity id => exact Tally.extends_self _
  | findIdentity name country => exact Tally.extends_self _
  | createIdentity name country => exact tally_createIdentity kind name country s
  | attachOwner rangeId ownerId =>
      rw [answer, tally_attachOwner]
      exact Tally.extends_self _

/-- What a draft has come to extends what it began with, also when it is abandoned on the way. -/
structure Draft.Extends (kind : Kind) (s : Durable) (d : Draft) : Prop where
  saved : d.saved = s
  store : (tally kind s).Extends (tally kind d.store)

theorem Draft.Extends.perform {kind : Kind} {s : Durable} {d : Draft} (kept : d.Extends kind s)
    (q : Request) : Draft.Extends kind s (perform q d).2 := by
  rcases (perform_cases q d).2 with ⟨-, abandoned⟩ | goesOn
  · rw [abandoned, Draft.abandon]
    split
    · exact kept
    · refine ⟨kept.saved, ?_⟩
      rw [kept.saved]
      exact Tally.extends_self _
  · rw [goesOn]
    exact ⟨kept.saved, kept.store.trans (tally_answer kind q d.store)⟩

theorem Draft.Extends.run {α : Type} {kind : Kind} {s : Durable} (work : Work α) {d : Draft}
    (kept : d.Extends kind s) : Draft.Extends kind s (work.run Durable.perform d).2 := by
  induction work generalizing d with
  | done a => exact kept
  | fail e => exact kept
  | ask q next ih => exact ih (Durable.perform q d).1 (kept.perform q)

theorem tally_transact {α : Type} (kind : Kind) (work : Work α) (s : Durable) :
    (tally kind s).Extends (tally kind (transact work s).2) := by
  have start : (Draft.begin s).Extends kind s := ⟨rfl, Tally.extends_self _⟩
  have kept := start.run work
  rcases transact_store work s with left | left
  · rw [left]
    exact kept.store
  · rw [left, kept.saved]
    exact Tally.extends_self _

instance : Tallied Durable where
  tally := tally
  transact_extends := tally_transact
  sweep_sublist kind ttl now s := by
    cases kind with
    | range => exact List.filter_sublist.map _
    | identity => exact List.Sublist.refl _
  sweep_last kind ttl now s := by cases kind <;> rfl

end Durable

/-! ## The chronicle of a run -/

/-- What is done with a store. -/
inductive Act where
  | transact {α : Type} (work : Work α)
  | sweep (ttl : Duration) (now : Instant)

namespace Act

section

variable {σ : Type} [RangeStore σ]

/-- The store after an act, whether or not it ended well. -/
def perform : Act → σ → σ
  | .transact work, s => (RangeStore.transact work s).2
  | .sweep ttl now, s => (RangeStore.deleteExpired ttl now s).2

def performAll (acts : List Act) (s : σ) : σ := acts.foldl (fun s act => act.perform s) s

variable [Tallied σ]

def ids (kind : Kind) (s : σ) : List Int := (Tallied.tally kind s).ids

/-- The ids of the rows that an act puts in to stay. -/
def commits (kind : Kind) (s : σ) : Act → List Int
  | .transact work => (ids kind (RangeStore.transact work s).2).drop (ids kind s).length
  | .sweep .. => []

/-- The ids of all rows that were put in to stay, in the order in which they were put in. -/
def committed (kind : Kind) : List Act → σ → List Int
  | [], _ => []
  | act :: later, s => act.commits kind s ++ committed kind later (act.perform s)

/-- The ids that are put in to stay stand behind the others, which stay where they are. -/
theorem adds_commits {α : Type} (kind : Kind) (work : Work α) (s : σ) :
    (Tallied.tally kind s).Adds ((transact work).commits kind s)
      (Tallied.tally kind ((transact work).perform s)) := by
  obtain ⟨new, adds⟩ := Tallied.transact_extends kind work s
  have same : (transact work).commits kind s = new := by
    rw [commits, ids, ids, adds.ids_eq, List.drop_left]
  rwa [same]

end

end Act

/-- The ids that were given to rows that were to stay ascend from 1 up to the last one given, and a
store still has some of them, in their order. -/
structure Ascending (committed : List Int) (t : Tally) : Prop where
  ascending : committed.Pairwise (· < ·)
  bounds : ∀ id ∈ committed, 1 ≤ id ∧ id ≤ t.last
  stored : t.ids.Sublist committed
  last_nonneg : 0 ≤ t.last

namespace Ascending

variable {committed : List Int} {t : Tally}

/-- No id was given twice. -/
theorem nodup (ascending : Ascending committed t) : committed.Nodup :=
  ascending.ascending.imp Int.ne_of_lt

theorem stored_ascending (ascending : Ascending committed t) : t.ids.Pairwise (· < ·) :=
  ascending.ascending.sublist ascending.stored

theorem stored_bounds (ascending : Ascending committed t) : ∀ id ∈ t.ids, 1 ≤ id ∧ id ≤ t.last :=
  fun id mem => ascending.bounds id (ascending.stored.subset mem)

theorem adds {new : List Int} {t' : Tally} (ascending : Ascending committed t)
    (adds : t.Adds new t') : Ascending (committed ++ new) t' := by
  obtain ⟨ids, further, bounds, le⟩ := adds
  have nonneg := ascending.last_nonneg
  refine ⟨?_, ?_, ?_, Int.le_trans nonneg le⟩
  · refine List.pairwise_append.mpr ⟨ascending.ascending, further, fun i mem j mem' => ?_⟩
    exact Int.lt_of_le_of_lt (ascending.bounds i mem).2 (bounds j mem').1
  · refine List.forall_mem_append.mpr ⟨fun id mem => ?_, fun id mem => ?_⟩
    · exact ⟨(ascending.bounds id mem).1, Int.le_trans (ascending.bounds id mem).2 le⟩
    · exact ⟨Int.lt_of_le_of_lt nonneg (bounds id mem).1, (bounds id mem).2⟩
  · rw [ids]
    exact ascending.stored.append (List.Sublist.refl new)

variable {σ : Type} [RangeStore σ] [Tallied σ] {kind : Kind} {s : σ}

/-- An act keeps the order of the chronicle. -/
theorem perform (ascending : Ascending committed (Tallied.tally kind s)) (act : Act) :
    Ascending (committed ++ act.commits kind s) (Tallied.tally kind (act.perform s)) := by
  cases act with
  | transact work => exact ascending.adds (Act.adds_commits kind work s)
  | sweep ttl now =>
      have last := Tallied.sweep_last kind ttl now s
      rw [Act.commits, Act.perform, List.append_nil]
      refine ⟨ascending.ascending, ?_, ?_, ?_⟩
      · rw [last]
        exact ascending.bounds
      · exact (Tallied.sweep_sublist kind ttl now s).trans ascending.stored
      · rw [last]
        exact ascending.last_nonneg

theorem run (ascending : Ascending committed (Tallied.tally kind s)) (acts : List Act) :
    Ascending (committed ++ Act.committed kind acts s)
      (Tallied.tally kind (Act.performAll acts s)) := by
  induction acts generalizing committed s with
  | nil =>
      rw [Act.committed, List.append_nil]
      exact ascending
  | cons act later ih =>
      have rest := ih (ascending.perform act)
      rwa [List.append_assoc] at rest

/-- A store without rows, and which never gave an id, has an empty chronicle. -/
theorem of_empty (empty : Tallied.tally kind s = ⟨[], 0⟩) (acts : List Act) :
    Ascending (Act.committed kind acts s) (Tallied.tally kind (Act.performAll acts s)) := by
  have start : Ascending [] (Tallied.tally kind s) := by
    rw [empty]
    exact ⟨.nil, by simp, List.Sublist.refl _, Int.le_refl _⟩
  exact start.run acts

end Ascending

namespace Act

/-- **No id is given twice.**  A unit of work puts rows behind those that are there, which keep
their places and ids.  Whatever is done with a store that was empty once, the ids of all rows that
were ever put in to stay ascend in the order in which they were put in, no id is among them twice,
and the rows that are stored have some of them.  So in memory both lists are sorted by ids from 1
up to the last one given. -/
theorem committed_ascends :
    (∀ {α : Type} (work : Work α) (kind : Kind),
      (∀ v : Volatile, ids kind ((transact work).perform v) =
        ids kind v ++ (transact work).commits kind v) ∧
      ∀ s : Durable, ids kind ((transact work).perform s) =
        ids kind s ++ (transact work).commits kind s) ∧
    ∀ acts : List Act,
      (∀ kind, Ascending (committed kind acts ({} : Volatile))
          (Volatile.tally kind (performAll acts {})) ∧
        (committed kind acts ({} : Volatile)).Nodup) ∧
      (∀ kind, Ascending (committed kind acts ({} : Durable))
          (Durable.tally kind (performAll acts {})) ∧
        (committed kind acts ({} : Durable)).Nodup) ∧
      let v := performAll acts ({} : Volatile)
      v.ranges.Pairwise (·.id < ·.id) ∧ (∀ r ∈ v.ranges, 1 ≤ r.id ∧ r.id ≤ v.lastRangeId) ∧
        v.identities.Pairwise (·.id < ·.id) ∧
        ∀ i ∈ v.identities, 1 ≤ i.id ∧ i.id ≤ v.lastIdentityId := by
  refine ⟨fun work kind => ⟨fun v => ?_, fun s => ?_⟩, fun acts => ?_⟩
  · exact (adds_commits kind work v).ids_eq
  · exact (adds_commits kind work s).ids_eq
  · have inMemory (kind : Kind) : Ascending (committed kind acts ({} : Volatile))
        (Volatile.tally kind (performAll acts {})) :=
      .of_empty (by cases kind <;> rfl) acts
    have asRows (kind : Kind) : Ascending (committed kind acts ({} : Durable))
        (Durable.tally kind (performAll acts {})) :=
      .of_empty (by cases kind <;> rfl) acts
    refine ⟨fun kind => ⟨inMemory kind, (inMemory kind).nodup⟩,
      fun kind => ⟨asRows kind, (asRows kind).nodup⟩, ?_, ?_, ?_, ?_⟩
    · exact List.pairwise_map.mp (inMemory .range).stored_ascending
    · exact List.forall_mem_map.mp (inMemory .range).stored_bounds
    · exact List.pairwise_map.mp (inMemory .identity).stored_ascending
    · exact List.forall_mem_map.mp (inMemory .identity).stored_bounds

/-- A unit that fails, and a sweep that leaves no row, do not bring an id back. -/
example :
    let create (n : Nat) (lt : n < 0x100000000) : Request := .createRange (.single ⟨n, lt⟩) .least
    let acts : List Act :=
      [.transact (Work.request (create 7 (by decide))),
        .transact (Work.ask (create 8 (by decide)) fun _ => .fail (.task "stop") : Work Unit),
        .sweep ⟨0⟩ ⟨0, 0, by decide, by decide, by decide, by decide⟩,
        .transact (Work.request (create 9 (by decide)))]
    committed .range acts ({} : Volatile) = [1, 2] ∧ committed .range acts ({} : Durable) = [1, 2] ∧
      ids .range (performAll acts ({} : Durable)) = [2] := by
  decide

end Act

end OwnerCache
