/-
# OwnerCache.Proofs.Resolver.Unfailing -- nothing breaks a store from outside its rows

A world is `Reached` from an empty store by the steps of calls, by sweeps, and by any other units
of work, with all that its store was asked on record (`World.asked`).  Times are any that there are
but those of leap seconds, which rows cannot keep.

By induction over how it was reached, its store is what stores are that nothing asked of them
breaks (`Reached.after`), and no call has ended with an error (`Reached.returned`); for as long as
there are ids, which the store at the end says of all the stores before it.

So in such a world every read is answered, every call would end well, and of the requests of its
unit of work none is refused (`Unfailing`).  A store of rows gives times back rounded down to the
millisecond, at once and ever after (`Rounding`).
-/
import OwnerCache.Proofs.Resolver.Containment
import OwnerCache.Proofs.Resolver.History
import OwnerCache.Proofs.Store.Enduring

namespace OwnerCache.Schedule

set_option autoImplicit false

open Work (Asked createdAt)

section

variable {σ : Type} [RangeStore σ]

/-! ## Worlds and what was asked in them -/

/-- What a step asks the store in a unit of work. -/
def World.asked (w : World σ) : Step → List Asked
  | .finish i now =>
    match w.calls[i]?.bind Call.finding? with
    | some f => RangeStore.transcript (commit f now) w.store
    | none => []
  | _ => []

/-- A world that comes of a store by steps and by other units of work, with what was asked. -/
inductive Reached (start : σ) : World σ → List Asked → Prop
  | start : Reached start ⟨start, []⟩ []
  | step {w : World σ} {log : List Asked} (earlier : Reached start w log) (step : Step)
      (ordinary : ∀ asked ∈ w.asked step, asked.IsOrdinary) :
      Reached start (w.step step) (log ++ w.asked step)
  | unit {w : World σ} {log : List Asked} (earlier : Reached start w log) {α : Type}
      (work : Work α) (ordinary : ∀ asked ∈ RangeStore.transcript work w.store, asked.IsOrdinary) :
      Reached start { w with store := (RangeStore.transact work w.store).2 }
        (log ++ RangeStore.transcript work w.store)

/-- What the steps of a run ask. -/
def World.askedBy (w : World σ) : List Step → List Asked
  | [] => []
  | step :: steps => w.asked step ++ (w.step step).askedBy steps

/-- A run goes on from where it begins. -/
theorem Reached.run {start : σ} {w : World σ} {log : List Asked} (earlier : Reached start w log)
    {steps : List Step} (ordinary : ∀ asked ∈ w.askedBy steps, asked.IsOrdinary) :
    Reached start (w.run steps) (log ++ w.askedBy steps) := by
  induction steps generalizing w log with
  | nil =>
      rw [World.askedBy, List.append_nil]
      exact earlier
  | cons step steps ih =>
      obtain ⟨here, later⟩ := List.forall_mem_append.mp ordinary
      rw [World.askedBy, ← List.append_assoc]
      exact ih (earlier.step step here) later

/-- No read of the cache fails, no call has failed or would, and of what their units of work ask
nothing is refused.  A unit of work of another kind may have found no id for a range. -/
structure Unfailing (w : World σ) (log : List Asked) : Prop where
  matched : ∀ a e, matchAddress w.store a ≠ .error (.store e)
  returned : ∀ c ∈ w.calls, ∀ e, c.result? ≠ some (.error e)
  resolved : ∀ {ω : Type} (r : Resolver (StateM ω)) (a : Address) (world : ω),
    (∀ world', ¬ (r.clock world').1.IsLeap) →
      ∃ resolution, (r.matchOrCreate a w.store world).1.result = .ok resolution
  replied : ∀ f now, ¬ now.IsLeap → ∀ asked ∈ RangeStore.transcript (commit f now) w.store,
    ∃ reply, asked.reply = .ok reply
  placed : ∀ block time e, ⟨.createRange block time, .error e⟩ ∈ log → e = .backend .full

/-- All that a step does to the store, with what it asks. -/
theorem step_asked (w : World σ) (step : Step) :
    (w.asked step = [] ∧ ((w.step step).store = w.store ∨
        ∃ ttl now, (w.step step).store = (RangeStore.deleteExpired ttl now w.store).2)) ∨
      ∃ f now, w.asked step = RangeStore.transcript (commit f now) w.store ∧
        (w.step step).store = (RangeStore.transact (commit f now) w.store).2 := by
  cases step with
  | begin policy a => exact .inl ⟨rfl, .inl rfl⟩
  | answer i reply => exact .inl ⟨rfl, .inl rfl⟩
  | finish i now =>
      cases called : w.calls[i]? with
      | none => exact .inl ⟨by simp [World.asked, called], .inl (by simp [World.step, called])⟩
      | some c =>
          simp only [World.asked, World.step, called, Option.bind_some]
          cases finding : c.finding? with
          | none => exact .inl ⟨rfl, .inl (Call.finish_store_of_none finding now w.store)⟩
          | some f =>
              have finished := Call.finish_of_finding finding now w.store
              exact .inr ⟨f, now, rfl, congrArg Prod.snd finished⟩
  | sweep ttl now => exact .inl ⟨rfl, .inr ⟨ttl, now, rfl⟩⟩
  | look a => exact .inl ⟨rfl, .inl rfl⟩

theorem Call.answer_result (c : Call) (reply : Reply) : (c.answer reply).result? = c.result? := by
  unfold Call.answer Call.result?
  cases progress : c.progress <;> simp [progress]

/-- A call that has not failed does not fail when it ends, if its finding can be stored. -/
theorem Call.finish_result {c : Call} {now : Instant} {s : σ}
    (sound : ∀ e, c.result? ≠ some (.error e))
    (stores : ∀ f, c.finding? = some f →
      ∃ committed, (RangeStore.transact (commit f now) s).1 = .ok committed) (e : StoreError) :
    (c.finish now s).1.result? ≠ some (.error e) := by
  cases finding : c.finding? with
  | some f =>
      obtain ⟨committed, stored⟩ := stores f finding
      have finished := Call.finish_of_finding finding now s
      simp only at finished
      simp [finished, stored, Call.result?, Except.map]
  | none =>
      cases progress : c.progress with
      | lookingUp reading => simp [Call.finish, Call.result?, progress]
      | returned found result => simpa [Call.finish, progress] using sound e
      | informed reading found =>
          cases found with
          | error cause => simp [Call.finish, Call.result?, progress, conclude]
          | ok f => simp [Call.finding?, progress] at finding

/-! ## Every world that is reached -/

variable [Enduring σ]

open Enduring

theorem exists_bestMatch {log : List Asked} {s : σ} (after : After log s) (a : Address) :
    ∃ found, RangeStore.bestMatch s a = .ok found := by
  obtain ⟨v, means, -⟩ := Legible.exists_means (intact after)
  exact ⟨_, Meaningful.bestMatch means a⟩

/-- A call does not fail when it begins. -/
theorem Call.begin_result {log : List Asked} {s : σ} (after : After log s) (policy : Policy)
    (a : Address) (e : StoreError) : (Call.begin policy a s).result? ≠ some (.error e) := by
  obtain ⟨found, read⟩ := exists_bestMatch after a
  rcases Resolver.readCache_cases policy.settings.acceptedLength s a with
    ⟨e', broken, -⟩ | ⟨owner, -, -, cached⟩ | ⟨reading, -, -, cached, unsettled, -⟩
  · rw [read] at broken
    cases broken
  · simp [Call.begin, Call.result?, cached]
  · cases reading with
    | settled owner => exact absurd rfl (unsettled owner)
    | tooBroad owner length => simp [Call.begin, Call.result?, cached]
    | absent => simp [Call.begin, Call.result?, cached]

/-- The unit of work of a finding asks for its range first, so its time is no leap second. -/
theorem not_isLeap_of_ordinary {f : Whois.Finding} {now : Instant} {s : σ}
    (ordinary : ∀ asked ∈ RangeStore.transcript (commit f now) s, asked.IsOrdinary) :
    ¬ now.IsLeap := by
  have first : ∃ reply rest, RangeStore.transcript (commit f now) s =
      ⟨.createRange f.block now, reply⟩ :: rest := transcript_ask _ _ s
  obtain ⟨reply, rest, asked⟩ := first
  exact ordinary ⟨.createRange f.block now, reply⟩ (by rw [asked]; exact List.mem_cons_self)

namespace Reached

variable {start : σ} {w : World σ} {log : List Asked}

/-- Whatever was asked of a store, nothing has broken it. -/
theorem after (fresh : After [] start) (reached : Reached start w log) : After log w.store := by
  induction reached with
  | start => exact fresh
  | @step w log earlier step ordinary ih =>
      rcases step_asked w step with ⟨nothing, same | ⟨ttl, now, swept⟩⟩ | ⟨f, now, asked, stored⟩
      · rw [nothing, same, List.append_nil]
        exact ih
      · rw [nothing, swept, List.append_nil]
        exact after_sweep ih ttl now
      · rw [asked] at ordinary ⊢
        rw [stored]
        exact after_transact ih ordinary
  | unit earlier work ordinary ih => exact after_transact ih ordinary

/-- Ids that are left after a step were left before it. -/
theorem hasRoom_of_step {step : Step} (room : HasRoom (w.step step).store) : HasRoom w.store := by
  rcases step_asked w step with ⟨-, same | ⟨ttl, now, swept⟩⟩ | ⟨f, now, -, stored⟩
  · rwa [same] at room
  · rw [swept] at room
    exact hasRoom_of_sweep room
  · rw [stored] at room
    exact hasRoom_of_transact room

/-- No call has failed for as long as there are ids. -/
theorem returned (fresh : After [] start) (reached : Reached start w log) (room : HasRoom w.store) :
    ∀ c ∈ w.calls, ∀ e, c.result? ≠ some (.error e) := by
  induction reached with
  | start => simp
  | @step w log earlier step ordinary ih =>
      have left := hasRoom_of_step room
      have sound := ih left
      have before := earlier.after fresh
      intro c mem
      cases step with
      | begin policy a =>
          rcases List.mem_append.mp mem with mem | mem
          · exact sound c mem
          · obtain rfl := List.mem_singleton.mp mem
            exact Call.begin_result before policy a
      | answer i reply =>
          obtain ⟨c', mem', rfl | rfl⟩ := mem_modify mem
          · exact sound c mem'
          · rw [Call.answer_result]
            exact sound c' mem'
      | finish i now =>
          simp only [World.step] at mem
          split at mem
          · rename_i c' called
            rcases List.mem_or_eq_of_mem_set mem with mem | rfl
            · exact sound c mem
            · refine Call.finish_result (sound c' (List.mem_of_getElem? called)) fun f finding => ?_
              refine commit_ok (intact before) left ?_ f
              refine not_isLeap_of_ordinary (s := w.store) (f := f) ?_
              simpa [World.asked, called, finding] using ordinary
          · exact sound c mem
      | sweep ttl now => exact sound c mem
      | look a => exact sound c mem
  | unit earlier work ordinary ih => exact ih (hasRoom_of_transact room)

/-- A call that goes on from here to store what it finds does not fail. -/
theorem conclude_result (fresh : After [] start) (reached : Reached start w log)
    (room : HasRoom w.store) {now : Instant} (calm : ¬ now.IsLeap) (a : Address)
    (fallback : Option Identity) (found : Except Whois.Error Whois.Finding) :
    ∃ resolution, (conclude a fallback found now w.store).result = .ok resolution := by
  cases found with
  | error cause => exact ⟨_, rfl⟩
  | ok f =>
      obtain ⟨committed, stored⟩ := commit_ok (intact (reached.after fresh)) room calm f
      exact ⟨committed.resolution, by rw [Schedule.conclude_result, stored]; rfl⟩

theorem resolved (fresh : After [] start) (reached : Reached start w log) (room : HasRoom w.store)
    {ω : Type} (r : Resolver (StateM ω)) (a : Address) (world : ω)
    (calm : ∀ world', ¬ (r.clock world').1.IsLeap) :
    ∃ resolution, (r.matchOrCreate a w.store world).1.result = .ok resolution := by
  obtain ⟨found, read⟩ := exists_bestMatch (reached.after fresh) a
  rcases Resolver.readCache_cases r.settings.acceptedLength w.store a with
    ⟨e, broken, -⟩ | ⟨owner, -, -, cached⟩ | ⟨reading, -, -, cached, unsettled, -⟩
  · rw [read] at broken
    cases broken
  · rw [Resolver.matchOrCreate_settled cached]
    exact ⟨_, rfl⟩
  · rw [Resolver.matchOrCreate_open cached unsettled]
    exact reached.conclude_result fresh room (calm _) a _ _

theorem unfailing (fresh : After [] start) (reached : Reached start w log)
    (room : HasRoom w.store) : Unfailing w log where
  matched a e broken := by
    obtain ⟨found, read⟩ := exists_bestMatch (reached.after fresh) a
    rw [matchAddress, read] at broken
    cases found <;> cases broken
  returned := reached.returned fresh room
  resolved := reached.resolved fresh room
  replied f now calm := by
    obtain ⟨committed, stored⟩ := commit_ok (intact (reached.after fresh)) room calm f
    exact replies_ok (commit_strict f now) stored
  placed _ _ _ := full_of_error (reached.after fresh)

end Reached

end

/-! ## Times in rows -/

/-- Times come back rounded down to the millisecond: in the answer to the request that creates a
range, in later answers to such requests, and wherever the range is read.  A time that was read
comes back as it is if it is stored again. -/
structure Rounding (w : World Durable) (log : List Asked) : Prop where
  answered : Durable.Answered log
  read : ∀ a m, w.store.bestMatch a = .ok (some m) →
    ∃ given, createdAt log m.range.id = some given ∧ m.range.createdAt.IsFloorOf given
  again : ∀ a m, w.store.bestMatch a = .ok (some m) → ∀ (s : Durable) block placed,
    (s.createRange block m.range.createdAt).1 = .ok placed → placed.inserted = true →
      placed.range.createdAt = m.range.createdAt

/-- **Stores do not break.**  Of every world that is reached from an empty store, in memory or, for
as long as there are ids, of rows: nothing has failed in it, and nothing would.  Rows keep times
rounded down. -/
theorem reached_unfailing :
    (∀ {w : World Volatile} {log : List Asked}, Reached {} w log → Unfailing w log) ∧
      ∀ {w : World Durable} {log : List Asked}, Reached {} w log →
        (w.store.HasRoom → Unfailing w log) ∧ Rounding w log := by
  refine ⟨fun {w log} reached => ?_, fun {w log} reached => ?_⟩
  · have fresh : Volatile.Untroubled [] {} := ⟨by simp, by simp, by simp⟩
    exact reached.unfailing fresh trivial
  · have fresh : Durable.Answered [] ∧ Durable.Recorded (createdAt []) {} :=
      ⟨.nil, by simp, by simp, by simp⟩
    obtain ⟨answered, recorded⟩ := reached.after fresh
    refine ⟨reached.unfailing fresh, answered, fun a m found => recorded.bestMatch found, ?_⟩
    intro a m found s block placed created new
    obtain ⟨given, -, floor⟩ := recorded.bestMatch found
    exact Durable.createRange_createdAt floor.whole created new

/-- Ranges created at the extreme times and a refusal that is passed over; then a call that stores
a range for an address at a time before 1970, and a sweep that deletes one. -/
theorem reached_unfailing_extremes :
    let greatest : Instant := ⟨Instant.greatestSecond, 999999999, by decide, by decide, by decide,
      fun leap => absurd leap (by decide)⟩
    let early : Instant := ⟨-1, 1, by decide, by decide, by decide,
      fun leap => absurd leap (by decide)⟩
    let work : Work Unit := do
      let placed ← Work.request (.createRange ⟨⟨0, by decide⟩, ⟨0xFFFFFFFF, by decide⟩⟩ .least)
      let _ ← Work.request (.createRange (.single ⟨9, by decide⟩) greatest)
      .ask (.attachOwner placed.range.id 5) fun _ => .done ()
    let policy : Policy := ⟨{ acceptedLength := 0 }, fun _ => some "a"⟩
    let start : World Durable := ⟨(RangeStore.transact work {}).2, []⟩
    let w := start.run [.begin policy ⟨7, by decide⟩, .answer 0 .silence, .finish 0 early,
      .sweep (.ofSeconds 1) early]
    ∃ log, Reached {} w log ∧ w.store.HasRoom ∧ Unfailing w log ∧ Rounding w log ∧
      w.store.rows = [⟨2, 9, 9, none, greatest.millis⟩, ⟨3, 7, 7, some 1, -1000⟩] ∧
      createdAt log 2 = some greatest ∧ createdAt log 3 = some early := by
  intro greatest early work policy start w
  have begun : Reached {} start _ := .unit .start work (by decide)
  have reached : Reached {} w _ := begun.run (by decide)
  have room : w.store.HasRoom := ⟨by decide, by decide⟩
  obtain ⟨unfailing, rounding⟩ := reached_unfailing.2 reached
  exact ⟨_, reached, room, unfailing room, rounding, by decide, by decide, by decide⟩

end OwnerCache.Schedule
