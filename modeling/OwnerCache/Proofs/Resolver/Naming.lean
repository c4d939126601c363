/-
# OwnerCache.Proofs.Resolver.Naming -- calls whose descriptions keep alike share an identity

Identities are told apart by name and country, character by character.  So what has to be the same
for two calls to share one is the name that their descriptions give, and for that it is enough that
they keep the same but for blanks at the ends (`Description.KeepAlike`).  Names that the cut left a
blank at are the exception: they are no normal form, and none is claimed for them.

`run_namesakes` has the names and the calls of every run together, from any well-formed store and
for all schedules, sweeps included.
-/
import OwnerCache.Proofs.Resolver.Accounts
import OwnerCache.Proofs.Whois.Name

namespace OwnerCache.Schedule

set_option autoImplicit false

open Whois Description

variable {σ : Type} [RangeStore σ]

/-- What descriptions have in common in a run that keep alike. -/
structure Namesakes (w : World σ) (steps : List Step) (raw raw' : String) : Prop where
  /-- They give one name. -/
  name : ∃ name, format? raw = some name ∧ format? raw' = some name
  /-- Calls that inserted ranges under them, with one country, returned one identity. -/
  shared : ∀ e ∈ w.storings steps, ∀ e' ∈ w.storings steps, e.inserted → e'.inserted →
    e.finding.IsDescribed raw → e'.finding.IsDescribed raw' →
    e.finding.country = e'.finding.country →
    ∃ owner created created',
      (w.run steps).HasStored e.call e.finding (.ok ⟨some owner, created⟩) ∧
      (w.run steps).HasStored e'.call e'.finding (.ok ⟨some owner, created'⟩)

variable [Legible σ]

open Legible

theorem namesakes {s : σ} (start : WellFormed s) (steps : List Step) {raw raw' : String}
    (alike : KeepAlike raw.toList raw'.toList) : Namesakes ⟨s, []⟩ steps raw raw' := by
  obtain ⟨v, means, h⟩ := start.exists_means
  obtain ⟨name, named, named'⟩ := alike.exists_format
  refine ⟨⟨name, named, named'⟩, ?_⟩
  intro e here e' here' inserted inserted' described described' country
  have first : e.finding.description = some name := described.description.trans named
  have second : e'.finding.description = some name := described'.description.trans named'
  exact storings_shared (w := ⟨s, []⟩) means h here here' inserted inserted' (by simp [first])
    (first.trans second.symm) country

/-- **Names are almost a normal form**: they do not start with a blank, and but for one case they do
not end in one and are read as they stand -- that a longer line has been cut behind a blank.
Descriptions that keep the same but for blanks at the ends give one name, and calls that insert ranges
under them share an identity. -/
theorem run_namesakes {s : σ} (start : WellFormed s) (steps : List Step) :
    (∀ raw name, format? raw = some name → AlmostNormal raw name) ∧
      ∀ raw raw', KeepAlike raw.toList raw'.toList → Namesakes ⟨s, []⟩ steps raw raw' :=
  ⟨fun _ _ => almostNormal, fun _ _ => namesakes start steps⟩

/-- Two calls for different networks, of which the providers write one name in two ways: the second
one finds the identity that the first one created, in memory and in rows. -/
theorem run_namesakes_two :
    let policy : Policy := ⟨{}, fun _ => none⟩
    let raw := "foo\nabuse@foo"
    let raw' := "  foo  "
    let steps : List Step :=
      [.begin policy ⟨0x01020304, by decide⟩,
        .answer 0 (.record ⟨[⟨some "1.2.3.0/24", some raw, some "UN"⟩]⟩), .finish 0 .least,
        .begin policy ⟨0x04050607, by decide⟩,
        .answer 1 (.record ⟨[⟨some "4.5.6.0/24", some raw', some "un"⟩]⟩), .finish 1 .least]
    let first : Finding :=
      ⟨some "foo", some "un", ⟨⟨0x01020300, by decide⟩, ⟨0x010203FF, by decide⟩⟩⟩
    let second : Finding :=
      ⟨some "foo", some "un", ⟨⟨0x04050600, by decide⟩, ⟨0x040506FF, by decide⟩⟩⟩
    let owner : Identity := ⟨1, some "foo", some "un"⟩
    let s : Volatile := {}
    let rows : Durable := {}
    WellFormed s ∧ WellFormed rows ∧ KeepAlike raw.toList raw'.toList ∧
      format? raw = some "foo" ∧ AlmostNormal raw "foo" ∧
      Namesakes ⟨s, []⟩ steps raw raw' ∧ Namesakes ⟨rows, []⟩ steps raw raw' ∧
      first.IsDescribed raw ∧ second.IsDescribed raw' ∧
      World.storings ⟨rows, []⟩ steps =
        [⟨0, first, .ok ⟨some owner, true⟩, true⟩, ⟨1, second, .ok ⟨some owner, false⟩, true⟩] := by
  intro policy raw raw' steps first second owner s rows
  have start : WellFormed s := ⟨⟨by decide, by decide⟩, by decide, by decide, by decide⟩
  have start' : WellFormed rows := ⟨⟨nofun, by decide, by decide⟩, by decide, by decide, by decide⟩
  have alike : KeepAlike raw.toList raw'.toList :=
    @KeepAlike.lines _ _ ['f', 'o', 'o'] [' ', ' ', 'f', 'o', 'o', ' ', ' '] (by decide) (by decide)
      (by decide)
  have named : format? raw = some "foo" := by decide
  have described : first.IsDescribed raw :=
    ⟨⟨0x01020304, by decide⟩, ⟨some "1.2.3.0/24", some raw, some "UN"⟩, [], by decide, rfl⟩
  have described' : second.IsDescribed raw' :=
    ⟨⟨0x04050607, by decide⟩, ⟨some "4.5.6.0/24", some raw', some "un"⟩, [], by decide, rfl⟩
  exact ⟨start, start', alike, named, (run_namesakes start steps).1 raw "foo" named,
    (run_namesakes start steps).2 raw raw' alike, (run_namesakes start' steps).2 raw raw' alike,
    described, described', by decide⟩

end OwnerCache.Schedule
