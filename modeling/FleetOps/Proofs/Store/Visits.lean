import FleetOps.Proofs.Store.Cache
import Mathlib.Data.List.Induction

/-! Runs of a store with a cache, visited through it and behind it. What is true of a run is
shown visit by visit, and what has happened since something else is told by how the run splits.
-/

namespace FleetOps

-----------------------------------------------------------------------------------------
-- What has happened since
-----------------------------------------------------------------------------------------

/-- Something held at an earlier time of a run, and nothing broke it later on. -/
def Since {α : Type} (held : List α → Prop) (breaks : α → Prop) (run : List α) : Prop :=
  ∃ earlier later, run = earlier ++ later ∧ held earlier ∧ ∀ event ∈ later, ¬ breaks event

namespace Since

variable {α : Type} {held : List α → Prop} {breaks : α → Prop} {run : List α}

/-- What holds at the end of a run holds since then. -/
theorem now (holds : held run) : Since held breaks run :=
  ⟨run, [], by simp, holds, by simp⟩

/-- With one more event, it holds just now, or it held before and that event did not break it.
-/
theorem concat_iff {event : α}
    : Since held breaks (run ++ [event])
      ↔ held (run ++ [event]) ∨ Since held breaks run ∧ ¬ breaks event := by
  constructor
  · rintro ⟨earlier, later, split, holds, unbroken⟩
    rcases List.eq_nil_or_concat later with rfl | ⟨rest, last, rfl⟩
    · rw [List.append_nil] at split
      exact .inl (split ▸ holds)
    · rw [List.concat_eq_append, ← List.append_assoc] at split
      obtain ⟨rfl, same⟩ := List.append_inj' split rfl
      cases same
      refine .inr ⟨⟨earlier, rest, rfl, holds, fun event member => ?_⟩, ?_⟩
      · exact unbroken event (by simp [member])
      · exact unbroken event (by simp)
  · rintro (holds | ⟨⟨earlier, later, rfl, holds, unbroken⟩, kept⟩)
    · exact now holds
    · refine ⟨earlier, later ++ [event], by simp, holds, ?_⟩
      intro other member
      rcases List.mem_append.mp member with member | member
      · exact unbroken other member
      · rw [List.mem_singleton.mp member]
        exact kept

/-- Before anything happened only what held from the beginning has held since. -/
theorem nil_iff : Since held breaks [] ↔ held [] := by
  constructor
  · rintro ⟨earlier, later, split, holds, _⟩
    obtain ⟨rfl, rfl⟩ := List.nil_eq_append_iff.mp split
    exact holds
  · exact now

/-- What holds since an event that breaks it has held after that event, by induction over what
came later.
-/
theorem after_broken {earlier later : List α} {event : α}
    (since : Since held breaks (earlier ++ event :: later)) (broken : breaks event)
    : ∃ more, more <+: later ∧ held (earlier ++ event :: more) := by
  induction later using List.reverseRecOn with
  | nil =>
      rcases concat_iff.mp since with holds | ⟨_, kept⟩
      · exact ⟨[], List.nil_prefix, holds⟩
      · exact absurd broken kept
  | append_singleton later last ih =>
      rw [← List.cons_append, ← List.append_assoc] at since
      rcases concat_iff.mp since with holds | ⟨before, _⟩
      · exact ⟨later ++ [last], List.prefix_refl _, by simpa using holds⟩
      · obtain ⟨more, initial, holds⟩ := ih before
        exact ⟨more, initial.trans (List.prefix_append later [last]), holds⟩

end Since

-----------------------------------------------------------------------------------------
-- Visit by visit
-----------------------------------------------------------------------------------------

/-- The cache after a visit. One that goes behind the front does not touch it. -/
def Visit.cacheAfter : Visit → Cache → Memory → Cache
  | through request, cache, memory => request.cacheAfter cache memory
  | behind _, cache, _ => cache

/-- A visit changes cache and contents as its request does. -/
theorem Front.Holds.visit {front : Front} {cache : Cache} {memory : Memory}
    (holds : front.Holds cache memory) (visit : Visit)
    : (front.visit visit).2.Holds (visit.cacheAfter cache memory)
        (visit.request.onMemory memory).2 := by
  cases visit with
  | through request => exact (holds.perform request).2
  | behind request =>
      obtain ⟨state, rfl, rfl, rfl, works⟩ := holds
      have plain : (Front.direct state.backend).IsPlain state.backend.memory :=
        ⟨_, rfl, rfl, works⟩
      obtain ⟨backend, later, memory, working⟩ := (plain.perform request).2
      refine ⟨{ state with backend := backend }, ?_, rfl, memory, working⟩
      simp only [Front.visit, Front.backend, later, withBackend]

/-- What holds of an empty cache and stays true with every visit holds after all runs. -/
theorem Front.freshlyCached_induct {memory : Memory} {motive : List Visit → Cache → Memory → Prop}
    (start : motive [] .empty memory)
    (step
      : ∀ before visit cache contents,
          ((Front.freshlyCached memory).after before).Holds cache contents
          → motive before cache contents
          → motive (before ++ [visit]) (visit.cacheAfter cache contents)
              (visit.request.onMemory contents).2)
    (before : List Visit)
    : ∃ cache contents,
        ((Front.freshlyCached memory).after before).Holds cache contents
        ∧ motive before cache contents := by
  induction before using List.reverseRecOn with
  | nil => exact ⟨_, _, freshlyCached_holds memory, start⟩
  | append_singleton before visit ih =>
      obtain ⟨cache, contents, holds, soFar⟩ := ih
      refine ⟨_, _, ?_, step before visit cache contents holds soFar⟩
      rw [after_concat]
      exact holds.visit visit

end FleetOps
