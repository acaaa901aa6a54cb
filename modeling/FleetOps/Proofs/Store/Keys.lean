import FleetOps.Proofs.Store.Visits

/-! Which keys a store with a cache accepts, when others may put keys behind it. An accepted
check is remembered until its key is put through the cache, and nothing else is.
-/

namespace FleetOps

namespace Visit

/-- The visit puts a key through the cache. -/
def PutsKey (key : String) (visit : Visit) : Prop :=
  ∃ apiKey, visit = .through (.putKey apiKey) ∧ apiKey.key = key

/-- The visit checks a key through the cache. -/
def ChecksKey (key : String) (visit : Visit) : Prop :=
  ∃ admin, visit = .through (.validateKey key admin)

/-- A put through the cache puts the key that it names. -/
theorem putsKey_putKey {apiKey : ApiKey} {key : String}
    : (through (.putKey apiKey)).PutsKey key ↔ apiKey.key = key := by
  simp [PutsKey]

/-- A visit makes the cache remember a key if it is a check that is accepted, and makes it forget
the key if it puts it.
-/
theorem knows_cacheAfter (visit : Visit) (cache : Cache) (memory : Memory) (key : String)
    (admin : Bool)
    : (visit.cacheAfter cache memory).knows admin key = true
      ↔ visit = .through (.validateKey key admin)
          ∧ (cache.knows admin key || memory.acceptsKey key admin) = true
        ∨ cache.knows admin key = true ∧ ¬ visit.PutsKey key := by
  cases visit with
  | behind request => simp [cacheAfter, PutsKey]
  | through request =>
      cases request with
      | validateKey checked level =>
          simp only [cacheAfter, StoreRequest.cacheAfter, Cache.check, PutsKey]
          by_cases same : checked = key ∧ level = admin
          · obtain ⟨rfl, rfl⟩ := same
            cases known : cache.knows level checked with
            | true => simp [known]
            | false =>
                cases accepted : memory.acceptsKey checked level with
                | true => simp [Cache.knows_remember]
                | false => simp [known]
          · have other : ¬ (admin = level ∧ key = checked) := fun h => same ⟨h.2.symm, h.1.symm⟩
            split
            · simp [same]
            · split
              · simp [same, other, Cache.knows_remember]
              · simp [same]
      | putKey apiKey =>
          simp only [cacheAfter, StoreRequest.cacheAfter, putsKey_putKey, Cache.knows_forget]
          by_cases same : apiKey.key = key
          · cases admin <;> simp [same]
          · simp [same, Ne.symm same]
      | _ => simp [cacheAfter, StoreRequest.cacheAfter, PutsKey]

end Visit

variable {memory : Memory} {before : List Visit} {key : String} {admin : Bool}

/-- The last visit of a run was a check of a key through the cache, and it was accepted. -/
def EndsAccepting (memory : Memory) (key : String) (admin : Bool) (run : List Visit) : Prop :=
  ∃ earlier,
    run = earlier ++ [.through (.validateKey key admin)]
    ∧ (Front.validateKey key admin ((Front.freshlyCached memory).after earlier)).1 = .ok true

/-- The contents behind the cache accept a key at the end of a run. -/
def EndsAcceptable (memory : Memory) (key : String) (admin : Bool) (run : List Visit) : Prop :=
  ((Front.freshlyCached memory).after run).memory.acceptsKey key admin = true

/-- A check is answered by what the cache knows and, if it knows nothing, by the contents. -/
theorem Front.Holds.validateKey {front : Front} {cache : Cache}
    (holds : front.Holds cache memory) (key : String) (admin : Bool)
    : (Front.validateKey key admin front).1
      = .ok (cache.knows admin key || memory.acceptsKey key admin) :=
  (holds.perform (.validateKey key admin)).1

/-- A run ends with an accepted check if its last visit is one and cache or contents have the key.
-/
theorem endsAccepting_concat {visit : Visit} {cache : Cache} {contents : Memory}
    (holds : ((Front.freshlyCached memory).after before).Holds cache contents)
    : EndsAccepting memory key admin (before ++ [visit])
      ↔ visit = .through (.validateKey key admin)
        ∧ (cache.knows admin key || contents.acceptsKey key admin) = true := by
  constructor
  · rintro ⟨earlier, split, accepted⟩
    obtain ⟨rfl, same⟩ := List.append_inj' split rfl
    rw [holds.validateKey] at accepted
    exact ⟨List.singleton_inj.mp same, Except.ok.inj accepted⟩
  · rintro ⟨rfl, accepted⟩
    refine ⟨before, rfl, ?_⟩
    rw [holds.validateKey, accepted]

/-- The cache knows a key exactly if a check of it was accepted and it was not put since, by
induction over the run.
-/
theorem freshlyCached_knows (memory : Memory) (before : List Visit)
    : ∃ cache contents,
        ((Front.freshlyCached memory).after before).Holds cache contents
        ∧ ∀ key admin,
            (cache.knows admin key = true
              ↔ Since (EndsAccepting memory key admin) (·.PutsKey key) before)
            ∧ (cache.knows admin key = true
              → Since (EndsAcceptable memory key admin) (·.PutsKey key) before) := by
  refine Front.freshlyCached_induct
    (motive := fun before cache _ => ∀ key admin,
      (cache.knows admin key = true
        ↔ Since (EndsAccepting memory key admin) (·.PutsKey key) before)
      ∧ (cache.knows admin key = true
        → Since (EndsAcceptable memory key admin) (·.PutsKey key) before)) ?_ ?_ before
  · intro key admin
    simp [Since.nil_iff, EndsAccepting]
  · intro before visit cache contents holds known key admin
    obtain ⟨since, backed⟩ := known key admin
    rw [Since.concat_iff, endsAccepting_concat holds, ← since]
    refine ⟨Visit.knows_cacheAfter visit cache contents key admin, fun knows => ?_⟩
    rw [Since.concat_iff]
    rcases (Visit.knows_cacheAfter visit cache contents key admin).mp knows with
      ⟨rfl, accepted⟩ | ⟨kept, unbroken⟩
    · rcases Bool.or_eq_true_iff.mp accepted with remembered | acceptable
      · exact .inr ⟨backed remembered, by simp [Visit.PutsKey]⟩
      · refine .inl ?_
        rw [EndsAcceptable, Front.after_concat, (holds.visit _).memory_eq]
        exact acceptable
    · exact .inr ⟨backed kept, unbroken⟩

/-- After a put of a key no check of it was accepted as long as there was none. -/
theorem unaccepted_after_put {earlier later : List Visit} {put : Visit} (puts : put.PutsKey key)
    (unchecked : ∀ visit ∈ later, ¬ visit.ChecksKey key)
    : ¬ Since (EndsAccepting memory key admin) (·.PutsKey key) (earlier ++ put :: later) := by
  intro since
  obtain ⟨more, initial, prior, split, _⟩ := since.after_broken puts
  rcases List.eq_nil_or_concat more with rfl | ⟨rest, last, rfl⟩
  · obtain ⟨_, same⟩ := List.append_inj' split rfl
    obtain ⟨apiKey, rfl, _⟩ := puts
    cases same
  · rw [List.concat_eq_append, ← List.cons_append, ← List.append_assoc] at split
    obtain ⟨_, same⟩ := List.append_inj' split rfl
    exact unchecked last (initial.subset (by simp)) ⟨admin, List.singleton_inj.mp same⟩

/-- A check through the cache is always answered, and accepted exactly if the contents accept
it now or the same check was accepted before and the key was not put through the cache since.
So a key works as soon as the contents have it, and what is accepted was acceptable to the
contents at the level asked for, since it was last put. The empty key is never accepted, and
the first check of a key that was put agrees with the contents.
-/
theorem validateKey_accepts_iff (memory : Memory) (before : List Visit) (key : String)
    (admin : Bool)
    : ∃ accepted,
        (Front.validateKey key admin ((Front.freshlyCached memory).after before)).1
          = .ok accepted
        ∧ (accepted = true
          ↔ EndsAcceptable memory key admin before
            ∨ Since (EndsAccepting memory key admin) (·.PutsKey key) before)
        ∧ (accepted = true → Since (EndsAcceptable memory key admin) (·.PutsKey key) before)
        ∧ (key = "" → accepted = false)
        ∧ ∀ earlier put later,
            before = earlier ++ put :: later
            → put.PutsKey key
            → (∀ visit ∈ later, ¬ visit.ChecksKey key)
            → (accepted = true ↔ EndsAcceptable memory key admin before) := by
  obtain ⟨cache, contents, holds, known⟩ := freshlyCached_knows memory before
  obtain ⟨since, backed⟩ := known key admin
  have acceptable : EndsAcceptable memory key admin before
      ↔ contents.acceptsKey key admin = true := by
    rw [EndsAcceptable, holds.memory_eq]
  have wasAcceptable : (cache.knows admin key || contents.acceptsKey key admin) = true
      → Since (EndsAcceptable memory key admin) (·.PutsKey key) before := by
    intro accepted
    rcases Bool.or_eq_true_iff.mp accepted with remembered | now
    · exact backed remembered
    · exact Since.now (acceptable.mpr now)
  refine ⟨_, holds.validateKey key admin, ?_, wasAcceptable, ?_, ?_⟩
  · rw [acceptable, ← since, Bool.or_eq_true_iff, or_comm]
  · rintro rfl
    refine Bool.eq_false_iff.mpr fun accepted => ?_
    obtain ⟨earlier, _, _, held, _⟩ := wasAcceptable accepted
    simp [EndsAcceptable, Memory.acceptsKey] at held
  · rintro earlier put later rfl puts unchecked
    rw [acceptable, Bool.or_eq_true_iff, or_iff_right]
    intro remembered
    exact unaccepted_after_put puts unchecked (since.mp remembered)

end FleetOps
