import FleetOps.Proofs.Store.Memory
import FleetOps.Proofs.Store.Traffic

/-! Whether a key that was put without the administrator's level is refused at that level from
then on, when keys are checked and put at the same time. It is unless a check that was accepted
before the put remembers the key after the put has made the cache forget it.
-/

namespace FleetOps

/-- The request puts a key of a name. -/
def StoreRequest.PutsKey (key : String) (request : StoreRequest) : Prop :=
  ∃ apiKey, request = .putKey apiKey ∧ apiKey.key = key

-----------------------------------------------------------------------------------------
-- What accesses do to a key
-----------------------------------------------------------------------------------------

namespace Cached

variable {access : Cache.Access} {shared : Cached} {key : String} {admin : Bool}

/-- Only the filing of a key changes whether the backend accepts it, by cases on the accesses. -/
theorem perform_acceptsKey (kept : ∀ apiKey, access = .putKey apiKey → apiKey.key ≠ key)
    (shared : Cached) (admin : Bool)
    : (perform access shared).2.backend.memory.acceptsKey key admin
      = shared.backend.memory.acceptsKey key admin := by
  have called {α : Type} (method : StoreMethod) (act : Memory → α × Memory)
      (same
        : (act shared.backend.memory).2.acceptsKey key admin
          = shared.backend.memory.acceptsKey key admin)
      : (shared.backend.call method act).2.memory.acceptsKey key admin
        = shared.backend.memory.acceptsKey key admin := by
    unfold Backend.call
    split
    · rfl
    · exact same
  cases access with
  | putKey apiKey =>
      have different : key ≠ apiKey.key := (kept apiKey rfl).symm
      simp only [perform, Backend.write]
      refine called _ _ ?_
      exact (Memory.acceptsKey_putKey _ apiKey key admin).trans (if_neg different)
  | validateKey | listRelays | getRelay | putRelay =>
      simp only [perform, Backend.read, Backend.write]
      exact called _ _ rfl
  | _ => rfl

/-- A key is not remembered before it is taken up, by cases on the accesses. -/
theorem perform_knows (kept : access ≠ .remember admin key)
    (forgotten : shared.cache.knows admin key = false)
    : (perform access shared).2.cache.knows admin key = false := by
  cases access with
  | remember level name =>
      have different : ¬ (admin = level ∧ key = name) := by
        rintro ⟨rfl, rfl⟩
        exact kept rfl
      simp [perform, Cache.knows_remember, forgotten, different]
  | forget => simp [perform, Cache.knows_forget, forgotten]
  | _ => exact forgotten

/-- The backend works and refuses a key to administrators, and the cache does not know the key at
that level.
-/
structure Refuses (shared : Cached) (key : String) : Prop where
  works : shared.backend.outages = []
  refused : shared.backend.memory.acceptsKey key true = false
  forgotten : shared.cache.knows true key = false

/-- An access that neither puts the key nor remembers it keeps it refused. -/
theorem Refuses.perform (refuses : shared.Refuses key)
    (unfiled : ∀ apiKey, access = .putKey apiKey → apiKey.key ≠ key)
    (unremembered : access ≠ .remember true key)
    : (perform access shared).2.Refuses key where
  works := (perform_outages access shared).trans refuses.works
  refused := (perform_acceptsKey unfiled shared true).trans refuses.refused
  forgotten := perform_knows unremembered refuses.forgotten

end Cached

-----------------------------------------------------------------------------------------
-- How far checks and puts are
-----------------------------------------------------------------------------------------

namespace Cache

/-- What is left of a check whose key was not remembered. -/
def judging (admin : Bool) (key : String) : Operation Bool :=
  .ask (.validateKey admin key) fun answer =>
    match answer with
    | .error fault => .done (.error fault)
    | .ok false => .done (.ok false)
    | .ok true => .ask (.remember admin key) fun _ => .done (.ok true)

/-- What is left of a check whose key was accepted. -/
def remembering (admin : Bool) (key : String) : Operation Bool :=
  .ask (.remember admin key) fun _ => .done (.ok true)

/-- What can be left of a check, by induction on its answers. -/
theorem validateKey_leaves {admin : Bool} {key : String} {rest : Operation Bool}
    (left : (validateKey admin key).Leaves rest)
    : rest = validateKey admin key
      ∨ rest = judging admin key
      ∨ rest = remembering admin key
      ∨ ∃ answer, rest = .done answer := by
  induction left with
  | whole => exact .inl rfl
  | answered _ answer ih =>
      rcases ih with begun | judging | remembering | ⟨value, ended⟩
      · cases begun
        cases answer with
        | true => exact .inr (.inr (.inr ⟨_, rfl⟩))
        | false => exact .inr (.inl rfl)
      · cases judging
        rcases answer with fault | accepted
        · exact .inr (.inr (.inr ⟨_, rfl⟩))
        · cases accepted with
          | true => exact .inr (.inr (.inl rfl))
          | false => exact .inr (.inr (.inr ⟨_, rfl⟩))
      · cases remembering
        exact .inr (.inr (.inr ⟨_, rfl⟩))
      · cases ended

/-- How far a put of a key is and what it has come to. That the cache does not know the key is
certain only if the key goes unchecked meanwhile.
-/
inductive PutStage (apiKey : ApiKey) (unchecked : Prop) (shared : Cached) : Operation Unit → Prop
  | begun : PutStage apiKey unchecked shared (putKey apiKey)
  | halfway
    : PutStage apiKey unchecked shared
        (.ask (.forget true apiKey.key) fun _ => .ask (.putKey apiKey) .done)
  | forgotten (forgets : unchecked → shared.cache.knows true apiKey.key = false)
    : PutStage apiKey unchecked shared (.ask (.putKey apiKey) .done)
  | returned (answer : Except StoreFault Unit)
    (refuses : shared.backend.memory.acceptsKey apiKey.key true = false)
    (forgets : unchecked → shared.cache.knows true apiKey.key = false)
    : PutStage apiKey unchecked shared (.done answer)

namespace PutStage

variable {apiKey : ApiKey} {unchecked : Prop} {shared : Cached} {access : Access}

/-- An access of another call leaves a put where it is, if that call neither puts nor takes up the
key.
-/
theorem elsewhere {rest : Operation Unit} (stage : PutStage apiKey unchecked shared rest)
    (unput : ∀ other, access = .putKey other → other.key ≠ apiKey.key)
    (unremembered : unchecked → access ≠ .remember true apiKey.key)
    : PutStage apiKey unchecked (Cached.perform access shared).2 rest := by
  cases stage with
  | begun => exact .begun
  | halfway => exact .halfway
  | forgotten forgets =>
      exact .forgotten fun h => Cached.perform_knows (unremembered h) (forgets h)
  | returned answer refuses forgets =>
      refine .returned answer ?_ fun h => Cached.perform_knows (unremembered h) (forgets h)
      exact (Cached.perform_acceptsKey unput shared true).trans refuses

/-- An access of its own takes a put of a key that is no administrator's on. -/
theorem next {next : access.Answer → Operation Unit} (works : shared.backend.outages = [])
    (demoted : apiKey.admin = false)
    (stage : PutStage apiKey unchecked shared (.ask access next))
    : PutStage apiKey unchecked (Cached.perform access shared).2
        (next (Cached.perform access shared).1) := by
  generalize asked : Program.ask access next = rest at stage
  cases stage with
  | begun =>
      cases asked
      exact .halfway
  | halfway =>
      cases asked
      exact .forgotten fun _ => by simp [Cached.perform, knows_forget]
  | forgotten forgets =>
      cases asked
      refine .returned _ ?_ forgets
      simp [Cached.perform, Backend.write, Backend.call_works works, Memory.acceptsKey_putKey,
        demoted]
  | returned => cases asked

end PutStage

/-- What is left of a check of a key that the backend refuses and the cache does not know: it is
not accepted any more, and one that began late is refused.
-/
def Refusing (key : String) (late : Prop) (rest : Operation Bool) : Prop :=
  rest = validateKey true key
  ∨ rest = judging true key
  ∨ ∃ answer, rest = .done answer ∧ (late → answer = .ok false)

/-- A check of a refused key goes on as one. -/
theorem Refusing.next {key : String} {late : Prop} {shared : Cached} {access : Access}
    {next : access.Answer → Operation Bool} (refusing : Refusing key late (.ask access next))
    (refuses : shared.Refuses key)
    : Refusing key late (next (Cached.perform access shared).1) := by
  rcases refusing with begun | judging | ⟨answer, ended, _⟩
  · cases begun
    simp only [Cached.perform, refuses.forgotten]
    exact .inr (.inl rfl)
  · cases judging
    simp only [Cached.perform, Backend.read, Backend.call_works refuses.works, refuses.refused]
    exact .inr (.inr ⟨_, rfl, fun _ => rfl⟩)
  · cases ended

/-- A check that began late and goes on alone is refused. -/
theorem Refusing.run {key : String} {late : Prop} {shared : Cached} {rest : Operation Bool}
    (refusing : Refusing key late rest) (refuses : shared.Refuses key) (began : late)
    : (shared.run rest).1 = .ok false := by
  have judged : (shared.run (judging true key)).1 = .ok false := by
    simp [Cached.run, judging, Program.run, Cached.perform, Backend.read,
      Backend.call_works refuses.works, refuses.refused]
  rcases refusing with rfl | rfl | ⟨answer, rfl, ended⟩
  · simp only [Cached.run, validateKey, Program.run, Cached.perform, refuses.forgotten]
    exact judged
  · exact judged
  · exact ended began

/-- A check of a refused key never remembers it. -/
theorem Refusing.asks_not_remember {key : String} {late : Prop} {rest : Operation Bool}
    (refusing : Refusing key late rest)
    : ¬ rest.Asks (.remember true key) := by
  rintro ⟨next, rfl⟩
  rcases refusing with begun | judging | ⟨answer, ended, _⟩
  · cases begun
  · cases judging
  · cases ended

end Cache

-----------------------------------------------------------------------------------------
-- While a key is put, and afterwards
-----------------------------------------------------------------------------------------

namespace Traffic

variable {memory : Memory} {apiKey : ApiKey} {before during : List Move} {key : String}
  {traffic later : Traffic} {move : Move} {number : Nat} {unchecked : Prop}

/-- A put of a key under way, while nobody else puts that key. -/
structure Putting (apiKey : ApiKey) (unchecked : Prop) (number : Nat) (traffic : Traffic)
    : Prop where
  regular : traffic.Regular
  stage
    : ∃ rest,
        traffic.calls[number]? = some { request := .putKey apiKey, rest := rest }
        ∧ Cache.PutStage apiKey unchecked traffic.shared rest
  unput
    : traffic.Each fun other call =>
        other ≠ number → call.request.PutsKey apiKey.key → call.Returned
  unchecked
    : unchecked
      → traffic.Each fun _ call =>
          call.request = .validateKey apiKey.key true → call.Returned

/-- Every move leaves a put where it is or takes it on, unless it puts the key again. -/
theorem Putting.moves (putting : traffic.Putting apiKey unchecked number)
    (demoted : apiKey.admin = false)
    (alone
      : ∀ request, move = .begins request →
          ¬ request.PutsKey apiKey.key
          ∧ (unchecked → request ≠ .validateKey apiKey.key true))
    (moves : traffic.Moves move later)
    : later.Putting apiKey unchecked number := by
  obtain ⟨rest, found, stage⟩ := putting.stage
  have bound : number < traffic.calls.length := (List.getElem?_eq_some_iff.mp found).1
  have regular := putting.regular.moves moves
  cases moves with
  | idle => exact putting
  | @began request operation known =>
      obtain ⟨unput, unchecking⟩ := alone request rfl
      exact {
        regular := regular
        stage := ⟨rest, (List.getElem?_append_left bound).trans found, stage⟩
        unput := putting.unput.began fun _ puts => (unput puts).elim
        unchecked := fun h =>
          (putting.unchecked h).began fun checks => (unchecking h checks).elim
      }
  | @accessed other request access next asked =>
      have belongs := putting.regular.belongs asked
      refine ⟨regular, ?_, ?_, ?_⟩
      · by_cases same : other = number
        · subst same
          cases Option.some.inj (found.symm.trans asked)
          exact ⟨_, List.getElem?_set_self bound, stage.next putting.regular.works demoted⟩
        · refine ⟨rest, (List.getElem?_set_ne same).trans found, stage.elsewhere ?_ ?_⟩
          · rintro filed rfl named
            exact Call.not_returned (putting.unput other _ asked same ⟨filed, belongs, named⟩)
          · rintro h rfl
            exact Call.not_returned (putting.unchecked h other _ asked belongs)
      · refine putting.unput.accessed (fun different puts => ?_) _
        exact (Call.not_returned (putting.unput other _ asked different puts)).elim
      · intro h
        refine (putting.unchecked h).accessed (fun checks => ?_) _
        exact (Call.not_returned (putting.unchecked h other _ asked checks)).elim

/-- A key that the backend refuses to administrators, and that the cache does not know nor any
call is about to make it know. The checks from a number on began after this was so.
-/
structure Revoked (key : String) (since : Nat) (traffic : Traffic) : Prop where
  regular : traffic.Regular
  refuses : traffic.shared.Refuses key
  unput : traffic.Each fun _ call => call.request.PutsKey key → call.Returned
  checks
    : traffic.Each fun number call =>
        ∀ rest,
          call = { request := .validateKey key true, rest := rest }
          → Cache.Refusing key (since ≤ number) rest

/-- Every move leaves a key revoked, unless it puts the key again. -/
theorem Revoked.moves {since : Nat} (revoked : traffic.Revoked key since)
    (unput : ∀ request, move = .begins request → ¬ request.PutsKey key)
    (moves : traffic.Moves move later)
    : later.Revoked key since := by
  have regular := revoked.regular.moves moves
  cases moves with
  | idle => exact revoked
  | @began request operation known =>
      refine ⟨regular, revoked.refuses,
        revoked.unput.began fun puts => (unput request rfl puts).elim, ?_⟩
      refine revoked.checks.began fun rest same => ?_
      cases same
      exact .inl (Option.some.inj known).symm
  | @accessed number request access next asked =>
      have belongs := revoked.regular.belongs asked
      have unfiled : ∀ filed, access = .putKey filed → filed.key ≠ key := by
        rintro filed rfl named
        exact Call.not_returned (revoked.unput number _ asked ⟨filed, belongs, named⟩)
      have unremembered : access ≠ .remember true key := by
        rintro rfl
        obtain rfl : request = .validateKey key true := belongs
        exact (revoked.checks number _ asked _ rfl).asks_not_remember ⟨next, rfl⟩
      refine ⟨regular, revoked.refuses.perform unfiled unremembered, ?_, ?_⟩
      · refine revoked.unput.accessed (fun puts => ?_) _
        exact (Call.not_returned (revoked.unput number _ asked puts)).elim
      · refine revoked.checks.accessed (fun rest same => ?_) _
        cases same
        exact (revoked.checks number _ asked _ rfl).next revoked.refuses

-----------------------------------------------------------------------------------------
-- Whether a put revokes a key
-----------------------------------------------------------------------------------------

/-- What comes of a put of a key that begins after some moves, and of more moves. -/
def afterPut (memory : Memory) (apiKey : ApiKey) (before during : List Move) : Traffic :=
  (quiet memory).after (before ++ .begins (.putKey apiKey) :: during)

/-- A put of a key that has returned, and that no other put of the key overlapped. -/
structure LonePut (memory : Memory) (apiKey : ApiKey) (before during : List Move) : Prop where
  earlier
    : ∀ call ∈ ((quiet memory).after before).calls,
        call.request.PutsKey apiKey.key → call.Returned
  alone : ∀ request, .begins request ∈ during → ¬ request.PutsKey apiKey.key
  returned
    : ∃ answer,
        (afterPut memory apiKey before during).calls[((quiet memory).after before).calls.length]?
          = some { request := .putKey apiKey, rest := .done answer }

/-- No check of a key at the administrator's level overlaps a put that begins after some moves and
returns after some more.
-/
structure UncheckedPut (memory : Memory) (key : String) (before during : List Move)
    : Prop where
  earlier
    : ∀ call ∈ ((quiet memory).after before).calls,
        call.request = .validateKey key true → call.Returned
  during : .begins (.validateKey key true) ∉ during

/-- As long as the key is not put again, every check of it at the administrator's level that
begins from now on is refused: one that has returned was, and any other is when it goes on alone.
-/
def Revokes (traffic : Traffic) (key : String) : Prop :=
  ∀ later,
    (∀ request, .begins request ∈ later → ¬ request.PutsKey key)
    → ∀ number rest,
        traffic.calls.length ≤ number
        → (traffic.after later).calls[number]?
            = some { request := .validateKey key true, rest := rest }
        → ((traffic.after later).shared.run rest).1 = .ok false

/-- The cache knows the key at the administrator's level, or a check is about to tell it. -/
def Lingers (traffic : Traffic) (key : String) : Prop :=
  traffic.shared.cache.knows true key = true
  ∨ ∃ call ∈ traffic.calls, call.rest.Asks (.remember true key)

/-- A key that is revoked for all checks from now on is refused by them. -/
theorem Revoked.revokes (revoked : traffic.Revoked key traffic.calls.length)
    : traffic.Revokes key := by
  intro later unput number rest late found
  have still := after_induct (motive := (·.Revoked key traffic.calls.length)) revoked
    fun move member _ _ held moves =>
      held.moves (fun request begins => unput request (begins ▸ member)) moves
  exact (still.checks number _ found _ rfl).run still.refuses late

/-- A key that is revoked the cache does not know: else a check would be accepted at once. -/
theorem Revokes.forgotten (revokes : traffic.Revokes key)
    : traffic.shared.cache.knows true key = false := by
  refine Bool.eq_false_iff.mpr fun known => ?_
  have accepted : ((StoreRequest.validateKey key true).perform (.cached traffic.shared)).1
      = .ok true := by
    rw [StoreRequest.perform_operation rfl]
    simp only [Cached.run, Cache.validateKey, Program.run, Cached.perform, known]
    rfl
  obtain ⟨count, shared, ended, _⟩ := traffic.after_begins_alone (.validateKey key true) rfl
  have refused := revokes _ ?_ traffic.calls.length _ (Nat.le_refl _)
    ((congrArg (·.calls[traffic.calls.length]?) ended).trans List.getElem?_concat_length)
  · rw [accepted] at refused
    cases refused
  · intro request begins
    rcases List.mem_cons.mp begins with same | accesses
    · cases same
      rintro ⟨apiKey, same, _⟩
      cases same
    · cases (List.eq_of_mem_replicate accesses)

/-- A revoked key stays so while calls make more accesses. -/
theorem Revokes.access (revokes : traffic.Revokes key) (number : Nat)
    : (traffic.access number).Revokes key := by
  have same : (traffic.access number).calls.length = traffic.calls.length := by
    simp only [Traffic.access]
    split <;> simp
  intro later unput other rest late found
  rw [same] at late
  refine revokes (.accesses number :: later) ?_ other rest late found
  intro request begins
  rcases List.mem_cons.mp begins with same | begins
  · cases same
  · exact unput request begins

/-- What revokes a key leaves it nowhere to linger. -/
theorem Revokes.not_lingers (revokes : traffic.Revokes key) : ¬ traffic.Lingers key := by
  rintro (known | ⟨call, member, next, asks⟩)
  · rw [revokes.forgotten] at known
    cases known
  · obtain ⟨number, found⟩ := List.mem_iff_getElem?.mp member
    have forgotten := (revokes.access number).forgotten
    have told : (traffic.access number).shared.cache.knows true key = true := by
      simp only [Traffic.access, found, Call.access, asks, Program.advance, Cached.perform,
        Cache.knows_remember]
      simp
    rw [forgotten] at told
    cases told

/-- A put that nobody else overlaps with one is under way from its beginning on. -/
theorem LonePut.putting (put : LonePut memory apiKey before during)
    (demoted : apiKey.admin = false)
    : (afterPut memory apiKey before during).Putting apiKey
        (UncheckedPut memory apiKey.key before during)
        ((quiet memory).after before).calls.length := by
  have earlier {holds : Call → Prop}
      (each : ∀ call ∈ ((quiet memory).after before).calls, holds call)
      : ((quiet memory).after before).Each fun _ call => holds call :=
    fun number call found => each call (List.mem_of_getElem? found)
  have begun : (((quiet memory).after before).move (.begins (.putKey apiKey))).Putting apiKey
      (UncheckedPut memory apiKey.key before during)
      ((quiet memory).after before).calls.length :=
    {
      regular := ((Regular.quiet memory).after before).moves (moves_move _ _)
      stage := ⟨_, List.getElem?_concat_length, .begun⟩
      unput :=
        Each.began ((earlier put.earlier).mono fun _ _ returned _ => returned)
          fun different => (different rfl).elim
      unchecked := fun unchecked =>
        Each.began (earlier unchecked.earlier) fun checks => by cases checks
    }
  rw [afterPut, after_append, after_cons]
  refine after_induct begun fun move member _ _ held moves => held.moves demoted ?_ moves
  rintro request rfl
  refine ⟨put.alone request member, ?_⟩
  rintro unchecked rfl
  exact unchecked.during member

/-- Once a lone put has returned the backend refuses the key, and the cache does not know it if no
check of it overlapped the put.
-/
theorem LonePut.refuses (put : LonePut memory apiKey before during)
    (demoted : apiKey.admin = false)
    : (afterPut memory apiKey before during).shared.backend.memory.acceptsKey apiKey.key true
        = false
      ∧ (UncheckedPut memory apiKey.key before during
        → (afterPut memory apiKey before during).shared.cache.knows true apiKey.key = false) := by
  obtain ⟨answer, returned⟩ := put.returned
  obtain ⟨rest, found, stage⟩ := (put.putting demoted).stage
  cases Option.some.inj (found.symm.trans returned)
  cases stage with
  | returned _ refuses forgets => exact ⟨refuses, forgets⟩

/-- After a lone put of a key that is no administrator's, the key is revoked if it does not
linger.
-/
theorem LonePut.revoked (put : LonePut memory apiKey before during)
    (demoted : apiKey.admin = false)
    (vanished : ¬ (afterPut memory apiKey before during).Lingers apiKey.key)
    : (afterPut memory apiKey before during).Revoked apiKey.key
        (afterPut memory apiKey before during).calls.length := by
  obtain ⟨answer, returned⟩ := put.returned
  have putting := put.putting demoted
  have regular := putting.regular
  have forgotten := Bool.eq_false_iff.mpr fun known => vanished (.inl known)
  refine ⟨regular, ⟨regular.works, (put.refuses demoted).1, forgotten⟩, ?_, ?_⟩
  · intro number call asked puts
    by_cases same : number = ((quiet memory).after before).calls.length
    · subst same
      cases Option.some.inj (asked.symm.trans returned)
      exact ⟨answer, rfl⟩
    · exact putting.unput number call asked same puts
  · rintro number call asked rest rfl
    obtain ⟨operation, known, left⟩ := regular.left number _ asked
    cases known
    rcases Cache.validateKey_leaves left with begun | judging | remembering | ⟨value, ended⟩
    · exact .inl begun
    · exact .inr (.inl judging)
    · exact (vanished (.inr ⟨_, List.mem_of_getElem? asked, _, remembering⟩)).elim
    · refine .inr (.inr ⟨value, ended, fun late => ?_⟩)
      have bound := (List.getElem?_eq_some_iff.mp asked).1
      exact (Nat.not_lt.mpr late bound).elim

/-- A key does not linger after a lone put of it that no check overlaps. -/
theorem LonePut.not_lingers (put : LonePut memory apiKey before during)
    (demoted : apiKey.admin = false)
    (unchecked : UncheckedPut memory apiKey.key before during)
    : ¬ (afterPut memory apiKey before during).Lingers apiKey.key := by
  have putting := put.putting demoted
  rintro (known | ⟨⟨request, left⟩, member, next, asks⟩)
  · rw [(put.refuses demoted).2 unchecked] at known
    cases known
  · obtain ⟨number, asked⟩ := List.mem_iff_getElem?.mp member
    have asks : left = .ask (.remember true apiKey.key) next := asks
    rw [asks] at asked
    have checks := putting.regular.belongs asked
    exact Call.not_returned (putting.unchecked unchecked number _ asked checks)

/-- After a put of a key that is no administrator's, which no other put of that key overlaps, the
key is refused to administrators from then on exactly if it does not linger, that is, if neither
the cache knows it nor a check that was accepted before is still to tell the cache. So it is
refused if no check of it overlaps the put.
-/
theorem revokes_iff_not_lingers (demoted : apiKey.admin = false)
    (put : LonePut memory apiKey before during)
    : ((afterPut memory apiKey before during).Revokes apiKey.key
        ↔ ¬ (afterPut memory apiKey before during).Lingers apiKey.key)
      ∧ (UncheckedPut memory apiKey.key before during
        → (afterPut memory apiKey before during).Revokes apiKey.key) := by
  have revokes := fun vanished => (put.revoked demoted vanished).revokes
  exact ⟨⟨Revokes.not_lingers, revokes⟩,
    fun unchecked => revokes (put.not_lingers demoted unchecked)⟩

/-- A check of a key from its beginning to its end. -/
def checking (key : String) (number : Nat) : List Move :=
  [.begins (.validateKey key true), .accesses number, .accesses number, .accesses number]

/-- A key `k`, with the administrator's level or without. -/
def keyFor (admin : Bool) : ApiKey := { key := "k", label := "ops", admin := admin }

/-- A check that returned before the put began leaves nothing behind. -/
theorem put_after_check_revokes
    : let memory := Memory.empty.putKey (keyFor true)
      let before := checking "k" 0
      let during : List Move := [.accesses 1, .accesses 1, .accesses 1]
      LonePut memory (keyFor false) before during
      ∧ UncheckedPut memory "k" before during
      ∧ (afterPut memory (keyFor false) before during).Revokes "k" := by
  intro memory before during
  have accepted : memory.acceptsKey "k" true = true := rfl
  have earlier : ((quiet memory).after before).calls
      = [{ request := .validateKey "k" true, rest := .done (.ok true) }] := by
    simp [before, checking, quiet, Traffic.move, begin, StoreRequest.operation?, access,
      Call.access, Program.advance, Cache.validateKey, Cached.perform, Cache.knows, Cache.empty,
      Backend.read, Backend.call, Backend.fault?, Backend.ofMemory, accepted]
    rfl
  have returned
      : (afterPut memory (keyFor false) before during).calls[1]?
        = some { request := .putKey (keyFor false), rest := .done (.ok ()) } := by
    simp [afterPut, during, before, checking, quiet, Traffic.move, begin,
      StoreRequest.operation?, access, Call.access, Program.advance, Cache.validateKey,
      Cache.putKey, Cached.perform, Cache.knows, Cache.empty, Backend.read, Backend.write,
      Backend.call, Backend.fault?, Backend.ofMemory, accepted]
    rfl
  have put : LonePut memory (keyFor false) before during :=
    {
      earlier := by simp [earlier, Call.Returned]
      alone := by simp [during]
      returned := by
        rw [earlier]
        exact ⟨.ok (), returned⟩
    }
  have unchecked : UncheckedPut memory "k" before during :=
    {
      earlier := by simp [earlier, Call.Returned]
      during := by simp [during]
    }
  exact ⟨put, unchecked, (revokes_iff_not_lingers rfl put).2 unchecked⟩

/-- The moves of a put and of a check of its key that falls between the put's accesses to the
cache and the one to the backend.
-/
def overtaken (key : String) : List Move :=
  .accesses 0 :: .accesses 0 :: checking key 1 ++ [.accesses 0]

/-- A check that is accepted before the put files the key, and remembers it after the put forgot
it, makes the key linger.
-/
theorem afterPut_overtaken (accepted : memory.acceptsKey apiKey.key true = true)
    : (afterPut memory apiKey [] (overtaken apiKey.key)).shared.cache
        = Cache.empty.remember true apiKey.key
      ∧ (afterPut memory apiKey [] (overtaken apiKey.key)).calls
        = [{ request := .putKey apiKey, rest := .done (.ok ()) },
            { request := .validateKey apiKey.key true, rest := .done (.ok true) }] := by
  simp [afterPut, overtaken, checking, quiet, Traffic.move, begin, StoreRequest.operation?,
    access, Call.access, Program.advance, Cache.validateKey, Cache.putKey, Cached.perform,
    Cache.knows, Cache.empty, Cache.forget, Cache.remember, Backend.read, Backend.write,
    Backend.call, Backend.fault?, Backend.ofMemory, accepted]
  exact ⟨rfl, rfl⟩

/-- So a put does not take the administrator's level away from a key if a check overtakes it. -/
theorem check_outlasts_put
    : ¬ ∀ memory apiKey before during,
        apiKey.admin = false
        → LonePut memory apiKey before during
        → (afterPut memory apiKey before during).Revokes apiKey.key := by
  intro revokes
  have accepted : (Memory.empty.putKey (keyFor true)).acceptsKey (keyFor false).key true = true :=
    rfl
  obtain ⟨cache, calls⟩ := afterPut_overtaken accepted
  have put : LonePut (Memory.empty.putKey (keyFor true)) (keyFor false) []
      (overtaken (keyFor false).key) :=
    {
      earlier := by simp [quiet]
      alone := by simp [overtaken, checking, StoreRequest.PutsKey]
      returned := by
        rw [calls]
        exact ⟨.ok (), rfl⟩
    }
  have forgotten := (revokes _ _ _ _ rfl put).forgotten
  rw [cache, Cache.knows_remember] at forgotten
  simp at forgotten

end Traffic

end FleetOps
