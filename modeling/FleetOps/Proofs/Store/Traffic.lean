import FleetOps.Proofs.Program
import FleetOps.Proofs.Store.Cache
import FleetOps.Store.Traffic

/-! Laws of calls whose accesses are made in any order. A call makes only accesses that belong to
its request, and one that is left alone ends as its procedure does when it is run at once.
-/

namespace FleetOps

-----------------------------------------------------------------------------------------
-- What the accesses of a request are
-----------------------------------------------------------------------------------------

/-- An access that a request may come to. -/
def Cache.Access.BelongsTo (request : StoreRequest) : Cache.Access → Prop
  | .knows admin key | .remember admin key | .validateKey admin key =>
      request = .validateKey key admin
  | .forget _ key => ∃ apiKey, request = .putKey apiKey ∧ apiKey.key = key
  | .putKey apiKey => request = .putKey apiKey
  | .isLoaded | .listRelays | .markLoaded =>
      request = .listRelays ∨ ∃ host, request = .getRelay host
  | .cachedRelays => request = .listRelays
  | .cachedRelay host | .getRelay host => request = .getRelay host
  | .cacheRelay relay =>
      request = .listRelays ∨ (∃ host, request = .getRelay host) ∨ request = .putRelay relay
  | .putRelay relay => request = .putRelay relay

namespace Cache

variable {α : Type} {allowed : Access → Prop} {next : Operation α}

/-- Caching relays asks for nothing else until it goes on. -/
theorem cacheRelays_asksOnly (follows : next.AsksOnly allowed)
    (caches : ∀ relay, allowed (.cacheRelay relay)) (relays : List Relay)
    : (cacheRelays next relays).AsksOnly allowed := by
  induction relays with
  | nil => exact follows
  | cons relay rest ih => exact ⟨caches relay, fun _ => ih⟩

/-- Loading the relays asks for nothing else until it goes on. -/
theorem afterLoading_asksOnly (follows : next.AsksOnly allowed) (looks : allowed .isLoaded)
    (lists : allowed .listRelays) (marks : allowed .markLoaded)
    (caches : ∀ relay, allowed (.cacheRelay relay))
    : (afterLoading next).AsksOnly allowed := by
  refine ⟨looks, fun loaded => ?_⟩
  cases loaded with
  | true => exact follows
  | false =>
      refine ⟨lists, fun answer => ?_⟩
      cases answer with
      | error fault => trivial
      | ok relays =>
          have marking : Program.AsksOnly allowed (.ask .markLoaded fun _ => next) :=
            ⟨marks, fun _ => follows⟩
          exact cacheRelays_asksOnly marking caches relays

end Cache

/-- A request makes only accesses that belong to it, by cases on the requests. -/
theorem StoreRequest.operation?_asksOnly {request : StoreRequest}
    {operation : Cache.Operation request.Answer} (known : request.operation? = some operation)
    : operation.AsksOnly (Cache.Access.BelongsTo request) := by
  cases request with
  | validateKey key admin =>
      obtain rfl := Option.some.inj known
      refine ⟨rfl, fun remembered => ?_⟩
      cases remembered with
      | true => trivial
      | false =>
          refine ⟨rfl, fun answer => ?_⟩
          rcases answer with fault | accepted
          · trivial
          · cases accepted with
            | true => exact ⟨rfl, fun _ => trivial⟩
            | false => trivial
  | putKey apiKey =>
      obtain rfl := Option.some.inj known
      exact ⟨⟨apiKey, rfl, rfl⟩, fun _ => ⟨⟨apiKey, rfl, rfl⟩, fun _ => ⟨rfl, fun _ => trivial⟩⟩⟩
  | listRelays =>
      obtain rfl := Option.some.inj known
      refine Cache.afterLoading_asksOnly ⟨rfl, fun _ => trivial⟩ (.inl rfl) (.inl rfl) (.inl rfl)
        fun _ => .inl rfl
  | getRelay host =>
      obtain rfl := Option.some.inj known
      refine Cache.afterLoading_asksOnly ⟨rfl, fun cached => ?_⟩ (.inr ⟨host, rfl⟩)
        (.inr ⟨host, rfl⟩) (.inr ⟨host, rfl⟩) fun _ => .inr (.inl ⟨host, rfl⟩)
      cases cached with
      | some relay => trivial
      | none =>
          refine ⟨rfl, fun answer => ?_⟩
          rcases answer with fault | found
          · trivial
          · cases found with
            | none => trivial
            | some relay => exact ⟨.inr (.inl ⟨host, rfl⟩), fun _ => trivial⟩
  | putRelay relay =>
      obtain rfl := Option.some.inj known
      refine ⟨rfl, fun answer => ?_⟩
      cases answer with
      | error fault => trivial
      | ok filed => exact ⟨.inr (.inr rfl), fun _ => trivial⟩
  | _ => cases known

/-- No access makes the backend fail or work again, by cases on the accesses. -/
theorem Cached.perform_outages (access : Cache.Access) (shared : Cached)
    : (Cached.perform access shared).2.backend.outages = shared.backend.outages := by
  have called {α : Type} (method : StoreMethod) (act : Memory → α × Memory)
      : (shared.backend.call method act).2.outages = shared.backend.outages := by
    unfold Backend.call
    split <;> rfl
  cases access <;> simp only [Cached.perform, Backend.read, Backend.write, called]

/-- A request that goes through the cache is its procedure, run without a break. -/
theorem StoreRequest.perform_operation {request : StoreRequest}
    {operation : Cache.Operation request.Answer} (known : request.operation? = some operation)
    (shared : Cached)
    : request.perform (.cached shared)
      = ((shared.run operation).1, .cached (shared.run operation).2) := by
  cases request with
  | validateKey | putKey | listRelays | getRelay | putRelay =>
      obtain rfl := Option.some.inj known
      rfl
  | _ => cases known

namespace Traffic

-----------------------------------------------------------------------------------------
-- One move after another
-----------------------------------------------------------------------------------------

/-- A call with an access to make has not returned. -/
theorem Call.not_returned {request : StoreRequest} {access : Cache.Access}
    {next : access.Answer → Cache.Operation request.Answer}
    : ¬ Call.Returned { request := request, rest := .ask access next } := by
  rintro ⟨answer, ended⟩
  cases ended

/-- What a move comes to: nothing, one more call, or one more access of a call. -/
inductive Moves (traffic : Traffic) : Move → Traffic → Prop
  | idle (move : Move) : Moves traffic move traffic
  | began {request : StoreRequest} {operation : Cache.Operation request.Answer}
    (known : request.operation? = some operation)
    : Moves traffic (.begins request)
        { traffic with calls := traffic.calls ++ [{ request := request, rest := operation }] }
  | accessed {number : Nat} {request : StoreRequest} {access : Cache.Access}
    {next : access.Answer → Cache.Operation request.Answer}
    (found : traffic.calls[number]? = some { request := request, rest := .ask access next })
    : Moves traffic (.accesses number)
        {
          shared := (Cached.perform access traffic.shared).2
          calls :=
            traffic.calls.set number
              { request := request, rest := next (Cached.perform access traffic.shared).1 }
        }

variable {traffic : Traffic} {move : Move}

/-- Setting a call to what it is changes nothing. -/
theorem set_calls_self {number : Nat} {call : Call} (found : traffic.calls[number]? = some call)
    : traffic.calls.set number call = traffic.calls := by
  obtain ⟨bound, rfl⟩ := List.getElem?_eq_some_iff.mp found
  exact List.set_getElem_self bound

/-- Every move is one of these, by cases on what is left of the call. -/
theorem moves_move (traffic : Traffic) (move : Move) : traffic.Moves move (traffic.move move) := by
  cases move with
  | begins request =>
      simp only [Traffic.move, begin]
      split
      · exact .began ‹_›
      · exact .idle _
  | accesses number =>
      simp only [Traffic.move, access]
      split
      · rename_i call found
        obtain ⟨request, rest⟩ := call
        cases rest with
        | done answer =>
            simp only [Call.access, Program.advance, set_calls_self found]
            exact .idle _
        | ask access next => exact .accessed found
      · exact .idle _

/-- A call that asks something goes on with what it is answered. -/
theorem move_accesses {number : Nat} {request : StoreRequest} {access : Cache.Access}
    {next : access.Answer → Cache.Operation request.Answer}
    (found : traffic.calls[number]? = some { request := request, rest := .ask access next })
    : traffic.move (.accesses number)
      = {
          shared := (Cached.perform access traffic.shared).2
          calls :=
            traffic.calls.set number
              { request := request, rest := next (Cached.perform access traffic.shared).1 }
        } := by
  simp only [Traffic.move, Traffic.access, found]
  rfl

/-- An access of a call is what its procedure asks for next. -/
theorem getElem?_move_accesses {number : Nat} {request : StoreRequest} {access : Cache.Access}
    {next : access.Answer → Cache.Operation request.Answer}
    (found : traffic.calls[number]? = some { request := request, rest := .ask access next })
    : (traffic.move (.accesses number)).calls[number]?
      = some { request := request, rest := next (Cached.perform access traffic.shared).1 } := by
  rw [move_accesses found]
  exact List.getElem?_set_self (List.getElem?_eq_some_iff.mp found).1

/-- What each move preserves, some moves preserve, by induction over them. -/
theorem after_induct {motive : Traffic → Prop} {moves : List Move} (start : motive traffic)
    (step
      : ∀ move ∈ moves, ∀ earlier later,
          motive earlier → earlier.Moves move later → motive later)
    : motive (traffic.after moves) := by
  induction moves generalizing traffic with
  | nil => exact start
  | cons first rest ih =>
      have one : motive (traffic.move first) :=
        step first List.mem_cons_self traffic _ start (moves_move traffic first)
      exact ih one fun move member => step move (List.mem_cons_of_mem first member)

/-- What holds of each call, by its number. -/
def Each (traffic : Traffic) (holds : Nat → Call → Prop) : Prop :=
  ∀ number call, traffic.calls[number]? = some call → holds number call

namespace Each

variable {holds : Nat → Call → Prop}

/-- What holds of each call implies what follows from it. -/
theorem mono {weaker : Nat → Call → Prop} (each : traffic.Each holds)
    (implies : ∀ number call, holds number call → weaker number call)
    : traffic.Each weaker :=
  fun number call found => implies number call (each number call found)

/-- What holds of each call and of the one that begins holds of all of them. -/
theorem began {call : Call} (each : traffic.Each holds) (new : holds traffic.calls.length call)
    : Each { traffic with calls := traffic.calls ++ [call] } holds := by
  intro number other found
  rcases Nat.lt_trichotomy number traffic.calls.length with old | rfl | beyond
  · rw [List.getElem?_append_left old] at found
    exact each number other found
  · rw [List.getElem?_concat_length] at found
    obtain rfl := Option.some.inj found
    exact new
  · rw [List.getElem?_eq_none (by simpa using Nat.succ_le_of_lt beyond)] at found
    cases found

/-- What holds of each call and of what is left of one holds of all of them. -/
theorem accessed {number : Nat} {call : Call} (each : traffic.Each holds)
    (new : holds number call) (shared : Cached)
    : Each { shared := shared, calls := traffic.calls.set number call } holds := by
  intro other later found
  by_cases same : number = other
  · subst same
    obtain ⟨bound, rfl⟩ := List.getElem?_eq_some_iff.mp found
    rwa [List.getElem_set_self]
  · rw [List.getElem?_set_ne same] at found
    exact each other later found

end Each

-----------------------------------------------------------------------------------------
-- What is left of calls
-----------------------------------------------------------------------------------------

/-- The backend works, and what is left of each call is left of the procedure of its request. -/
structure Regular (traffic : Traffic) : Prop where
  works : traffic.shared.backend.outages = []
  left
    : traffic.Each fun _ call =>
        ∃ operation, call.request.operation? = some operation ∧ operation.Leaves call.rest

namespace Regular

/-- Quiet traffic is regular. -/
theorem quiet (memory : Memory) : (Traffic.quiet memory).Regular where
  works := rfl
  left := by
    intro number call found
    cases found

/-- A move keeps traffic regular. -/
theorem moves {later : Traffic} (regular : traffic.Regular) (moves : traffic.Moves move later)
    : later.Regular := by
  cases moves with
  | idle => exact regular
  | @began request operation known =>
      exact ⟨regular.works, regular.left.began ⟨operation, known, .whole⟩⟩
  | @accessed number request access next found =>
      obtain ⟨operation, known, left⟩
          : ∃ operation,
              request.operation? = some operation ∧ operation.Leaves (.ask access next) :=
        regular.left number _ found
      exact {
        works := (Cached.perform_outages access traffic.shared).trans regular.works
        left := regular.left.accessed ⟨operation, known, left.answered _⟩ _
      }

/-- Any number of moves keep traffic regular. -/
theorem after (regular : traffic.Regular) (moves : List Move) : (traffic.after moves).Regular :=
  after_induct regular fun _ _ _ _ earlier moves => earlier.moves moves

/-- The next access of a call belongs to its request. -/
theorem belongs {number : Nat} {request : StoreRequest} {access : Cache.Access}
    {next : access.Answer → Cache.Operation request.Answer} (regular : traffic.Regular)
    (found : traffic.calls[number]? = some { request := request, rest := .ask access next })
    : access.BelongsTo request := by
  obtain ⟨operation, known, left⟩ := regular.left number _ found
  exact ((StoreRequest.operation?_asksOnly known).left left).1

end Regular

-----------------------------------------------------------------------------------------
-- Calls that are left alone
-----------------------------------------------------------------------------------------

/-- A call that is left alone ends as what is left of it does when it is run without a break, by
induction on what is left.
-/
theorem after_alone {number : Nat} {request : StoreRequest}
    {rest : Cache.Operation request.Answer}
    (found : traffic.calls[number]? = some { request := request, rest := rest })
    : ∃ count,
        traffic.after (List.replicate count (.accesses number))
          = {
              shared := (traffic.shared.run rest).2
              calls :=
                traffic.calls.set number
                  { request := request, rest := .done (traffic.shared.run rest).1 }
            } := by
  induction rest generalizing traffic with
  | done answer => exact ⟨0, by simp [Cached.run, Program.run, set_calls_self found]⟩
  | ask access next ih =>
      let answered : Call :=
        { request := request, rest := next (Cached.perform access traffic.shared).1 }
      let later : Traffic :=
        {
          shared := (Cached.perform access traffic.shared).2
          calls := traffic.calls.set number answered
        }
      have first : traffic.move (.accesses number) = later := move_accesses found
      have left : later.calls[number]? = some answered :=
        List.getElem?_set_self (List.getElem?_eq_some_iff.mp found).1
      obtain ⟨count, ended⟩ := ih _ left
      refine ⟨count + 1, ?_⟩
      rw [List.replicate_succ, after_cons, first, ended, List.set_set]
      rfl

/-- A call that is left alone from its beginning on does what its request does to a store with a
cache.
-/
theorem after_begins_alone (traffic : Traffic) (request : StoreRequest)
    {operation : Cache.Operation request.Answer} (known : request.operation? = some operation)
    : ∃ count shared,
        traffic.after (.begins request :: List.replicate count (.accesses traffic.calls.length))
          = {
              shared := shared
              calls :=
                traffic.calls
                ++ [{
                  request := request
                  rest := .done (request.perform (.cached traffic.shared)).1
                }]
            }
        ∧ Front.cached shared = (request.perform (.cached traffic.shared)).2 := by
  let start : Traffic :=
    { traffic with calls := traffic.calls ++ [{ request := request, rest := operation }] }
  have begun : traffic.move (.begins request) = start := by
    simp only [Traffic.move, begin, known, start]
  have found : start.calls[traffic.calls.length]?
      = some { request := request, rest := operation } :=
    List.getElem?_concat_length
  obtain ⟨count, ended⟩ := after_alone found
  rw [StoreRequest.perform_operation known]
  refine ⟨count, (traffic.shared.run operation).2, ?_, rfl⟩
  rw [after_cons, begun, ended]
  simp [start]

end Traffic

end FleetOps
