import FleetOps.Store.Request

/-! A store with a cache that is called by many at a time. A call that goes through the cache is a
procedure over single accesses, and the accesses of all calls are made in any order.
-/

namespace FleetOps

/-- The procedure of a request that goes through the cache. -/
def StoreRequest.operation? : (request : StoreRequest) → Option (Cache.Operation request.Answer)
  | validateKey key admin => some (Cache.validateKey admin key)
  | putKey apiKey => some (Cache.putKey apiKey)
  | listRelays => some Cache.listRelays
  | getRelay host => some (Cache.getRelay host)
  | putRelay relay => some (Cache.putRelay relay)
  | _ => none

namespace Traffic

/-- A call that has begun: what it asks, and what is left of its procedure. -/
structure Call where
  request : StoreRequest
  rest : Cache.Operation request.Answer

namespace Call

/-- The call has returned. -/
def Returned (call : Call) : Prop := ∃ answer, call.rest = .done answer

/-- The call makes its next access, unless it has returned. -/
def access (call : Call) (shared : Cached) : Call × Cached :=
  let (rest, later) := call.rest.advance Cached.perform shared
  ({ call with rest := rest }, later)

end Call

/-- What happens next: a call begins, or the call of a number makes its next access. -/
inductive Move where
  | begins (request : StoreRequest)
  | accesses (number : Nat)

end Traffic

/-- What all calls share, and the calls themselves, numbered in the order in which they began. -/
structure Traffic where
  shared : Cached
  calls : List Traffic.Call

namespace Traffic

/-- Nobody has called yet, and the cache is empty. -/
def quiet (memory : Memory) : Traffic :=
  { shared := { cache := .empty, backend := .ofMemory memory }, calls := [] }

/-- A call begins. A request that does not go through the cache makes no access that counts. -/
def begin (traffic : Traffic) (request : StoreRequest) : Traffic :=
  match request.operation? with
  | some operation =>
      { traffic with calls := traffic.calls ++ [{ request := request, rest := operation }] }
  | none => traffic

/-- The call of a number makes its next access. -/
def access (traffic : Traffic) (number : Nat) : Traffic :=
  match traffic.calls[number]? with
  | some call =>
      let (later, shared) := call.access traffic.shared
      { shared := shared, calls := traffic.calls.set number later }
  | none => traffic

/-- What comes of a move. -/
def move (traffic : Traffic) : Move → Traffic
  | .begins request => traffic.begin request
  | .accesses number => traffic.access number

/-- What comes of some moves. -/
def after (traffic : Traffic) (moves : List Move) : Traffic := moves.foldl move traffic

section

variable (traffic : Traffic) (moves more : List Move)

@[simp] theorem after_nil : traffic.after [] = traffic := rfl

@[simp] theorem after_cons (first : Move)
    : traffic.after (first :: moves) = (traffic.move first).after moves := rfl

theorem after_append : traffic.after (moves ++ more) = (traffic.after moves).after more := by
  simp [after]

end

end Traffic

end FleetOps
