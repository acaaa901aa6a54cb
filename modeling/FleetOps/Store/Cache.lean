import FleetOps.Program
import FleetOps.Store.Backend

/-! A cache in front of the backend, for what every request reads and few change. Keys are
remembered only once they were accepted, apart for either kind of check. Relays are loaded
all at once when one is first wanted, and kept current by what is written through the cache.
Each operation is a procedure over single accesses, so that operations can also be run with
their accesses mixed.
-/

namespace FleetOps

/-- What the cache holds. -/
structure Cache where
  known : List String
  knownAdmin : List String
  relays : Table Relay
  loaded : Bool

namespace Cache

/-- The cache that holds nothing. -/
def empty : Cache :=
  { known := [], knownAdmin := [], relays := .empty, loaded := false }

/-- Whether a key is remembered. -/
def knows (cache : Cache) (admin : Bool) (key : String) : Bool :=
  if admin then cache.knownAdmin.contains key else cache.known.contains key

/-- Remembers a key that was accepted. -/
def remember (cache : Cache) (admin : Bool) (key : String) : Cache :=
  if admin then { cache with knownAdmin := key :: cache.knownAdmin }
  else { cache with known := key :: cache.known }

/-- Forgets a key. -/
def forget (cache : Cache) (admin : Bool) (key : String) : Cache :=
  if admin then { cache with knownAdmin := cache.knownAdmin.filter (· != key) }
  else { cache with known := cache.known.filter (· != key) }

/-- Takes over a relay. -/
def takeRelay (cache : Cache) (relay : Relay) : Cache :=
  { cache with relays := cache.relays.insert relay.host relay }

/-- A single access to the cache or to the backend behind it. -/
inductive Access where
  | knows (admin : Bool) (key : String)
  | remember (admin : Bool) (key : String)
  | forget (admin : Bool) (key : String)
  | isLoaded
  | markLoaded
  | cachedRelay (host : String)
  | cachedRelays
  | cacheRelay (relay : Relay)
  | validateKey (admin : Bool) (key : String)
  | putKey (apiKey : ApiKey)
  | listRelays
  | getRelay (host : String)
  | putRelay (relay : Relay)

/-- What an access answers. -/
def Access.Answer : Access → Type
  | knows _ _ => Bool
  | remember _ _ => Unit
  | forget _ _ => Unit
  | isLoaded => Bool
  | markLoaded => Unit
  | cachedRelay _ => Option Relay
  | cachedRelays => List Relay
  | cacheRelay _ => Unit
  | validateKey _ _ => Except StoreFault Bool
  | putKey _ => Except StoreFault Unit
  | listRelays => Except StoreFault (List Relay)
  | getRelay _ => Except StoreFault (Option Relay)
  | putRelay _ => Except StoreFault Unit

/-- An operation as a procedure over accesses. -/
abbrev Operation (α : Type) := Program Access Access.Answer (Except StoreFault α)

/-- Checks a key: one that is remembered is accepted, any other is for the backend to judge,
and remembered if accepted.
-/
def validateKey (admin : Bool) (key : String) : Operation Bool :=
  .ask (.knows admin key) fun known =>
    match known with
    | true => .done (.ok true)
    | false =>
        .ask (.validateKey admin key) fun answer =>
          match answer with
          | .error fault => .done (.error fault)
          | .ok false => .done (.ok false)
          | .ok true => .ask (.remember admin key) fun _ => .done (.ok true)

/-- Files a key, which has to be judged anew from then on. -/
def putKey (apiKey : ApiKey) : Operation Unit :=
  .ask (.forget false apiKey.key) fun _ =>
    .ask (.forget true apiKey.key) fun _ =>
      .ask (.putKey apiKey) fun answer => .done answer

/-- Takes over relays and goes on. -/
def cacheRelays {α : Type} (next : Operation α) : List Relay → Operation α
  | [] => next
  | relay :: rest => .ask (.cacheRelay relay) fun _ => cacheRelays next rest

/-- Goes on once the relays are loaded. -/
def afterLoading {α : Type} (next : Operation α) : Operation α :=
  .ask .isLoaded fun loaded =>
    match loaded with
    | true => next
    | false =>
        .ask .listRelays fun answer =>
          match answer with
          | .error fault => .done (.error fault)
          | .ok relays => cacheRelays (.ask .markLoaded fun _ => next) relays

/-- All relays of the cache. -/
def listRelays : Operation (List Relay) :=
  afterLoading (.ask .cachedRelays fun relays => .done (.ok relays))

/-- The relay of a host. One that is missing from the cache may still be in the backend. -/
def getRelay (host : String) : Operation (Option Relay) :=
  afterLoading
    (.ask (.cachedRelay host) fun cached =>
      match cached with
      | some relay => .done (.ok (some relay))
      | none =>
          .ask (.getRelay host) fun answer =>
            match answer with
            | .error fault => .done (.error fault)
            | .ok none => .done (.ok none)
            | .ok (some relay) => .ask (.cacheRelay relay) fun _ => .done (.ok (some relay)))

/-- Files a relay in the backend, and then in the cache. -/
def putRelay (relay : Relay) : Operation Unit :=
  .ask (.putRelay relay) fun answer =>
    match answer with
    | .error fault => .done (.error fault)
    | .ok () => .ask (.cacheRelay relay) fun _ => .done (.ok ())

end Cache

/-- A cache and the backend behind it. -/
structure Cached where
  cache : Cache
  backend : Backend

namespace Cached

/-- Does a single access. -/
def perform : (access : Cache.Access) → Cached → access.Answer × Cached
  | .knows admin key, state => (state.cache.knows admin key, state)
  | .remember admin key, state =>
      ((), { state with cache := state.cache.remember admin key })
  | .forget admin key, state => ((), { state with cache := state.cache.forget admin key })
  | .isLoaded, state => (state.cache.loaded, state)
  | .markLoaded, state => ((), { state with cache := { state.cache with loaded := true } })
  | .cachedRelay host, state => (state.cache.relays.get? host, state)
  | .cachedRelays, state => (state.cache.relays.values, state)
  | .cacheRelay relay, state => ((), { state with cache := state.cache.takeRelay relay })
  | .validateKey admin key, state =>
      let (answer, backend) := state.backend.read .validateKey (·.acceptsKey key admin)
      (answer, { state with backend := backend })
  | .putKey apiKey, state =>
      let (answer, backend) := state.backend.write .putKey (·.putKey apiKey)
      (answer, { state with backend := backend })
  | .listRelays, state =>
      let (answer, backend) := state.backend.read .listRelays (·.relays.values)
      (answer, { state with backend := backend })
  | .getRelay host, state =>
      let (answer, backend) := state.backend.read .getRelay (·.relays.get? host)
      (answer, { state with backend := backend })
  | .putRelay relay, state =>
      let (answer, backend) := state.backend.write .putRelay (·.putRelay relay)
      (answer, { state with backend := backend })

/-- Runs an operation without a break. -/
def run {α : Type} (operation : Cache.Operation α) (state : Cached)
    : Except StoreFault α × Cached :=
  operation.run perform state

end Cached

end FleetOps
