import FleetOps.Proofs.Service.Contents
import FleetOps.Proofs.Service.Logins

/-! Relays that are registered. A registration that is accepted can be used for logging in as it is
filed, so a store whose relays all came in by registration never has one that commands cannot use,
and a command for a node goes by the latest registration of its relay.
-/

namespace FleetOps

-----------------------------------------------------------------------------------------
-- What a registration has to be
-----------------------------------------------------------------------------------------

namespace Relay

/-- The relay without blanks around its texts. -/
def trimmed (relay : Relay) : Relay :=
  {
    host := Text.trim relay.host
    port := relay.port
    user := Text.trim relay.user
    key := Text.trim relay.key
    password := Text.trim relay.password
  }

/-- There is nothing left to trim off a relay that has been trimmed. -/
theorem trimmed_trimmed (relay : Relay) : relay.trimmed.trimmed = relay.trimmed := by
  simp only [trimmed, Text.trim_trim]

/-- The relay can be addressed and, with its key read in the given way, logged in to, and it has no
blanks around its host and its user.
-/
structure IsUsable (readKey : PrivateKey.Reader) (relay : Relay) : Prop where
  host : relay.host ≠ ""
  hostTrimmed : Text.trim relay.host = relay.host
  port : 1 ≤ relay.port.toNat ∧ relay.port.toNat ≤ 65535
  user : relay.user ≠ ""
  userTrimmed : Text.trim relay.user = relay.user
  login
    : ∃ credentials,
        Credentials.build relay.user relay.key relay.password readKey = .ok credentials
        ∧ credentials.methods ≠ []

end Relay

/-- There is a method unless there is neither a key nor a password. -/
theorem Credentials.build_methods {readKey : PrivateKey.Reader} {user key password : String}
    {credentials : Credentials} (built : build user key password readKey = .ok credentials)
    : credentials.methods = []
      ↔ Text.isBlankText key = true ∧ password.isEmpty = true := by
  have names := (build_madeOf built).names
  rw [← @List.map_eq_nil_iff _ _ LoginMethod.name]
  change credentials.methodNames = [] ↔ _
  rw [names]
  cases Text.isBlankText key <;> cases password.isEmpty <;> simp

namespace Service

variable {readKey : PrivateKey.Reader} {relay valid : Relay}

/-- What is left of a relay without its blanks can be used if each of the checks is passed. -/
theorem isUsable_trimmed_iff
    : relay.trimmed.IsUsable readKey
      ↔ (Text.trim relay.host).isEmpty = false
        ∧ (relay.port == 0) = false
        ∧ (Text.trim relay.user).isEmpty = false
        ∧ ((Text.trim relay.key).isEmpty && (Text.trim relay.password).isEmpty) = false
        ∧ ∃ credentials,
            Credentials.build (Text.trim relay.user) (Text.trim relay.key)
              (Text.trim relay.password) readKey = .ok credentials := by
  have filled (text : String) : text ≠ "" ↔ text.isEmpty = false := by
    rw [Ne, ← String.isEmpty_iff, Bool.not_eq_true]
  have nonzero : 1 ≤ relay.port.toNat ↔ (relay.port == 0) = false := by
    rw [Nat.one_le_iff_ne_zero, ← Bool.not_eq_true, beq_iff_eq, ← UInt16.toNat_inj]
    rfl
  have tried {credentials : Credentials}
      (built : Credentials.build (Text.trim relay.user) (Text.trim relay.key)
        (Text.trim relay.password) readKey = .ok credentials)
      : credentials.methods ≠ []
        ↔ ((Text.trim relay.key).isEmpty && (Text.trim relay.password).isEmpty) = false := by
    rw [Ne, Credentials.build_methods built, ← Bool.and_eq_true, Bool.not_eq_true,
      Text.isBlankText_trim, Text.trim_isEmpty relay.key]
  constructor
  · intro usable
    obtain ⟨credentials, built, methods⟩ := usable.login
    exact ⟨(filled _).mp usable.host, nonzero.mp usable.port.1, (filled _).mp usable.user,
      (tried built).mp methods, credentials, built⟩
  · intro passed
    obtain ⟨host, port, user, secret, credentials, built⟩ := passed
    exact {
      host := (filled _).mpr host
      hostTrimmed := Text.trim_trim relay.host
      port := ⟨nonzero.mpr port, Nat.le_of_lt_succ relay.port.toNat_lt⟩
      user := (filled _).mpr user
      userTrimmed := Text.trim_trim relay.user
      login := ⟨credentials, built, (tried built).mpr secret⟩
    }

/-- A registration is accepted without its blanks, if that is a relay that can be used, by cases on
the checks in their order.
-/
theorem validateRelay_eq_ok_iff
    : validateRelay relay readKey = .ok valid
      ↔ valid = relay.trimmed ∧ relay.trimmed.IsUsable readKey := by
  rw [isUsable_trimmed_iff]
  unfold validateRelay
  dsimp only
  cases (Text.trim relay.host).isEmpty with
  | true => simp
  | false =>
      cases relay.port == 0 with
      | true => simp
      | false =>
          cases (Text.trim relay.user).isEmpty with
          | true => simp
          | false =>
              cases (Text.trim relay.key).isEmpty && (Text.trim relay.password).isEmpty with
              | true => simp
              | false =>
                  cases Credentials.build (Text.trim relay.user) (Text.trim relay.key)
                      (Text.trim relay.password) readKey with
                  | error failure => simp
                  | ok credentials => simp [Relay.trimmed, eq_comm]

/-- A registration that was accepted is accepted as it is. -/
theorem validateRelay_idempotent (accepted : validateRelay relay readKey = .ok valid)
    : validateRelay valid readKey = .ok valid := by
  obtain ⟨rfl, usable⟩ := validateRelay_eq_ok_iff.mp accepted
  rw [validateRelay_eq_ok_iff, relay.trimmed_trimmed]
  exact ⟨rfl, usable⟩

/-- What is accepted as it is can be used as it is. -/
theorem isUsable_of_valid (accepted : validateRelay relay readKey = .ok relay)
    : relay.IsUsable readKey := by
  obtain ⟨same, usable⟩ := validateRelay_eq_ok_iff.mp accepted
  exact same ▸ usable

end Service

-----------------------------------------------------------------------------------------
-- Plans by the contents
-----------------------------------------------------------------------------------------

namespace Service

open FleetOps.Service.Action

/-- The plan of a command by the contents of the store alone. -/
def planOn (memory : Memory) (node command : String) (credentials : Credentials)
    (readKey : PrivateKey.Reader)
    : Except Failure (Report × Supervision.Plan) :=
  match memory.reports.get? node with
  | none => .error .nodeNotFound
  | some report =>
      match report.tunnelPort with
      | none => .error .notConnected
      | some port =>
          match memory.relays.get? report.relayHost with
          | none => .error .relayNotRegistered
          | some relay =>
              match Credentials.build relay.user relay.key relay.password readKey with
              | .error _ => .error .relayMisconfigured
              | .ok relayCredentials =>
                  .ok
                    (report,
                      {
                        node := node
                        relay := relay
                        relayCredentials := relayCredentials
                        port := port
                        nodeCredentials := credentials
                        command := command
                      })

/-- What is asked of a store in step with its contents is told by them. -/
theorem perform_asking {front : Front} (step : front.InStep) {α : Type} (request : StoreRequest)
    (next : request.Answer → Action α)
    : ((ask request.perform >>= next).perform front).1
      = ((next (request.onMemory front.memory).1).perform (request.perform front).2).1 := by
  have told : ((ask request.perform).perform front).1 = .ok (request.onMemory front.memory).1 := by
    rw [perform_ask, (step.perform request).1]
    rfl
  rw [perform_bind_ok told]
  rfl

/-- Nothing follows if what is required is missing. -/
theorem perform_require_none {α β : Type} (failure : Failure) (next : α → Action β)
    (front : Front)
    : (require failure none >>= next).perform front = (.error failure, front) := rfl

/-- What is required is gone on with if it is there. -/
theorem perform_require_some {α β : Type} (failure : Failure) (value : α) (next : α → Action β)
    (front : Front)
    : (require failure (some value) >>= next).perform front = (next value).perform front := rfl

/-- A store in step with its contents plans a command by them. -/
theorem planFor_perform {front : Front} (step : front.InStep) (node command : String)
    (credentials : Credentials) (readKey : PrivateKey.Reader)
    : ((planFor node command credentials readKey).perform front).1
      = planOn front.memory node command credentials readKey := by
  obtain ⟨-, same, later⟩ := step.perform (.getReport node)
  change _ = front.memory at same
  unfold planFor planOn
  refine (perform_asking step (.getReport node) _).trans ?_
  dsimp only [StoreRequest.onMemory]
  cases front.memory.reports.get? node with
  | none => rw [perform_require_none]
  | some report =>
      rw [perform_require_some]
      dsimp only
      cases report.tunnelPort with
      | none => rw [perform_require_none]
      | some port =>
          rw [perform_require_some]
          refine (perform_asking later (.getRelay report.relayHost) _).trans ?_
          dsimp only [StoreRequest.onMemory]
          rw [same]
          cases front.memory.relays.get? report.relayHost with
          | none => rw [perform_require_none]
          | some relay =>
              rw [perform_require_some]
              dsimp only
              cases Credentials.build relay.user relay.key relay.password readKey with
              | error failure => rfl
              | ok relayCredentials => rfl

-----------------------------------------------------------------------------------------
-- Stores whose relays came in by registration
-----------------------------------------------------------------------------------------

/-- The request registers a relay of a host if the store serves it. -/
def RegistersAt (host : String) (context : Context) (request : Http.Request) (front : Front)
    : Prop :=
  Route.ofPath? request.uri.path = some .servers
  ∧ (handle context request front).response.status = 201
  ∧ ∃ relay, relayIn? context request = some relay ∧ relay.host = host

section

variable {context : Context} {request : Http.Request} {front : Front}

/-- A request for registrations fails and changes nothing, or it files what it brings. -/
theorem handle_servers (works : front.Works)
    (routed : Route.ofPath? request.uri.path = some .servers)
    : let exchange := handle context request front
      400 ≤ exchange.response.status ∧ exchange.front.memory = front.memory
      ∨ exchange.response.status = 201
        ∧ ∃ relay,
            relayIn? context request = some relay
            ∧ front.memory.Registers relay exchange.front.memory := by
  obtain ⟨-, done⟩ := registerRelay_does context request front works
  simp only [handle, routed, answerRoute]
  split
  · unfold answerWith
    generalize (registerRelay context request).perform front = performed at done ⊢
    obtain ⟨result, later⟩ := performed
    cases result with
    | error failure => exact .inl ⟨failureResponse_status failure, done⟩
    | ok response => exact .inr done
  · exact .inl ⟨by simp [untouched, noMethod, Http.Response.plain], rfl⟩

/-- What is found for a host stays unless one is registered there. -/
theorem handle_relays (works : front.Works) (host : String)
    : (handle context request front).front.memory.relays.get? host = front.memory.relays.get? host
      ∨ RegistersAt host context request front
        ∧ (handle context request front).front.memory.relays.get? host
          = relayIn? context request := by
  by_cases routed : Route.ofPath? request.uri.path = some .servers
  · rcases handle_servers works routed with ⟨_, same⟩ | ⟨status, relay, brought, registers⟩
    · exact .inl (congrArg (·.relays.get? host) same)
    · by_cases named : host = relay.host
      · refine .inr ⟨⟨routed, status, relay, brought, named.symm⟩, ?_⟩
        rw [registers.relay, if_pos named, brought]
      · exact .inl ((registers.relay host).trans (if_neg named))
  · refine .inl (congrArg (Table.get? · host) ?_)
    rcases (handle_does context request works).outcome with ⟨_, same⟩ | ⟨_, _, changes⟩
    · exact congrArg (·.relays) same
    · unfold SuccessChanges at changes
      split at changes
      · obtain ⟨-, report, -, -, gains⟩ := changes
        exact gains.relays
      · split at changes
        · obtain ⟨id, -, loses⟩ := changes
          exact loses.relays
        · exact congrArg (·.relays) changes
      next servers => exact absurd servers routed
      · exact congrArg (·.relays) changes

/-- A relay that is registered is accepted as it is filed. -/
theorem relayIn?_valid {relay : Relay} (brought : relayIn? context request = some relay)
    : ∃ sent,
        (jsonBody? request).bind Relay.ofTree? = some sent
        ∧ relay = sent.trimmed
        ∧ validateRelay relay context.readKey = .ok relay := by
  obtain ⟨sent, read, accepted⟩ := Option.bind_eq_some_iff.mp brought
  have checked : validateRelay sent context.readKey = .ok relay := by
    cases result : validateRelay sent context.readKey with
    | error failure => simp [result, Except.toOption] at accepted
    | ok valid => simpa [result, Except.toOption] using accepted
  exact ⟨sent, read, (validateRelay_eq_ok_iff.mp checked).1, validateRelay_idempotent checked⟩

end

end Service

/-- Every relay of the contents is one that a registration would file as it is. -/
def Memory.HasValidRelays (readKey : PrivateKey.Reader) (memory : Memory) : Prop :=
  ∀ host relay,
    memory.relays.get? host = some relay → Service.validateRelay relay readKey = .ok relay

/-- A store whose relays come in by registration: it was started from contents with valid relays,
with a cache or without one, and it serves requests, all of which read keys in the same way, or is
asked for anything but to file a relay.
-/
inductive Front.TakesRegistrations (readKey : PrivateKey.Reader) : Front → Prop
  | plain {memory : Memory} (filed : memory.Filed) (valid : memory.HasValidRelays readKey)
    : TakesRegistrations readKey (.plain memory)
  | freshlyCached {memory : Memory} (filed : memory.Filed) (valid : memory.HasValidRelays readKey)
    : TakesRegistrations readKey (.freshlyCached memory)
  | served {front : Front} (takes : TakesRegistrations readKey front) (context : Service.Context)
    (alike : context.readKey = readKey) (request : Http.Request)
    : TakesRegistrations readKey (Service.handle context request front).front
  | asked {front : Front} (takes : TakesRegistrations readKey front) (request : StoreRequest)
    (other : ∀ relay, request ≠ .putRelay relay)
    : TakesRegistrations readKey (request.perform front).2

/-- The second store comes of the first, and no relay of the host is filed between them. -/
inductive Front.KeepsRelayOf (host : String) (front : Front) : Front → Prop
  | refl : KeepsRelayOf host front front
  | served {later : Front} (keeps : KeepsRelayOf host front later) (context : Service.Context)
    (request : Http.Request) (other : ¬ Service.RegistersAt host context request later)
    : KeepsRelayOf host front (Service.handle context request later).front
  | asked {later : Front} (keeps : KeepsRelayOf host front later) (request : StoreRequest)
    (other : ∀ relay, request ≠ .putRelay relay)
    : KeepsRelayOf host front (request.perform later).2

/-- Only filing a relay changes the relays. -/
theorem StoreRequest.relays_onMemory {request : StoreRequest}
    (other : ∀ relay, request ≠ .putRelay relay) (memory : Memory)
    : (request.onMemory memory).2.relays = memory.relays := by
  cases request with
  | putRelay relay => exact absurd rfl (other relay)
  | _ => rfl

/-- A store that takes registrations answers by its contents, and all its relays are valid, by
induction on how it came about.
-/
theorem Front.TakesRegistrations.inStep_valid {readKey : PrivateKey.Reader} {front : Front}
    (takes : front.TakesRegistrations readKey)
    : front.InStep ∧ front.memory.HasValidRelays readKey := by
  induction takes with
  | plain filed valid => exact ⟨.plain filed, valid⟩
  | freshlyCached filed valid => exact ⟨.freshlyCached filed, valid⟩
  | served _ context alike request ih =>
      obtain ⟨step, valid⟩ := ih
      refine ⟨step.handle context request, fun host relay found => ?_⟩
      rcases Service.handle_relays step.works host with same | ⟨_, brought⟩
      · exact valid host relay (same.symm.trans found)
      · obtain ⟨_, _, _, accepted⟩ := Service.relayIn?_valid (brought.symm.trans found)
        exact alike ▸ accepted
  | asked _ request other ih =>
      obtain ⟨step, valid⟩ := ih
      obtain ⟨-, changed, later⟩ := step.perform request
      refine ⟨later, fun host relay found => valid host relay ?_⟩
      rwa [changed, request.relays_onMemory other] at found

/-- The relay of a host stays until another is filed, by induction on what comes between. -/
theorem Front.KeepsRelayOf.found {host : String} {front later : Front} {relay : Relay}
    (keeps : front.KeepsRelayOf host later) (step : front.InStep)
    (found : front.memory.relays.get? host = some relay)
    : later.InStep ∧ later.memory.relays.get? host = some relay := by
  induction keeps with
  | refl => exact ⟨step, found⟩
  | served _ context request other ih =>
      obtain ⟨step, found⟩ := ih
      rcases Service.handle_relays step.works host with same | ⟨registers, _⟩
      · exact ⟨step.handle context request, same.trans found⟩
      · exact absurd registers other
  | asked _ request other ih =>
      obtain ⟨step, found⟩ := ih
      obtain ⟨-, changed, later⟩ := step.perform request
      refine ⟨later, ?_⟩
      rw [changed, request.relays_onMemory other]
      exact found

-----------------------------------------------------------------------------------------
-- What commands use
-----------------------------------------------------------------------------------------

/-- Commands for the nodes whose tunnels end at the host of a relay are planned for that relay, and
their runs dial it and no other, with its own login.
-/
structure Front.Uses (readKey : PrivateKey.Reader) (front : Front) (relay : Relay) : Prop where
  found : (Front.getRelay relay.host front).1 = .ok (some relay)
  plans
    : ∀ node command credentials report port,
        (Front.getReport node front).1 = .ok (some report)
        → report.relayHost = relay.host
        → report.tunnelPort = some port
        → ∃ plan : Supervision.Plan,
            ((Service.planFor node command credentials readKey).perform front).1
              = .ok (report, plan)
            ∧ plan.node = node
            ∧ plan.relay = relay
            ∧ plan.port = port
            ∧ Credentials.build relay.user relay.key relay.password readKey
              = .ok plan.relayCredentials
  runs
    : ∀ (context : Service.Context) request run,
        context.readKey = readKey
        → (Service.handle context request front).run = some run
        → ∃ piece id report,
            Service.Route.ofPath? request.uri.path = some (.command piece)
            ∧ Service.Route.pieceText? piece = some id
            ∧ (Front.getReport (Text.trim id) front).1 = .ok (some report)
            ∧ (report.relayHost = relay.host
              → ∀ dial ∈ run.dialed,
                  dial.relay = relay
                  ∧ report.tunnelPort = some dial.port
                  ∧ Credentials.build relay.user relay.key relay.password readKey
                    = .ok dial.credentials)

/-- A relay that can be used is used, if it is the one that the contents have for its host. -/
theorem Front.InStep.uses {readKey : PrivateKey.Reader} {front : Front} {relay : Relay}
    (step : front.InStep) (usable : relay.IsUsable readKey)
    (held : front.memory.relays.get? relay.host = some relay)
    : front.Uses readKey relay where
  found := (step.perform (.getRelay relay.host)).1.trans (congrArg Except.ok held)
  plans := by
    intro node command credentials report port reported same tunnel
    have latest : front.memory.reports.get? node = some report :=
      (getReport_ok reported).symm
    obtain ⟨relayCredentials, built, _⟩ := usable.login
    rw [Service.planFor_perform step]
    simp only [Service.planOn, latest, tunnel, same, held, built]
    exact ⟨_, rfl, rfl, rfl, rfl, rfl⟩
  runs := by
    intro context request run alike ran
    obtain ⟨piece, id, prepared, routed, decoded, follows, rfl⟩ := Service.handle_ran ran
    refine ⟨piece, id, prepared.report, routed, decoded, follows.plan.reported, ?_⟩
    intro same dial made
    have related := (step.perform (.getRelay prepared.report.relayHost)).1.symm.trans
      follows.plan.relay
    obtain rfl : relay = prepared.plan.relay := by
      have known : front.memory.relays.get? prepared.report.relayHost = some prepared.plan.relay :=
        Except.ok.inj related
      rw [same, held] at known
      exact Option.some.inj known
    rw [prepared.dialed_eq context dial made]
    exact ⟨rfl, follows.plan.port, alike ▸ follows.plan.relayCredentials⟩

namespace Service

/-- No plan fails because of a relay that is set up wrongly, if all relays can be used. -/
theorem planOn_configured {memory : Memory}
    (usable : ∀ host relay, memory.relays.get? host = some relay → relay.IsUsable readKey)
    (node command : String) (credentials : Credentials)
    : planOn memory node command credentials readKey ≠ .error .relayMisconfigured := by
  unfold planOn
  cases memory.reports.get? node with
  | none => nofun
  | some report =>
      dsimp only
      cases report.tunnelPort with
      | none => nofun
      | some port =>
          dsimp only
          cases found : memory.relays.get? report.relayHost with
          | none => nofun
          | some relay =>
              obtain ⟨relayCredentials, built, _⟩ := (usable _ relay found).login
              dsimp only
              rw [built]
              nofun

/-- However keys are read, as long as they are read in one way: a registration that is accepted is
accepted again as it was filed. A store that takes relays only by registration gives out none that
cannot be used, so that no command fails because of a relay that is set up wrongly. Once a relay has
been registered, commands use exactly that registration, without its blanks, until another one is
made for its host.
-/
theorem registrations_areUsed (readKey : PrivateKey.Reader)
    : (∀ relay valid,
        validateRelay relay readKey = .ok valid → validateRelay valid readKey = .ok valid)
      ∧ ∀ front : Front,
          front.TakesRegistrations readKey
          → (∃ relays,
              (Front.listRelays front).1 = .ok relays
              ∧ ∀ relay ∈ relays, relay.IsUsable readKey)
            ∧ (∀ host,
                ∃ found,
                  (Front.getRelay host front).1 = .ok found
                  ∧ ∀ relay, found = some relay → relay.host = host ∧ relay.IsUsable readKey)
            ∧ (∀ node command credentials,
                ((planFor node command credentials readKey).perform front).1
                  ≠ .error .relayMisconfigured)
            ∧ ∀ (context : Context) request,
                context.readKey = readKey
                → Route.ofPath? request.uri.path = some .servers
                → (handle context request front).response.status = 201
                → ∃ sent,
                    (jsonBody? request).bind Relay.ofTree? = some sent
                    ∧ ∀ later,
                        (handle context request front).front.KeepsRelayOf sent.trimmed.host later
                        → later.Uses readKey sent.trimmed := by
  refine ⟨fun relay valid accepted => validateRelay_idempotent accepted, ?_⟩
  intro front takes
  obtain ⟨step, valid⟩ := takes.inStep_valid
  have usable : ∀ host relay, front.memory.relays.get? host = some relay → relay.IsUsable readKey :=
    fun host relay found => isUsable_of_valid (valid host relay found)
  refine ⟨?lists, ?finds, ?plans, ?registers⟩
  case lists =>
    refine ⟨_, (step.perform .listRelays).1, fun relay member => ?_⟩
    obtain ⟨host, found⟩ := Table.mem_values.mp member
    exact usable host relay found
  case finds =>
    intro host
    refine ⟨_, (step.perform (.getRelay host)).1, fun relay found => ?_⟩
    exact ⟨step.filed.relays host relay found, usable host relay found⟩
  case plans =>
    intro node command credentials
    rw [planFor_perform step]
    exact planOn_configured usable node command credentials
  case registers =>
    rintro context request rfl routed status
    rcases handle_servers step.works routed with ⟨fails, _⟩ | ⟨_, relay, brought, registers⟩
    · rw [status] at fails
      exact absurd fails (by decide)
    · obtain ⟨sent, read, rfl, accepted⟩ := relayIn?_valid brought
      refine ⟨sent, read, fun later keeps => ?_⟩
      have filed := (registers.relay sent.trimmed.host).trans (if_pos rfl)
      obtain ⟨laterStep, held⟩ := keeps.found (step.handle context request) filed
      exact laterStep.uses (isUsable_of_valid accepted) held

/-- A store without relays, with one node, an administrator's key and a user that is logged in. -/
def hubContents : Memory :=
  Seed.apply
    {
      apiKeys := [{ key := "k", label := "", admin := true }]
      relays := []
      reports := [{ Report.blank "n1" with relayHost := "hub", remotePort := 2201 }]
      sessions := [{ id := "s1", user := "ana", expiresAt := 0 }]
    }
    .empty

/-- The registration of a relay, with blanks around its texts. -/
def hubRegistration : Http.Request :=
  keyRequest "POST" "/servers"
    ("\x7b\"host\":\" hub\\t\",\"port\":22,\"user\":\"fleet\u3000\","
      ++ "\"password\":\" pass word \"\x7d")

/-- The relay that is meant. -/
def hubRelay : Relay :=
  { host := "hub", port := 22, user := "fleet", key := "", password := "pass word" }

/-- After the registration of its relay a command for the node is run, and dials that relay. -/
theorem hubRegistration_isUsed
    : let front := Front.freshlyCached hubContents
      let exchange := handle openContext hubRegistration front
      front.TakesRegistrations PrivateKey.decode?
      ∧ Route.ofPath? hubRegistration.uri.path = some .servers
      ∧ exchange.response.status = 201
      ∧ exchange.front.Uses PrivateKey.decode? hubRelay
      ∧ ∃ run,
          (handle openContext uptimeRequest exchange.front).run = some run
          ∧ run.dialed.map (·.relay) = [hubRelay] := by
  intro front exchange
  have filed : hubContents.Filed := .seed .empty _
  have takes : front.TakesRegistrations PrivateKey.decode? := .freshlyCached filed nofun
  have routed : Route.ofPath? hubRegistration.uri.path = some .servers := rfl
  have status : exchange.response.status = 201 := by decide +kernel
  obtain ⟨sent, read, uses⟩ :=
    ((registrations_areUsed PrivateKey.decode?).2 front takes).2.2.2 openContext hubRegistration
      rfl routed status
  have meant : sent.trimmed = hubRelay := by
    have same : ((jsonBody? hubRegistration).bind Relay.ofTree?).map (·.trimmed)
        = some hubRelay := by decide +kernel
    rw [read] at same
    exact Option.some.inj same
  rw [meant] at uses
  refine ⟨takes, routed, status, uses exchange.front .refl, ?_⟩
  have ran : (handle openContext uptimeRequest exchange.front).run.map
      (fun run => run.dialed.map (·.relay)) = some [hubRelay] := by decide +kernel
  exact Option.map_eq_some_iff.mp ran

end Service

end FleetOps
