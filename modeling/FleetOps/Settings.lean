import FleetOps.Failure
import FleetOps.Text.Blank
import FleetOps.Text.Numeral

/-! Settings of the service: what a caller asks for, else what the environment says, else a
default. Values of the environment that cannot be used count as absent.
-/

namespace FleetOps

/-- The variables of the environment that hold settings, as far as they are set. -/
structure Environment where
  port : Option String
  commandTimeout : Option String
  keepalive : Option String
  compression : Option String
  seedFile : Option String

/-- The settings of a running service; times are in seconds. -/
structure Settings where
  port : Nat
  commandTimeout : Nat
  keepalive : Nat
  compression : Bool
  seedFile : Option String

namespace Settings

/-- The port at which the service listens by default. -/
def defaultPort : Nat := 8080

/-- How long a command may take by default, in seconds. -/
def defaultCommandTimeout : Nat := 30

/-- How often the connections are probed by default, in seconds. -/
def defaultKeepalive : Nat := 15

/-- A number of seconds above zero. -/
def seconds? (text : String) : Option Nat :=
  match Text.naturalWithin Text.word64Limit text with
  | .ok n => if 0 < n then some n else none
  | .error _ => none

/-- A port number. -/
def port? (text : String) : Option Nat := (Text.naturalWithin Text.word16Limit text).toOption

/-- Uppercase ASCII letters made lowercase. -/
def asciiLower (s : String) : List Char :=
  s.toList.map fun c => if 65 ≤ c.toNat && c.toNat ≤ 90 then Char.ofNat (c.toNat + 32) else c

/-- The port that holds: the parameter, else the variable, else the default. -/
def resolvePort (parameter : Option Nat) (environment : Environment) : Nat :=
  (parameter <|> environment.port.bind port?).getD defaultPort

/-- The time limit for commands that holds. -/
def resolveCommandTimeout (parameter : Option Nat) (environment : Environment) : Nat :=
  (parameter <|> environment.commandTimeout.bind seconds?).getD defaultCommandTimeout

/-- The interval between probes that holds. -/
def resolveKeepalive (parameter : Option Nat) (environment : Environment) : Nat :=
  (parameter <|> environment.keepalive.bind seconds?).getD defaultKeepalive

/-- Whether connections are compressed. -/
def resolveCompression (parameter : Option Bool) (environment : Environment) : Bool :=
  (parameter <|> environment.compression.map fun text =>
    asciiLower text == "true".toList || text == "1").getD false

/-- The settings that an environment gives. An empty name of a seed file is none. -/
def ofEnvironment (environment : Environment) : Settings :=
  {
    port := resolvePort none environment
    commandTimeout := resolveCommandTimeout none environment
    keepalive := resolveKeepalive none environment
    compression := resolveCompression none environment
    seedFile := environment.seedFile.filter fun name => !name.isEmpty
  }

end Settings

/-- The time limit that a request asks for, in seconds. A blank text asks for none; any
other must be a numeral of at least one.
-/
def requestedTimeout (text : String) : Except Failure (Option Nat) :=
  let trimmed := Text.trim text
  if trimmed.isEmpty then .ok none
  else
    match Text.integerWithin Text.signed64Limit trimmed with
    | .ok n => if 1 ≤ n then .ok (some n.toNat) else .error .invalidTimeout
    | .error _ => .error .invalidTimeout

/-- How a connection is kept alive and which compressions it offers, the preferred first. -/
structure ConnectionOptions where
  keepalive : Nat
  keepaliveLimit : Nat
  inactivityLimit : Option Nat
  compressions : List String

/-- The options of the connections to relays and nodes. The overall time limit of a command
bounds them, so idleness has no limit of its own.
-/
def ConnectionOptions.ofSettings (keepalive : Nat) (compression : Bool) : ConnectionOptions :=
  {
    keepalive := keepalive
    keepaliveLimit := 3
    inactivityLimit := none
    compressions := if compression then ["zlib", "none"] else ["none"]
  }

end FleetOps
