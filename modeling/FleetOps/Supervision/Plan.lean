import FleetOps.Credentials
import FleetOps.Fleet.Relay

/-! What it takes to run one command on one node, and how each of the two hops to the node
may go.
-/

namespace FleetOps.Supervision

/-- A command for a node, with the way to it. -/
structure Plan where
  node : String
  relay : Relay
  relayCredentials : Credentials
  /-- The port on the relay at which the node's tunnel listens. -/
  port : UInt16
  nodeCredentials : Credentials
  command : String

/-- How a hop goes: it ends after a while with a result, it dies after a while without one,
or it never ends. Times are in milliseconds.
-/
inductive Step (α : Type) where
  | ends (delay : Nat) (result : Except Failure α)
  | dies (delay : Nat)
  | hangs

namespace Step

variable {α : Type}

/-- The step that takes some more time. -/
def delayed (extra : Nat) : Step α → Step α
  | ends delay result => ends (extra + delay) result
  | dies delay => dies (extra + delay)
  | hangs => hangs

end Step

/-- The two hops: how each dial to a relay goes, and how each execution on a node goes, by
how many went before.
-/
structure Hops where
  dial : Nat → Relay → Credentials → UInt16 → Step Unit
  execute : Nat → Credentials → String → Step (List UInt8)

/-- The hops after some dials and executions. -/
def Hops.after (hops : Hops) (dials executions : Nat) : Hops :=
  {
    dial := fun n => hops.dial (dials + n)
    execute := fun n => hops.execute (executions + n)
  }

end FleetOps.Supervision
