import FleetOps.Failure
import FleetOps.Text.Blank
import FleetOps.Text.Case

/-! Handshakes that the other side ends early. A node whose responder is not up yet closes
the stream; that one condition is told from all others by the kind of the fault, or by how
its text ends.
-/

namespace FleetOps

namespace Handshake

/-- The endings, in lowercase, of texts that tell of a closed stream. -/
def endings : List String :=
  ["eof", "connection closed by the remote side", "disconnected"]

/-- Whether a text tells of a closed stream: in lowercase and without trailing blanks, it
has one of the endings.
-/
def tellsOfEnd (message : String) : Bool :=
  let lowered := Text.lowerChars (Text.dropTrailingBlanks message.toList)
  endings.any fun ending => ending.toList.isSuffixOf lowered

/-- The failure that a fault during the handshake or the login amounts to, by its text. -/
def failureOfText (message : String) : Failure :=
  if tellsOfEnd message then .handshakeEnded else .handshake message

/-- Kinds of input and output errors. -/
inductive IoKind where
  | unexpectedEnd
  | brokenPipe
  | connectionReset
  | connectionAborted
  | connectionRefused
  | timedOut
  | other
  deriving DecidableEq

/-- What ends a key exchange. -/
inductive Fault where
  | disconnected
  | hungUp
  | notAuthenticated
  | connectionTimeout
  | keepaliveTimeout
  | keyExchange
  | version
  | invalidConfig (what : String)
  | io (kind : IoKind) (message : String)
  | other (message : String)

namespace Fault

/-- The text of a fault. -/
def message : Fault → String
  | disconnected => "Disconnected"
  | hungUp => "Connection closed by the remote side"
  | notAuthenticated => "Not yet authenticated"
  | connectionTimeout => "Connection timeout"
  | keepaliveTimeout => "Keepalive timeout"
  | keyExchange => "Key exchange failed"
  | version => "invalid SSH version string"
  | invalidConfig what => "Invalid config: " ++ what
  | io _ message => message
  | other message => message

/-- The failure that a fault of the key exchange amounts to. -/
def failure (fault : Fault) : Failure :=
  match fault with
  | disconnected => .handshakeEnded
  | hungUp => .handshakeEnded
  | io .unexpectedEnd _ => .handshakeEnded
  | io .brokenPipe _ => .handshakeEnded
  | fault => failureOfText fault.message

end Fault

end Handshake

end FleetOps
