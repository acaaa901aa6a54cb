/-! Everything that can go wrong between a request and its answer, by cause. The cause alone
decides the status and the sentence of the answer.
-/

namespace FleetOps

/-- Why the store gives no answer. -/
inductive StoreFault where
  | unavailable (what : String)
  | seed (path reason : String)

namespace StoreFault

/-- The sentence of a fault. -/
def message : StoreFault → String
  | unavailable what => "storage unavailable: " ++ what
  | seed path reason => "failed to load seed file " ++ path ++ ": " ++ reason

end StoreFault

/-- Why a request or a command fails. -/
inductive Failure where
  | invalidForm
  | missingField (requirement : String)
  | invalidTimeout
  | invalidKey
  | invalidJson
  | lengthMismatch
  | payloadTooLarge
  | unauthorized
  | forbidden
  | nodeNotFound
  | notFound
  | notConnected
  | relayNotRegistered
  | relayMisconfigured
  | relayUnavailable (host reason : String)
  | targetUnavailable (port : UInt16) (reason : String)
  /-- The node's side ended the handshake before it was complete. -/
  | handshakeEnded
  | handshake (reason : String)
  | execution (reason : String)
  /-- Every attempt ended in `handshakeEnded`. -/
  | attemptsExhausted (attempts : Nat)
  | timeout
  | storage (fault : StoreFault)
  | internal (reason : String)

namespace Failure

/-- The sentence of a failure, which is also the body of the answer. -/
def message : Failure → String
  | invalidForm => "Invalid form"
  | missingField requirement => requirement
  | invalidTimeout => "Invalid timeout value"
  | invalidKey => "Invalid ssh key"
  | invalidJson => "Invalid JSON"
  | lengthMismatch => "content length != request path"
  | payloadTooLarge => "Request Entity Too Large"
  | unauthorized => "Unauthorized"
  | forbidden => "Forbidden"
  | nodeNotFound => "Not Found"
  | notFound => "Not Found"
  | notConnected => "SSH not connected"
  | relayNotRegistered => "SSH server unavailable"
  | relayMisconfigured => "SSH server configuration error"
  | relayUnavailable host reason =>
      "failed to connect remote ssh server " ++ host ++ ": " ++ reason
  | targetUnavailable port reason =>
      "failed to connect target port " ++ toString port.toNat ++ ": " ++ reason
  | handshakeEnded => "EOF"
  | handshake reason => "failed to open target ssh connection: " ++ reason
  | execution reason => reason
  | attemptsExhausted attempts => "EOF occurred " ++ toString attempts ++ " times"
  | timeout => "timeout"
  | storage _ => "Database unavailable"
  | internal reason => reason

/-- The HTTP status of a failure. -/
def status : Failure → Nat
  | invalidForm => 400
  | missingField _ => 400
  | invalidTimeout => 400
  | invalidKey => 400
  | invalidJson => 400
  | lengthMismatch => 400
  | payloadTooLarge => 413
  | unauthorized => 401
  | forbidden => 403
  | nodeNotFound => 404
  | notFound => 404
  | storage _ => 500
  | internal _ => 500
  | notConnected => 503
  | relayNotRegistered => 503
  | relayMisconfigured => 503
  | relayUnavailable _ _ => 503
  | targetUnavailable _ _ => 503
  | handshakeEnded => 503
  | handshake _ => 503
  | execution _ => 503
  | attemptsExhausted _ => 503
  | timeout => 503

/-- Whether this is the one failure after which a command is tried again. -/
def isHandshakeEnd : Failure → Bool
  | handshakeEnded => true
  | _ => false

end Failure

end FleetOps
