import FleetOps.Service.Action
import FleetOps.Text.Blank

/-! Probes of the throughput, which name a size in units of 1024 bytes. They are open to
everyone and do not touch the store.
-/

namespace FleetOps.Service

/-- The greatest size of a probe, in units of 1024 bytes. -/
def maxProbe : Nat := 10240

/-- The length that a request declares for its body, if it declares one that can be read. -/
def declaredLength (request : Http.Request) : Option Nat :=
  (request.header? "content-length").bind fun value =>
    (Text.naturalWithin Text.word64Limit (Text.trim value)).toOption

/-- The size that the path of a probe names. -/
def probeSize? (size : String) : Option Nat :=
  match Text.naturalWithin Text.word64Limit size with
  | .ok n => if n ≤ maxProbe then some n else none
  | .error _ => none

/-- Answers a probe: sends as many zeros as asked for, or takes a body of exactly the size.
-/
def measure (request : Http.Request) (size : String) : Except Failure Http.Response :=
  match probeSize? size with
  | none => .error .notFound
  | some n =>
      if maxProbe * 1024 < (declaredLength request).getD 0 then .error .payloadTooLarge
      else if request.method == "HEAD" then .ok (.empty 200)
      else if request.method == "POST" then
        if declaredLength request == some (n * 1024) then
          match request.body with
          | .ok _ => .ok (.empty 200)
          | .error reason => .error (.internal ("failed to read measure body: " ++ reason))
        else .error .lengthMismatch
      else .ok (.typed 200 "application/octet-stream" (.zeros (n * 1024)))

end FleetOps.Service
