import FleetOps.Proofs.Service.CommandChecks
import FleetOps.Proofs.Text.Numeral

/-! What probes are answered. The size in the path and the declared length are numerals, and a
numeral that does not fit into 64 bits is read like a text that is none. For the size this makes no
difference, since nothing above the limit is a size; for the length it does, since a request that
declares no length passes the check of the limit.
-/

namespace FleetOps.Service

-----------------------------------------------------------------------------------------
-- Sizes and lengths
-----------------------------------------------------------------------------------------

/-- The text names the size of a probe. -/
def NamesSize (text : String) (size : Nat) : Prop := Text.IsNumeralOf size text ∧ size ≤ maxProbe

/-- The request declares a length for its body, however great. -/
def Declares (request : Http.Request) (length : Nat) : Prop :=
  ∃ text, request.header? "content-length" = some text ∧ Text.IsNumeralOf length (Text.trim text)

/-- A request declares one length at most. -/
theorem Declares.unique {request : Http.Request} {n m : Nat} (first : Declares request n)
    (second : Declares request m)
    : n = m := by
  obtain ⟨text, sent, numeral⟩ := first
  obtain ⟨other, again, its⟩ := second
  obtain rfl := Option.some.inj (sent.symm.trans again)
  exact numeral.unique its

/-- The greatest length that a probe may declare or send, in bytes. -/
def maxProbeBytes : Nat := 10485760

section

variable {request : Http.Request} {text : String} {size length : Nat}

/-- The limit on sizes is the narrower one. -/
theorem probeSize?_eq_some_iff : probeSize? text = some size ↔ NamesSize text size := by
  have read : probeSize? text = some size
      ↔ Text.IsNumeralOf size text ∧ size ≤ Text.word64Limit ∧ size ≤ maxProbe :=
    Text.checkedNatural_eq_some_iff
  have narrower : size ≤ maxProbe → size ≤ Text.word64Limit := (Nat.le_trans · (by decide))
  rw [read, and_iff_right_of_imp narrower, NamesSize]

/-- Only a length that fits into 64 bits is seen. -/
theorem declaredLength_eq_some_iff
    : declaredLength request = some length
      ↔ Declares request length ∧ length ≤ Text.word64Limit := by
  simp only [declaredLength, Option.bind_eq_some_iff, Text.toOption_naturalWithin_eq_some_iff,
    Declares]
  constructor
  · rintro ⟨text, sent, numeral, fits⟩
    exact ⟨⟨text, sent, numeral⟩, fits⟩
  · rintro ⟨⟨text, sent, numeral⟩, fits⟩
    exact ⟨text, sent, numeral, fits⟩

/-- A length that is small enough, or too large to be read, is not found too large. -/
theorem declaredLength_getD_le
    (fine : ∀ length, Declares request length → length ≤ maxProbeBytes ∨ Text.word64Limit < length)
    : (declaredLength request).getD 0 ≤ maxProbeBytes := by
  cases seen : declaredLength request with
  | none => exact Nat.zero_le _
  | some length =>
      obtain ⟨declared, fits⟩ := declaredLength_eq_some_iff.mp seen
      exact (fine length declared).resolve_right (Nat.not_lt.mpr fits)

/-- A size that can be named is at most the greatest one. -/
theorem NamesSize.bytes_le (named : NamesSize text size)
    : size * 1024 ≤ maxProbeBytes := Nat.mul_le_mul_right 1024 named.2

end

-----------------------------------------------------------------------------------------
-- Responses
-----------------------------------------------------------------------------------------

/-- What a probe of a size is sent if its length is not found too great. -/
structure ServesProbe (request : Http.Request) (size : Nat) (response : Http.Response) : Prop where
  head : request.method = "HEAD" → response = .empty 200
  get
    : request.method = "GET"
      → response = .typed 200 "application/octet-stream" (.zeros (size * 1024))
  post
    : request.method = "POST"
      → Declares request (size * 1024)
      → match request.body with
        | .ok _ => response = .empty 200
        | .error reason => response = .plain 500 ("failed to read measure body: " ++ reason)
  mismatch
    : request.method = "POST"
      → ¬ Declares request (size * 1024)
      → response = .plain 400 "content length != request path"

/-- What a probe is sent for the text of a size. A length above the limit is found too great exactly
if it fits into 64 bits; and no more is ever sent than the limit allows.
-/
structure AnswersProbe (request : Http.Request) (text : String) (response : Http.Response)
    : Prop where
  sizeless : (∀ size, ¬ NamesSize text size) → response = .plain 404 "Not Found"
  tooLarge
    : ∀ size length,
        NamesSize text size
        → Declares request length
        → maxProbeBytes < length
        → (response = .plain 413 "Request Entity Too Large" ↔ length ≤ Text.word64Limit)
  served
    : ∀ size,
        NamesSize text size
        → (∀ length,
            Declares request length → length ≤ maxProbeBytes ∨ Text.word64Limit < length)
        → ServesProbe request size response
  bounded : ∀ count, response.body = .zeros count → count ≤ maxProbeBytes

/-- The response to a probe, whether it fails or not. -/
def probeResponse (request : Http.Request) (text : String) : Http.Response :=
  match measure request text with
  | .ok response => response
  | .error failure => failureResponse failure

section

variable {request : Http.Request} {text : String} {size length : Nat}

/-- A probe without a size is not found. -/
theorem probeResponse_sizeless (sizeless : ∀ size, ¬ NamesSize text size)
    : probeResponse request text = .plain 404 "Not Found" := by
  have unnamed : probeSize? text = none :=
    Option.eq_none_iff_forall_ne_some.mpr fun size named =>
      sizeless size (probeSize?_eq_some_iff.mp named)
  simp only [probeResponse, measure, unnamed]
  rfl

/-- A length that is declared and read as too large is refused, whatever the method. -/
theorem probeResponse_tooLarge (named : NamesSize text size)
    (tooLarge : maxProbeBytes < (declaredLength request).getD 0)
    : probeResponse request text = .plain 413 "Request Entity Too Large" := by
  have above : maxProbe * 1024 < (declaredLength request).getD 0 := tooLarge
  simp only [probeResponse, measure, probeSize?_eq_some_iff.mpr named, above, if_true]
  rfl

/-- The response to a probe with a size whose length is not refused, method by method. -/
theorem probeResponse_small (named : NamesSize text size)
    (small : (declaredLength request).getD 0 ≤ maxProbeBytes)
    : probeResponse request text
      = if request.method = "HEAD" then .empty 200
        else if request.method = "POST" then
          if declaredLength request = some (size * 1024) then
            match request.body with
            | .ok _ => .empty 200
            | .error reason => .plain 500 ("failed to read measure body: " ++ reason)
          else .plain 400 "content length != request path"
        else .typed 200 "application/octet-stream" (.zeros (size * 1024)) := by
  have within : ¬ maxProbe * 1024 < (declaredLength request).getD 0 := Nat.not_lt.mpr small
  simp only [probeResponse, measure, probeSize?_eq_some_iff.mpr named, within, if_false, beq_iff_eq]
  by_cases head : request.method = "HEAD"
  · rw [if_pos head, if_pos head]
  · rw [if_neg head, if_neg head]
    by_cases post : request.method = "POST"
    · rw [if_pos post, if_pos post]
      by_cases same : declaredLength request = some (size * 1024)
      · rw [if_pos same, if_pos same]
        cases request.body <;> rfl
      · rw [if_neg same, if_neg same]
        rfl
    · rw [if_neg post, if_neg post]

/-- A probe with a size whose length is not refused is served. -/
theorem probeResponse_serves (named : NamesSize text size)
    (small : (declaredLength request).getD 0 ≤ maxProbeBytes)
    : ServesProbe request size (probeResponse request text) := by
  have seen : declaredLength request = some (size * 1024) ↔ Declares request (size * 1024) := by
    rw [declaredLength_eq_some_iff]
    exact and_iff_left (named.bytes_le.trans (by decide))
  rw [probeResponse_small named small]
  constructor
  case head =>
    intro head
    rw [if_pos head]
  case get =>
    intro get
    rw [get, if_neg (by decide), if_neg (by decide)]
  case post =>
    intro post declared
    rw [post, if_neg (by decide), if_pos rfl, if_pos (seen.mpr declared)]
    cases request.body <;> rfl
  case mismatch =>
    intro post other
    rw [post, if_neg (by decide), if_pos rfl, if_neg (other ∘ seen.mp)]

/-- What is not refused for its length is not answered so. -/
theorem probeResponse_status (named : NamesSize text size)
    (small : (declaredLength request).getD 0 ≤ maxProbeBytes)
    : (probeResponse request text).status ≠ 413 := by
  rw [probeResponse_small named small]
  repeat' split
  all_goals exact nofun

/-- A length above the greatest one is refused exactly if it is not too large to be read. -/
theorem probeResponse_eq_tooLarge_iff (named : NamesSize text size)
    (declared : Declares request length) (above : maxProbeBytes < length)
    : probeResponse request text = .plain 413 "Request Entity Too Large"
      ↔ length ≤ Text.word64Limit := by
  constructor
  · intro refused
    have found : ¬ (declaredLength request).getD 0 ≤ maxProbeBytes := fun small =>
      probeResponse_status named small (by rw [refused]; rfl)
    cases seen : declaredLength request with
    | none => exact absurd (by rw [seen]; exact Nat.zero_le _) found
    | some other =>
        obtain ⟨own, fits⟩ := declaredLength_eq_some_iff.mp seen
        rwa [declared.unique own]
  · intro fits
    have seen := declaredLength_eq_some_iff.mpr ⟨declared, fits⟩
    refine probeResponse_tooLarge named ?_
    rwa [seen]

/-- No probe is sent more zeros than the greatest size has. -/
theorem probeResponse_bounded {count : Nat}
    (zeros : (probeResponse request text).body = .zeros count) : count ≤ maxProbeBytes := by
  by_cases sized : ∃ size, NamesSize text size
  · obtain ⟨size, named⟩ := sized
    by_cases small : (declaredLength request).getD 0 ≤ maxProbeBytes
    · rw [probeResponse_small named small] at zeros
      repeat' split at zeros
      all_goals cases zeros
      exact named.bytes_le
    · rw [probeResponse_tooLarge named (Nat.not_le.mp small)] at zeros
      cases zeros
  · rw [probeResponse_sizeless (not_exists.mp sized)] at zeros
    cases zeros

/-- Every probe is answered, by cases on its size and the length that it declares. -/
theorem probeResponse_answers : AnswersProbe request text (probeResponse request text) where
  sizeless := probeResponse_sizeless
  tooLarge _ _ named declared above := probeResponse_eq_tooLarge_iff named declared above
  served _ named fine := probeResponse_serves named (declaredLength_getD_le fine)
  bounded _ zeros := probeResponse_bounded zeros

end

-----------------------------------------------------------------------------------------
-- Requests for probes
-----------------------------------------------------------------------------------------

/-- A probe leaves the store alone and runs nothing. If the piece of its path is no text it is
turned away; otherwise it is answered by its size, its method and the length that it declares.
-/
theorem probe_isAnswered (context : Context) (front : Front) {request : Http.Request}
    {piece : List UInt8} (routed : Route.ofPath? request.uri.path = some (.measure piece))
    (taken : request.method ∈ ["GET", "HEAD", "POST"])
    : ∃ response,
        handle context request front = untouched front response
        ∧ match Route.pieceText? piece with
          | none => response = .plain 400 "invalid path params"
          | some text => AnswersProbe request text response := by
  have method
      : (request.method == "GET" || request.method == "HEAD" || request.method == "POST")
        = true := by
    simpa [or_assoc] using taken
  have answered : handle context request front
      = withPiece front piece fun text => untouched front (probeResponse request text) := by
    simp only [handle, routed, answerRoute, method, if_true, probeResponse]
    congr 1
    funext text
    cases measure request text <;> rfl
  rw [answered, withPiece]
  cases Route.pieceText? piece with
  | none => exact ⟨badPath, rfl, rfl⟩
  | some text => exact ⟨probeResponse request text, rfl, probeResponse_answers⟩

/-- A probe with texts for its size and its length. -/
def probeRequest (method size length : String) : Http.Request :=
  {
    method := method
    uri := { path := Utf8.encode ("/measure/" ++ size), query := none }
    headers := [("content-length", Utf8.encode length)]
    body := .ok []
    peer := none
  }

/-- A body of the greatest size is taken, whatever way its length is written. -/
theorem greatestProbe_isTaken
    : let request := probeRequest "POST" "10240" "+0010485760 "
      Route.ofPath? request.uri.path = some (.measure (Utf8.encode "10240"))
      ∧ request.method ∈ ["GET", "HEAD", "POST"]
      ∧ NamesSize "10240" 10240
      ∧ Declares request 10485760
      ∧ handle openContext request oneNodeStore = untouched oneNodeStore (.empty 200) := by
  intro request
  have taken : request.method ∈ ["GET", "HEAD", "POST"] := by decide
  have named : NamesSize "10240" 10240 := ⟨by decide +kernel, by decide⟩
  have declared : Declares request 10485760 := ⟨"+0010485760 ", rfl, by decide +kernel⟩
  have fine (length : Nat) (its : Declares request length)
      : length ≤ maxProbeBytes ∨ Text.word64Limit < length := by
    obtain rfl := declared.unique its
    exact .inl (Nat.le_refl _)
  have text : Route.pieceText? (Utf8.encode "10240") = some "10240" := by decide +kernel
  obtain ⟨response, same, answers⟩ :=
    probe_isAnswered openContext oneNodeStore
      (show Route.ofPath? request.uri.path = some (.measure (Utf8.encode "10240")) from rfl) taken
  rw [text] at answers
  have response : response = .empty 200 := (answers.served 10240 named fine).post rfl declared
  exact ⟨rfl, taken, named, declared, same.trans (congrArg _ response)⟩

/-- The least length that does not fit into 64 bits is far above the limit and is not found too
great, whatever the method.
-/
theorem vastLength_isNotRefused
    : let vast := 18446744073709551616
      let request (method : String) := probeRequest method "0" "18446744073709551616"
      let status (method : String) :=
        (handle openContext (request method) oneNodeStore).response.status
      maxProbeBytes < vast
      ∧ NamesSize "0" 0
      ∧ (∀ method, Declares (request method) vast)
      ∧ status "GET" = 200
      ∧ status "HEAD" = 200
      ∧ status "POST" = 400 :=
  have declared : Text.IsNumeralOf 18446744073709551616 (Text.trim "18446744073709551616") := by
    decide +kernel
  ⟨by decide, ⟨by decide +kernel, by decide⟩, fun _ => ⟨_, rfl, declared⟩, by decide +kernel⟩

end FleetOps.Service
