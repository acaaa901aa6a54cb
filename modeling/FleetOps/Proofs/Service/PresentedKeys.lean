import FleetOps.Proofs.Credentials
import FleetOps.Proofs.Failure.Handshake
import FleetOps.Proofs.Http.Message
import FleetOps.Proofs.Service.Admission

/-! Which key a request presents. The value of the header is trimmed before the mark is looked for,
and the mark ends in a blank; so a mark that nothing but blanks follow is not found, and what is
left of it is taken for a key.
-/

namespace FleetOps

-----------------------------------------------------------------------------------------
-- Trimming
-----------------------------------------------------------------------------------------

namespace Text

/-- Nothing is left of a text only if all of it is blank. -/
theorem dropTrailingBlanks_eq_nil_iff {s : List Char}
    : dropTrailingBlanks s = [] ↔ ∀ c ∈ s, isBlank c = true := by
  rw [dropTrailingBlanks, List.reverse_eq_nil_iff, List.dropWhile_eq_nil_iff]
  simp only [List.mem_reverse]

/-- Trimming leaves nothing of a text whose characters are all blank, and something of any other. -/
theorem trimChars_isEmpty (s : List Char) : (trimChars s).isEmpty = s.all isBlank := by
  rw [Bool.eq_iff_iff, List.isEmpty_iff, trimChars, dropTrailingBlanks_eq_nil_iff,
    ← List.all_eq_true, all_dropBlanks]

/-- What comes after the trailing blanks were dropped is trimmed to what it was before: they are
dropped in the end, whether the leading ones are there or not.
-/
theorem trimChars_dropTrailingBlanks (s : List Char)
    : trimChars (dropTrailingBlanks s) = trimChars s := by
  obtain ⟨blanks, split, blank⟩ := exists_trailingBlanks s
  have none : dropTrailingBlanks blanks = [] := dropTrailingBlanks_eq_nil_iff.mpr blank
  have dropped : trimChars s = dropTrailingBlanks (dropBlanks (dropTrailingBlanks s ++ blanks)) :=
    congrArg trimChars split
  rw [dropped, dropBlanks, List.dropWhile_append]
  split
  next empty =>
    rw [trimChars, dropBlanks, List.isEmpty_iff.mp empty, List.dropWhile_eq_nil_iff.mpr blank]
  next => rw [dropTrailingBlanks_append, none, List.isEmpty_nil, if_pos rfl, trimChars, dropBlanks]

end Text

-----------------------------------------------------------------------------------------
-- Keys in the value of the header
-----------------------------------------------------------------------------------------

namespace Service

open FleetOps.Text

/-- The word at the front of the mark. -/
def tokenWord : List Char := "token".toList

/-- Trimming leaves the mark whole unless nothing but blanks follow it. -/
theorem trimChars_marked (k : List Char)
    : trimChars (tokenMark ++ k)
      = if k.all isBlank then tokenWord else tokenMark ++ dropTrailingBlanks k := by
  have start : dropBlanks (tokenMark ++ k) = tokenMark ++ k := rfl
  have word : dropTrailingBlanks tokenMark = tokenWord := by decide
  have nothing : (dropTrailingBlanks k).isEmpty = k.all isBlank := by
    rw [Bool.eq_iff_iff, List.isEmpty_iff, dropTrailingBlanks_eq_nil_iff, List.all_eq_true]
  rw [trimChars, start, dropTrailingBlanks_append, word, nothing]

/-- After the mark the key is what is left of the text, or the word of the mark if that is blank. -/
theorem keyOf_marked (k : List Char)
    : keyOf (tokenMark ++ k) = some (if k.all isBlank then tokenWord else trimChars k) := by
  unfold keyOf
  rw [trimChars_marked]
  cases blank : k.all isBlank with
  | true =>
      simp only [if_true]
      decide
  | false =>
      have marked : tokenMark.isPrefixOf (tokenMark ++ dropTrailingBlanks k) = true :=
        List.isPrefixOf_iff_prefix.mpr (List.prefix_append _ _)
      have visible : (trimChars k).isEmpty = false := (trimChars_isEmpty k).trans blank
      simp only [Bool.false_eq_true, if_false, marked, if_true, List.drop_left,
        trimChars_dropTrailingBlanks, visible]

/-- Without the mark the key is the whole text without the blanks around it. -/
theorem keyOf_unmarked {value : List Char} (unmarked : ¬ tokenMark <+: trimChars value)
    : keyOf value = if value.all isBlank then none else some (trimChars value) := by
  have other : tokenMark.isPrefixOf (trimChars value) = false := by
    rw [← Bool.not_eq_true, List.isPrefixOf_iff_prefix]
    exact unmarked
  simp only [keyOf, other, Bool.false_eq_true, if_false, trimChars_trimChars, trimChars_isEmpty]

-----------------------------------------------------------------------------------------
-- Keys that requests present
-----------------------------------------------------------------------------------------

/-- The header of a request that presents a key has some value; only the first one counts. -/
def Authorizes (request : Http.Request) (value : List UInt8) : Prop :=
  (request.values "authorization").head? = some value

/-- The key in a text: what is left without the blanks around it, if anything is. -/
def keyIn (text : String) : Option String :=
  if isBlankText text then none else some (trim text)

section

variable {request : Http.Request} {text : String}

/-- A text that the header can hold is read for its key. -/
theorem presentedKey_of_text (plain : ∀ c ∈ text.toList, Http.IsPlain c)
    (sent : Authorizes request (Utf8.encode text))
    : presentedKey request = (keyOf text.toList).map String.ofList := by
  have read : request.header? "authorization" = some text := by
    rw [Http.Request.header?, sent, Option.bind_some]
    exact Http.valueText?_eq_some_iff.mpr ⟨rfl, plain⟩
  rw [presentedKey, read, Option.bind_some]

/-- A request without the header presents no key. -/
theorem presentedKey_of_unread (unread : request.header? "authorization" = none)
    : presentedKey request = none := by
  rw [presentedKey, unread]
  rfl

/-- A value that is no plain text presents no key. -/
theorem presentedKey_of_strange {value : List UInt8} (sent : Authorizes request value)
    (strange
      : ∀ text : String, value = Utf8.encode text → ¬ ∀ c ∈ text.toList, Http.IsPlain c)
    : presentedKey request = none := by
  apply presentedKey_of_unread
  rw [Http.Request.header?, sent, Option.bind_some, Option.eq_none_iff_forall_ne_some]
  intro text read
  obtain ⟨same, plain⟩ := Http.valueText?_eq_some_iff.mp read
  exact strange text same plain

/-- Nor does a request without the header. -/
theorem presentedKey_of_unsent (unsent : ∀ value, ¬ Authorizes request value)
    : presentedKey request = none := by
  have absent : (request.values "authorization").head? = none :=
    Option.eq_none_iff_forall_ne_some.mpr unsent
  apply presentedKey_of_unread
  rw [Http.Request.header?, absent]
  rfl

/-- A key after the mark is presented without its blanks, and a blank one as the word of the mark.
-/
theorem presentedKey_marked {k : String} (plain : ∀ c ∈ k.toList, Http.IsPlain c)
    (sent : Authorizes request (Utf8.encode ("token " ++ k)))
    : presentedKey request = some (if isBlankText k then "token" else trim k) := by
  have marked : ("token " ++ k).toList = tokenMark ++ k.toList := String.toList_append
  have whole : ∀ c ∈ ("token " ++ k).toList, Http.IsPlain c := by
    rw [marked]
    exact List.forall_mem_append.mpr ⟨Http.isPlain_of_all (by decide), plain⟩
  rw [presentedKey_of_text whole sent, marked, keyOf_marked, Option.map_some, isBlankText]
  split <;> rfl

/-- A key that does not begin like the mark is presented as it is. -/
theorem presentedKey_unmarked (plain : ∀ c ∈ text.toList, Http.IsPlain c)
    (sent : Authorizes request (Utf8.encode text))
    (unmarked : ¬ tokenWord <+: (trim text).toList)
    : presentedKey request = keyIn text := by
  have other : ¬ tokenMark <+: trimChars text.toList := by
    intro marked
    rw [trim, String.toList_ofList] at unmarked
    exact unmarked (List.IsPrefix.trans ⟨[' '], rfl⟩ marked)
  rw [presentedKey_of_text plain sent, keyOf_unmarked other, keyIn, isBlankText]
  split <;> rfl

end

-----------------------------------------------------------------------------------------
-- Callers without a session
-----------------------------------------------------------------------------------------

section

variable (request : Http.Request) (now : Int) (front : Front)

/-- The caller is told that it has presented nothing: where a key is asked for with 401, and where a
key or a session is asked for with 403.
-/
structure IsToldNothingCame : Prop where
  key : ∀ admin, ((requireKey request admin).perform front).1 = .error .unauthorized
  keyOrSession : ((identify request now).perform front).1 = .error .forbidden

/-- The caller is told what becomes of a key: it is refused with 401 exactly if the store refuses
the key, and never told that nothing came.
-/
structure IsToldOf (presented : String) : Prop where
  key
    : ∀ admin,
        ((requireKey request admin).perform front).1 = .error .unauthorized
        ↔ (Front.validateKey presented admin front).1 = .ok false
  keyOrSession
    : ((identify request now).perform front).1 = .error .unauthorized
      ↔ (Front.validateKey presented true front).1 = .ok false
  never : ((identify request now).perform front).1 ≠ .error .forbidden

end

section

variable {request : Http.Request} {now : Int} {front : Front}

/-- Without a key and without a session the request is told that nothing came. -/
theorem isToldNothingCame_of_keyless (keyless : presentedKey request = none)
    (without : userLoggedIn request now front = .ok none)
    : IsToldNothingCame request now front where
  key admin := by rw [(requireKey_perform request admin front).1, keyCheck, keyless]
  keyOrSession := by
    rw [(identify_perform request now front).1, callerOf, presentsAdminKey, keyless]
    simp only [browserOf, without, keyless, Option.isSome_none, Bool.false_eq_true, if_false]

/-- Without a session the request is told of the key that it presents. -/
theorem isToldOf_of_presented {key : String} (presented : presentedKey request = some key)
    (without : userLoggedIn request now front = .ok none)
    : IsToldOf request now front key := by
  have browser : browserOf request now front = .error .unauthorized := by
    simp only [browserOf, without, presented, Option.isSome_some, if_true]
  have checked (admin : Bool)
      : keyCheck request admin front = .error .unauthorized
        ↔ (Front.validateKey key admin front).1 = .ok false := by
    simp only [keyCheck, presented]
    rcases (Front.validateKey key admin front).1 with fault | accepted
    · simp
    · cases accepted <;> simp
  have identified : (callerOf request now front = .error .unauthorized
      ↔ (Front.validateKey key true front).1 = .ok false)
      ∧ callerOf request now front ≠ .error .forbidden := by
    simp only [callerOf, presentsAdminKey, presented, browser]
    rcases (Front.validateKey key true front).1 with fault | accepted
    · simp
    · cases accepted <;> simp
  rw [← (identify_perform request now front).1] at identified
  exact {
    key := fun admin => by rw [(requireKey_perform request admin front).1, checked]
    keyOrSession := identified.1
    never := identified.2
  }

end

/-- What is presented with the mark before a text: the key in the text exactly if there is one. If
the text is blank, then the word of the mark itself is presented as a key, and a caller without a
session is told what becomes of that.
-/
structure PresentsMarked (request : Http.Request) (k : String) : Prop where
  key : presentedKey request = keyIn k ↔ isBlankText k = false
  blank
    : isBlankText k = true
      → presentedKey request = some "token"
        ∧ ∀ now front,
            userLoggedIn request now front = .ok none
            → IsToldOf request now front "token"

/-- The header with the mark before a plain text presents the key in that text, however the text
begins, if and only if the text is not blank. Without the word of the mark at its front a plain text
presents the key in it, and a value that is no plain text presents none. Whoever presents no key and
has no session is told that nothing came, among them whoever sends no such header.
-/
theorem markedKey_presented_iff (request : Http.Request)
    : (∀ k : String,
        (∀ c ∈ k.toList, Http.IsPlain c)
        → Authorizes request (Utf8.encode ("token " ++ k))
        → PresentsMarked request k)
      ∧ (∀ text : String,
        (∀ c ∈ text.toList, Http.IsPlain c)
        → Authorizes request (Utf8.encode text)
        → ¬ tokenWord <+: (trim text).toList
        → presentedKey request = keyIn text)
      ∧ (∀ value,
        Authorizes request value
        → (∀ text : String, value = Utf8.encode text → ¬ ∀ c ∈ text.toList, Http.IsPlain c)
        → presentedKey request = none)
      ∧ ((∀ value, ¬ Authorizes request value) → presentedKey request = none)
      ∧ ∀ now front,
          presentedKey request = none
          → userLoggedIn request now front = .ok none
          → IsToldNothingCame request now front := by
  refine ⟨?marked, ?unmarked, ?strange, ?missing, ?keyless⟩
  case marked =>
    intro k plain sent
    have presented := presentedKey_marked plain sent
    constructor
    · rw [presented, keyIn]
      cases isBlankText k <;> simp
    · intro blank
      rw [blank, if_pos rfl] at presented
      exact ⟨presented, fun _ _ without => isToldOf_of_presented presented without⟩
  case unmarked => exact fun text plain sent other => presentedKey_unmarked plain sent other
  case strange => exact fun value sent strange => presentedKey_of_strange sent strange
  case missing => exact presentedKey_of_unsent
  case keyless =>
    exact fun now front keyless without => isToldNothingCame_of_keyless keyless without

/-- The command of the browser, sent with some value of the header instead of a session. -/
def authorizedRequest (value : String) : Http.Request :=
  { uptimeRequest with headers := [("authorization", Utf8.encode value)] }

/-- A key that begins like the mark is presented whole, without the blanks around it. -/
theorem nestedMark_isPresented
    : let request := authorizedRequest ("token " ++ " token k ")
      isBlankText " token k " = false
      ∧ presentedKey request = keyIn " token k "
      ∧ keyIn " token k " = some "token k" := by
  intro request
  have visible : isBlankText " token k " = false := by decide +kernel
  have presents : PresentsMarked request " token k " :=
    (markedKey_presented_iff request).1 " token k " (Http.isPlain_of_all (by decide +kernel)) rfl
  exact ⟨visible, presents.key.mpr visible, by decide +kernel⟩

/-- After the mark comes nothing, and yet the word of the mark is a key that is refused; without the
header nothing came.
-/
theorem bareMark_isRefused
    : let marked := authorizedRequest ("token " ++ "")
      let headless := { marked with headers := [] }
      let status (request : Http.Request) :=
        (handle openContext request oneNodeStore).response.status
      isBlankText "" = true
      ∧ userLoggedIn marked openContext.now oneNodeStore = .ok none
      ∧ userLoggedIn headless openContext.now oneNodeStore = .ok none
      ∧ presentedKey marked = some "token"
      ∧ presentedKey headless = none
      ∧ status marked = 401
      ∧ status headless = 403 :=
  ⟨by decide +kernel, rfl, rfl, by decide +kernel⟩

end Service

end FleetOps
