import FleetOps.Proofs.Program
import FleetOps.Ssh.Script
import Mathlib.Data.List.Infix

/-! What a command comes to, by the messages on its channel. They are heard up to the first that
ends the command; its result is all output among them if the last that tells of an exit tells of
status zero, and without any output how it ended otherwise.
-/

namespace FleetOps.Ssh

open Program (Ends ends_ask ends_done)

-----------------------------------------------------------------------------------------
-- What is heard
-----------------------------------------------------------------------------------------

namespace Message

/-- The output that a message brings. -/
def bytes : Message → List UInt8
  | output bytes => bytes
  | errorOutput bytes => bytes
  | _ => []

/-- The way in which the command ended, if a message tells it. -/
def exit? : Message → Option Exit
  | exitStatus status => some (.status status)
  | exitSignal name => some (.signal name)
  | _ => none

/-- Whether a message has an effect. -/
def counts : Message → Bool
  | notice => false
  | _ => true

/-- A message after which nothing of a command is waited for, by those that came earlier: the
channel is closed, or the output ends and one of them has told of the exit.
-/
inductive EndsAfter (earlier : List Message) : Message → Prop
  | close : EndsAfter earlier .close
  | endOfOutput {message : Message} (among : message ∈ earlier)
    (told : message.exit?.isSome = true)
    : EndsAfter earlier .endOfOutput

end Message

/-- What was told last of the exit. -/
def lastExit? (heard : List Message) : Option Exit := (heard.filterMap Message.exit?).getLast?

/-- Of a stream of messages these are heard: none of them ends the command, and the next one does,
if there is one.
-/
structure Hears (messages heard : List Message) : Prop where
  goesOn : ∀ earlier message, earlier ++ [message] <+: heard → ¬ message.EndsAfter earlier
  stops : ∃ rest, messages = heard ++ rest ∧ ∀ last ∈ rest.head?, last.EndsAfter heard

/-- What is heard of a stream cannot be more than what is heard of it. -/
theorem Hears.eq_of_prefix {messages heard other : List Message} (first : Hears messages heard)
    (second : Hears messages other) (shorter : heard <+: other)
    : heard = other := by
  obtain ⟨rest, split, stops⟩ := first.stops
  obtain ⟨unheard, whole, -⟩ := second.stops
  obtain ⟨more, rfl⟩ := shorter
  cases more with
  | nil => exact (List.append_nil heard).symm
  | cons message more =>
      rw [split, List.append_assoc] at whole
      obtain rfl := List.append_cancel_left whole
      have goesOn : ¬ message.EndsAfter heard :=
        second.goesOn heard message ⟨more, by simp⟩
      exact absurd (stops message rfl) goesOn

/-- A stream of messages has one part that is heard. -/
theorem Hears.unique {messages heard other : List Message} (first : Hears messages heard)
    (second : Hears messages other)
    : heard = other := by
  obtain ⟨rest, split, -⟩ := first.stops
  obtain ⟨unheard, whole, -⟩ := second.stops
  rcases List.prefix_or_prefix_of_prefix ⟨rest, split.symm⟩ ⟨unheard, whole.symm⟩ with
    shorter | longer
  · exact first.eq_of_prefix second shorter
  · exact (second.eq_of_prefix first longer).symm

-----------------------------------------------------------------------------------------
-- Collecting
-----------------------------------------------------------------------------------------

/-- The last exit is that of the last message, if it has one. -/
theorem lastExit?_concat (heard : List Message) (message : Message)
    : lastExit? (heard ++ [message]) = message.exit?.or (lastExit? heard) := by
  unfold lastExit?
  cases told : message.exit? <;> simp [List.filterMap_append, told]

/-- It is not known how a command ended as long as nothing has told it. -/
theorem lastExit?_eq_none_iff {heard : List Message}
    : lastExit? heard = none ↔ ∀ message ∈ heard, message.exit? = none := by
  rw [lastExit?, List.getLast?_eq_none_iff, List.filterMap_eq_nil_iff]

/-- What has been told is never that nothing was told. -/
theorem lastExit?_ne_missing (heard : List Message) : lastExit? heard ≠ some .missing := by
  intro missing
  obtain ⟨message, -, told⟩ := List.mem_filterMap.mp (List.mem_of_getLast? missing)
  cases message <;> cases told

namespace Received

/-- What has been received with the messages that were heard. -/
def ofHeard (heard : List Message) : Received :=
  { output := heard.flatMap Message.bytes, exit := (lastExit? heard).getD .missing }

variable {earlier : List Message} {message : Message} (rest : List Message)

/-- A message that ends the command is the last that is looked at. -/
theorem collect_ends (ends : message.EndsAfter earlier)
    : collect (ofHeard earlier) (message :: rest) = ofHeard earlier := by
  cases ends with
  | close => rfl
  | @endOfOutput teller among told =>
      have known : lastExit? earlier ≠ none := by
        intro unknown
        rw [lastExit?_eq_none_iff.mp unknown teller among] at told
        cases told
      simp only [collect, ofHeard]
      rcases exit : lastExit? earlier with _ | _ | _ | _
      · exact absurd exit known
      · rfl
      · rfl
      · exact absurd exit (lastExit?_ne_missing earlier)

/-- Any other is taken over, by cases on the messages. -/
theorem collect_goesOn (goesOn : ¬ message.EndsAfter earlier)
    : collect (ofHeard earlier) (message :: rest)
      = collect (ofHeard (earlier ++ [message])) rest := by
  have taken
      : ofHeard (earlier ++ [message])
        = {
            output := (ofHeard earlier).output ++ message.bytes
            exit := message.exit?.getD (ofHeard earlier).exit
          } := by
    simp [ofHeard, lastExit?_concat]
  rw [taken]
  cases message with
  | close => exact absurd .close goesOn
  | endOfOutput =>
      have unknown : lastExit? earlier = none := by
        refine lastExit?_eq_none_iff.mpr fun teller among => ?_
        refine Option.not_isSome_iff_eq_none.mp fun told => ?_
        exact goesOn (.endOfOutput among told)
      simp [collect, ofHeard, unknown, Message.bytes, Message.exit?]
  | _ => simp [collect, Message.bytes, Message.exit?]

/-- What is received is what is received with the messages that are heard, by induction on those
that are still to come.
-/
theorem collect_hears (messages earlier : List Message)
    (goesOn
      : ∀ before message, before ++ [message] <+: earlier → ¬ message.EndsAfter before)
    : ∃ heard,
        Hears (earlier ++ messages) heard
        ∧ collect (ofHeard earlier) messages = ofHeard heard := by
  induction messages generalizing earlier with
  | nil => exact ⟨earlier, ⟨goesOn, [], rfl, by simp⟩, rfl⟩
  | cons message rest ih =>
      by_cases ends : message.EndsAfter earlier
      · exact ⟨earlier, ⟨goesOn, message :: rest, rfl, by simpa using ends⟩, collect_ends rest ends⟩
      · have further
            : ∀ before next,
                before ++ [next] <+: earlier ++ [message] → ¬ next.EndsAfter before := by
          intro before next among
          rcases List.prefix_concat_iff.mp among with last | sooner
          · obtain ⟨rfl, same⟩ := List.append_inj' last rfl
            cases same
            exact ends
          · exact goesOn before next sooner
        obtain ⟨heard, hears, collected⟩ := ih (earlier ++ [message]) further
        refine ⟨heard, by simpa using hears, ?_⟩
        rw [collect_goesOn rest ends, collected]

/-- A message that does not count leaves what is received as it is, by induction on the messages. -/
theorem collect_filter_counts (received : Received) (messages : List Message)
    : collect received (messages.filter Message.counts) = collect received messages := by
  induction messages generalizing received with
  | nil => rfl
  | cons message rest ih =>
      cases message with
      | endOfOutput =>
          cases exit : received.exit with
          | missing => simp [List.filter_cons, collect, Message.counts, exit, ih]
          | status _ | signal _ => simp [List.filter_cons, collect, Message.counts, exit]
      | _ => simp [List.filter_cons, collect, Message.counts, ih]

end Received

-----------------------------------------------------------------------------------------
-- What it comes to
-----------------------------------------------------------------------------------------

/-- What is said of a command that did not succeed, by what was told last of its exit. -/
def complaint : Option Exit → String
  | some (.status status) =>
      "failed to submit ssh command: Process exited with status " ++ toString status
  | some (.signal name) => "failed to submit ssh command: Process exited with signal " ++ name
  | _ =>
      "failed to submit ssh command: "
        ++ "remote command exited without exit status or exit signal"

/-- The result of a command of which some messages were heard. It is a success if they told last of
status zero, with all output among them, and a failure in every other case, which says nothing of
the output.
-/
structure ComesTo (heard : List Message) (result : Except Failure (List UInt8)) : Prop where
  succeeds
    : lastExit? heard = some (.status 0) → result = .ok (heard.flatMap Message.bytes)
  fails
    : lastExit? heard ≠ some (.status 0)
      → result = .error (.execution (complaint (lastExit? heard)))

/-- What was received comes to what the heard part says. -/
theorem Received.ofHeard_result (heard : List Message)
    : ComesTo heard (Received.ofHeard heard).result := by
  constructor
  · intro told
    simp [Received.result, Received.ofHeard, told]
  · intro other
    rw [Received.ofHeard, Received.result]
    rcases told : lastExit? heard with _ | (_ | status) | name | _
    · rfl
    · exact absurd told other
    · rfl
    · rfl
    · rfl

/-- A node opens a channel for a command, takes it and sends messages until its stream ends; it lets
the channel be closed then.
-/
structure Serves (node : Program.Surroundings Request Request.Answer) (history : List Request)
    (command : String) (messages : List Message) : Prop where
  opens : ∃ delay, node history .openSession = .after delay (.ok ())
  takes
    : ∃ delay, node (history ++ [.openSession]) (.submit command) = .after delay (.ok ())
  sends
    : ∃ delay,
        node (history ++ [.openSession, .submit command]) .receive = .after delay messages
  letsGo
    : ∃ delay,
        node (history ++ [.openSession, .submit command, .receive]) .closeSession
        = .after delay ()

/-- A command that is taken comes to what the messages tell that are heard, and only one part of
the stream is heard. A message that does not count could as well stand elsewhere or be left out.
-/
theorem runCommand_ends {node : Program.Surroundings Request Request.Answer}
    {history : List Request} {command : String} {messages : List Message}
    (serves : Serves node history command messages) (now : Nat)
    : ∃ heard time result,
        (∀ other, Hears messages other ↔ other = heard)
        ∧ Ends node history now (runCommand command)
            [.openSession, .submit command, .receive, .closeSession] time result
        ∧ ComesTo heard result
        ∧ ∀ others,
            others.filter Message.counts = messages.filter Message.counts
            → (Received.nothing.collect others).result = result := by
  obtain ⟨⟨opening, opens⟩, ⟨taking, takes⟩, ⟨sending, sends⟩, closing, letsGo⟩ := serves
  obtain ⟨heard, hears, collected⟩ :=
    Received.collect_hears messages [] fun before message among => by simp at among
  rw [List.nil_append] at hears
  refine ⟨heard, now + opening + taking + sending + closing,
    (Received.ofHeard heard).result, ?_, ?_, Received.ofHeard_result heard, ?_⟩
  · intro other
    constructor
    · intro likewise
      exact likewise.unique hears
    · intro same
      rw [same]
      exact hears
  · refine ends_ask.mpr ⟨opening, .ok (), _, opens, ?_, rfl⟩
    refine ends_ask.mpr ⟨taking, .ok (), _, takes, ?_, rfl⟩
    refine ends_ask.mpr ⟨sending, messages, _, by simpa using sends, ?_, rfl⟩
    refine ends_ask.mpr ⟨closing, (), _, by simpa using letsGo, ?_, rfl⟩
    exact ends_done.mpr ⟨rfl, rfl, congrArg Received.result collected.symm⟩
  · intro others alike
    rw [← Received.collect_filter_counts, alike, Received.collect_filter_counts]
    exact congrArg Received.result collected

/-- Messages among which the output ends before the exit is told, goes on on both sides of that, and
ends again before the last of it.
-/
def interrupted : List Message :=
  [.output [97], .endOfOutput, .errorOutput [98], .exitStatus 0, .notice, .output [99],
    .endOfOutput, .output [100]]

/-- A node that sends them after every command. -/
def interruptedNode : NodeScript :=
  {
    mode := .serves
    manners := { password := .accepts, key := .accepts, channel := .accepts }
    events := interrupted.map NodeEvent.message
  }

/-- All output up to the second end is the result. -/
theorem interruptedOutput_isKept
    : Serves interruptedNode.surroundings [] "uptime" interrupted
      ∧ ∃ heard time,
          Hears interrupted heard
          ∧ Ends interruptedNode.surroundings [] 0 (runCommand "uptime")
              [.openSession, .submit "uptime", .receive, .closeSession] time
              (.ok (heard.flatMap Message.bytes))
          ∧ heard.flatMap Message.bytes = [97, 98, 99] := by
  have serves : Serves interruptedNode.surroundings [] "uptime" interrupted :=
    ⟨⟨0, rfl⟩, ⟨0, rfl⟩, ⟨0, rfl⟩, ⟨0, rfl⟩⟩
  obtain ⟨heard, time, result, only, ends, comesTo, -⟩ := runCommand_ends serves 0
  have known : result = .ok [97, 98, 99] := (ends.unique ⟨rfl, rfl⟩).2.2
  rw [known] at ends comesTo
  by_cases told : lastExit? heard = some (.status 0)
  · have output := Except.ok.inj (comesTo.succeeds told)
    rw [output] at ends
    exact ⟨serves, heard, time, (only heard).mpr rfl, ends, output.symm⟩
  · cases comesTo.fails told

end FleetOps.Ssh
