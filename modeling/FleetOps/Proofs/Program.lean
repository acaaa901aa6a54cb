import FleetOps.Program

/-! Laws of procedures against their surroundings. What one procedure asks after another comes
after it in time, and a procedure that keeps to a protocol does so whatever it is answered, as
does all that can be left of it. A procedure may also rely on what it is told.
-/

namespace FleetOps.Program

variable {Request : Type} {Answer : Request → Type} {α β σ : Type}
  {surroundings : Surroundings Request Answer}

-----------------------------------------------------------------------------------------
-- One procedure after another
-----------------------------------------------------------------------------------------

/-- The requests of a timeline without their times. -/
def Timeline.requests (timeline : Timeline Request α) : List Request :=
  timeline.asked.map (·.2)

/-- What is asked first when another procedure goes on. -/
def Timeline.andThen (first : Timeline Request α) (rest : Nat → α → Timeline Request β)
    : Timeline Request β :=
  match first.finish with
  | none => { asked := first.asked, finish := none }
  | some (time, value) =>
      { rest time value with asked := first.asked ++ (rest time value).asked }

/-- A procedure that goes on with the value of another asks its requests from the end of the
other on, by induction on the first one.
-/
theorem timeline_bind (program : Program Request Answer α) (next : α → Program Request Answer β)
    (history : List Request) (now : Nat)
    : timeline surroundings history now (program.bind next)
      = (timeline surroundings history now program).andThen fun time value =>
          timeline surroundings
            (history ++ (timeline surroundings history now program).requests) time
            (next value) := by
  induction program generalizing history now with
  | done value => simp [bind, timeline, Timeline.andThen, Timeline.requests]
  | ask request rest ih =>
      simp only [bind, timeline]
      cases surroundings history request with
      | never => rfl
      | after delay answer =>
          simp only [ih, Timeline.andThen, Timeline.requests]
          cases (timeline surroundings (history ++ [request]) (now + delay)
              (rest answer)).finish with
          | none => rfl
          | some finish => simp

/-- A program that is gone on with ends after its first part has. -/
theorem timeline_bind_finish {program : Program Request Answer α}
    {next : α → Program Request Answer β} {history : List Request} {now time : Nat} {value : β}
    (h : (timeline surroundings history now (program.bind next)).finish = some (time, value))
    : ∃ began first,
        (timeline surroundings history now program).finish = some (began, first)
        ∧ (timeline surroundings
              (history ++ (timeline surroundings history now program).requests) began
              (next first)).finish
          = some (time, value) := by
  rw [timeline_bind, Timeline.andThen] at h
  cases ended : (timeline surroundings history now program).finish with
  | none => simp [ended] at h
  | some finish =>
      obtain ⟨began, first⟩ := finish
      exact ⟨began, first, rfl, by simpa [ended] using h⟩

-----------------------------------------------------------------------------------------
-- Ends
-----------------------------------------------------------------------------------------

/-- A procedure comes to its end at a time and with a value, after some requests. -/
structure Ends (surroundings : Surroundings Request Answer) (history : List Request) (now : Nat)
    (program : Program Request Answer α) (requests : List Request) (time : Nat) (value : α)
    : Prop where
  requests : (timeline surroundings history now program).requests = requests
  finish : (timeline surroundings history now program).finish = some (time, value)

section

variable {history requests : List Request} {now time : Nat} {value : α}

/-- A program ends in one way only. -/
theorem Ends.unique {program : Program Request Answer α} {other : List Request} {later : Nat}
    {result : α} (first : Ends surroundings history now program requests time value)
    (second : Ends surroundings history now program other later result)
    : requests = other ∧ time = later ∧ value = result := by
  obtain ⟨same, finish⟩ := Prod.mk.inj (Option.some.inj (first.finish.symm.trans second.finish))
  exact ⟨first.requests.symm.trans second.requests, same, finish⟩

/-- What is done ends at once with its value. -/
theorem ends_done {other : α}
    : Ends surroundings history now (.done other) requests time value
      ↔ requests = [] ∧ time = now ∧ value = other := by
  constructor
  · intro ends
    obtain ⟨rfl, rfl⟩ := Prod.mk.inj (Option.some.inj ends.finish)
    exact ⟨ends.requests.symm, rfl, rfl⟩
  · intro ended
    obtain ⟨rfl, rfl, rfl⟩ := ended
    exact ⟨rfl, rfl⟩

/-- A procedure that asks first ends if it is answered, as it goes on with the answer. -/
theorem ends_ask {request : Request} {next : Answer request → Program Request Answer α}
    : Ends surroundings history now (.ask request next) requests time value
      ↔ ∃ delay answer rest,
          surroundings history request = .after delay answer
          ∧ Ends surroundings (history ++ [request]) (now + delay) (next answer) rest time value
          ∧ requests = request :: rest := by
  constructor
  · intro ends
    cases answered : surroundings history request with
    | never => simpa [timeline, answered] using ends.finish
    | after delay answer =>
        have asked := ends.requests
        have finish := ends.finish
        simp only [timeline, answered] at asked finish
        exact ⟨delay, answer, _, rfl, ⟨rfl, finish⟩, asked.symm⟩
  · intro goesOn
    obtain ⟨delay, answer, rest, answered, ⟨rfl, finish⟩, rfl⟩ := goesOn
    constructor
    · simp [timeline, answered, Timeline.requests]
    · simpa [timeline, answered] using finish

/-- A procedure that goes on with a value ends if it comes to one, as it goes on with that. -/
theorem ends_bind {program : Program Request Answer β} {next : β → Program Request Answer α}
    : Ends surroundings history now (program.bind next) requests time value
      ↔ ∃ first began middle rest,
          Ends surroundings history now program first began middle
          ∧ Ends surroundings (history ++ first) began (next middle) rest time value
          ∧ requests = first ++ rest := by
  constructor
  · intro ends
    obtain ⟨began, middle, finish, last⟩ := timeline_bind_finish ends.finish
    refine ⟨_, began, middle, _, ⟨rfl, finish⟩, ⟨rfl, last⟩, ?_⟩
    rw [← ends.requests, timeline_bind]
    simp [Timeline.andThen, finish, Timeline.requests]
  · intro both
    obtain ⟨_, began, middle, _, ⟨rfl, finish⟩, ⟨rfl, last⟩, rfl⟩ := both
    constructor
    · simp [timeline_bind, Timeline.andThen, finish, Timeline.requests]
    · simpa [timeline_bind, Timeline.andThen, finish] using last

end

/-- The surroundings answer whatever they are asked. -/
def Answers (surroundings : Surroundings Request Answer) : Prop :=
  ∀ history request, ∃ delay answer, surroundings history request = .after delay answer

/-- A procedure whose surroundings answer comes to its end, by induction on the procedure. -/
theorem Answers.finishes (answers : Answers surroundings) (program : Program Request Answer α)
    (history : List Request) (now : Nat)
    : ∃ requests time value, Ends surroundings history now program requests time value := by
  induction program generalizing history now with
  | done value => exact ⟨[], now, value, ends_done.mpr ⟨rfl, rfl, rfl⟩⟩
  | ask request next ih =>
      obtain ⟨delay, answer, answered⟩ := answers history request
      obtain ⟨requests, time, value, ends⟩ := ih answer (history ++ [request]) (now + delay)
      exact ⟨_, time, value, ends_ask.mpr ⟨delay, answer, requests, answered, ends, rfl⟩⟩

-----------------------------------------------------------------------------------------
-- Times
-----------------------------------------------------------------------------------------

/-- A timeline from a time on: what it asks is in order of time, and its end comes last. -/
structure Timeline.InOrder (now : Nat) (timeline : Timeline Request α) : Prop where
  sorted : timeline.asked.Pairwise fun earlier later => earlier.1 ≤ later.1
  since : ∀ asked ∈ timeline.asked, now ≤ asked.1
  finish
    : ∀ time value, timeline.finish = some (time, value)
      → now ≤ time ∧ ∀ asked ∈ timeline.asked, asked.1 ≤ time

/-- Requests are asked one after another, by induction on the procedure. -/
theorem timeline_inOrder (program : Program Request Answer α) (history : List Request)
    (now : Nat)
    : (timeline surroundings history now program).InOrder now := by
  induction program generalizing history now with
  | done value =>
      refine ⟨List.Pairwise.nil, by simp [timeline], ?_⟩
      intro time other h
      cases h
      exact ⟨Nat.le_refl _, by simp [timeline]⟩
  | ask request rest ih =>
      simp only [timeline]
      cases surroundings history request with
      | never => exact ⟨List.pairwise_singleton _ _, by simp, by simp⟩
      | after delay answer =>
          obtain ⟨sorted, since, finish⟩ := ih answer (history ++ [request]) (now + delay)
          have after := fun asked member =>
            Nat.le_trans (Nat.le_add_right now delay) (since asked member)
          refine ⟨List.pairwise_cons.mpr ⟨after, sorted⟩,
            List.forall_mem_cons.mpr ⟨Nat.le_refl _, after⟩, ?_⟩
          intro time value h
          obtain ⟨later, last⟩ := finish time value h
          have := Nat.le_trans (Nat.le_add_right now delay) later
          exact ⟨this, List.forall_mem_cons.mpr ⟨this, last⟩⟩

-----------------------------------------------------------------------------------------
-- Protocols
-----------------------------------------------------------------------------------------

/-- Whether a procedure keeps to a protocol whatever it is answered: the protocol allows each
request in its state, and the value suits the state in the end.
-/
def Keeps (step : σ → Request → Option σ) (suits : σ → α → Prop)
    : σ → Program Request Answer α → Prop
  | state, done value => suits state value
  | state, ask request next =>
      ∃ later, step state request = some later ∧ ∀ answer, Keeps step suits later (next answer)

namespace Keeps

variable {step : σ → Request → Option σ} {state : σ}

/-- A procedure keeps to a protocol if one keeps to it up to a value with which the other goes
on.
-/
theorem bind {middle : σ → α → Prop} {suits : σ → β → Prop} {program : Program Request Answer α}
    {next : α → Program Request Answer β} (first : Keeps step middle state program)
    (rest : ∀ later value, middle later value → Keeps step suits later (next value))
    : Keeps step suits state (program.bind next) := by
  induction program generalizing state with
  | done value => exact rest state value first
  | ask request following ih =>
      obtain ⟨later, allowed, goesOn⟩ := first
      exact ⟨later, allowed, fun answer => ih answer (goesOn answer)⟩

/-- What a program keeps implies what follows from it. -/
theorem mono {suits weaker : σ → α → Prop} {program : Program Request Answer α}
    (h : Keeps step suits state program)
    (implies : ∀ last value, suits last value → weaker last value)
    : Keeps step weaker state program := by
  induction program generalizing state with
  | done value => exact implies state value h
  | ask request next ih =>
      obtain ⟨later, allowed, goesOn⟩ := h
      exact ⟨later, allowed, fun answer => ih answer (goesOn answer)⟩

/-- What a procedure asks is allowed by a protocol to which it keeps, and what it ends with
suits the state then.
-/
theorem timeline {suits : σ → α → Prop} {program : Program Request Answer α}
    (h : Keeps step suits state program) (history : List Request) (now : Nat)
    : ∃ last,
        (Program.timeline surroundings history now program).requests.foldlM step state
          = some last
        ∧ ∀ time value,
            (Program.timeline surroundings history now program).finish = some (time, value)
            → suits last value := by
  induction program generalizing state history now with
  | done value =>
      refine ⟨state, rfl, ?_⟩
      intro time other ended
      cases ended
      exact h
  | ask request next ih =>
      obtain ⟨later, allowed, goesOn⟩ := h
      simp only [Program.timeline]
      cases surroundings history request with
      | never => exact ⟨later, by simp [Timeline.requests, allowed], by simp⟩
      | after delay answer =>
          obtain ⟨last, follows, ends⟩ :=
            ih answer (goesOn answer) (history ++ [request]) (now + delay)
          refine ⟨last, ?_, ends⟩
          simpa [Timeline.requests, allowed] using follows

end Keeps

-----------------------------------------------------------------------------------------
-- What is left of a procedure
-----------------------------------------------------------------------------------------

/-- What can be left of a procedure, by the answers to its requests so far. -/
inductive Leaves (program : Program Request Answer α) : Program Request Answer α → Prop
  | whole : Leaves program program
  | answered {request : Request} {next : Answer request → Program Request Answer α}
    (left : Leaves program (.ask request next)) (answer : Answer request)
    : Leaves program (next answer)

/-- The procedure asks a request next. -/
def Asks (program : Program Request Answer α) (request : Request) : Prop :=
  ∃ next, program = .ask request next

/-- A procedure asks only what is allowed, whatever it is answered. -/
def AsksOnly (allowed : Request → Prop) : Program Request Answer α → Prop
  | done _ => True
  | ask request next => allowed request ∧ ∀ answer, AsksOnly allowed (next answer)

/-- What is left of a program asks for no more than the program. -/
theorem AsksOnly.left {allowed : Request → Prop} {program rest : Program Request Answer α}
    (h : program.AsksOnly allowed) (left : program.Leaves rest)
    : rest.AsksOnly allowed := by
  induction left with
  | whole => exact h
  | answered _ answer ih => exact ih.2 answer

/-- A program and what it goes on with ask for what both do. -/
theorem AsksOnly.bind {allowed : Request → Prop} {program : Program Request Answer α}
    {next : α → Program Request Answer β} (first : program.AsksOnly allowed)
    (rest : ∀ value, (next value).AsksOnly allowed)
    : (program.bind next).AsksOnly allowed := by
  induction program with
  | done value => exact rest value
  | ask request following ih => exact ⟨first.1, fun answer => ih answer (first.2 answer)⟩

/-- The requests of a program are among those that it asks for. -/
theorem AsksOnly.requests {allowed : Request → Prop} {program : Program Request Answer α}
    (h : program.AsksOnly allowed) (history : List Request) (now : Nat)
    : ∀ request ∈ (timeline surroundings history now program).requests, allowed request := by
  induction program generalizing history now with
  | done value => simp [timeline, Timeline.requests]
  | ask request next ih =>
      simp only [timeline]
      cases surroundings history request with
      | never => simpa [Timeline.requests] using h.1
      | after delay answer =>
          have later := ih answer (h.2 answer) (history ++ [request]) (now + delay)
          simpa [Timeline.requests] using And.intro h.1 later

/-- A procedure ends alike in related states if what it asks is answered alike in them, by induction
on the procedure.
-/
theorem AsksOnly.run_related {answer : (request : Request) → σ → Answer request × σ}
    {related : σ → σ → Prop} {allowed : Request → Prop} {program : Program Request Answer α}
    (h : program.AsksOnly allowed)
    (alike
      : ∀ request left right,
          related left right
          → allowed request
          → (answer request left).1 = (answer request right).1
            ∧ related (answer request left).2 (answer request right).2)
    {left right : σ} (states : related left right)
    : (program.run answer left).1 = (program.run answer right).1
      ∧ related (program.run answer left).2 (program.run answer right).2 := by
  induction program generalizing left right with
  | done value => exact ⟨rfl, states⟩
  | ask request next ih =>
      obtain ⟨same, later⟩ := alike request left right states h.1
      simp only [Program.run, same]
      exact ih _ (h.2 _) later

-----------------------------------------------------------------------------------------
-- Procedures that rely on what they are told
-----------------------------------------------------------------------------------------

/-- A procedure asks only what is allowed and ends with a value that suits, as long as it is told
what may be told.
-/
def Relies (told : (request : Request) → Answer request → Prop) (allowed : Request → Prop)
    (suits : α → Prop) : Program Request Answer α → Prop
  | done value => suits value
  | ask request next =>
      allowed request
      ∧ ∀ answer, told request answer → Relies told allowed suits (next answer)

namespace Relies

variable {told : (request : Request) → Answer request → Prop} {allowed : Request → Prop}
  {suits : α → Prop} {program : Program Request Answer α}

/-- A program relies on nothing for asking only for what is allowed. -/
theorem of_asksOnly {wide : Request → Prop} (h : program.AsksOnly wide)
    (implies : ∀ request, wide request → allowed request)
    : program.Relies told allowed fun _ => True := by
  induction program with
  | done value => trivial
  | ask request next ih =>
      exact ⟨implies request h.1, fun answer _ => ih answer (h.2 answer)⟩

/-- What a program relies on for its value suffices for what the value implies. -/
theorem mono {weaker : α → Prop} (h : program.Relies told allowed suits)
    (implies : ∀ value, suits value → weaker value)
    : program.Relies told allowed weaker := by
  induction program with
  | done value => exact implies value h
  | ask request next ih => exact ⟨h.1, fun answer heard => ih answer (h.2 answer heard)⟩

/-- A procedure ends with a value that suits if what is allowed keeps the state such that it
answers what may be told, by induction on the procedure.
-/
theorem run {answer : (request : Request) → σ → Answer request × σ} {holds : σ → Prop}
    (keeps
      : ∀ request state,
          holds state
          → allowed request
          → told request (answer request state).1 ∧ holds (answer request state).2)
    (h : program.Relies told allowed suits) {state : σ} (start : holds state)
    : suits (program.run answer state).1 := by
  induction program generalizing state with
  | done value => exact h
  | ask request next ih =>
      obtain ⟨heard, later⟩ := keeps request state start h.1
      exact ih _ (h.2 _ heard) later

end Relies

/-- What every request keeps of a state a procedure keeps, by induction on the procedure. -/
theorem run_keeps {answer : (request : Request) → σ → Answer request × σ} {holds : σ → Prop}
    (keeps : ∀ request state, holds state → holds (answer request state).2)
    (program : Program Request Answer α) {state : σ} (start : holds state)
    : holds (program.run answer state).2 := by
  induction program generalizing state with
  | done value => exact start
  | ask request next ih => exact ih _ (keeps request state start)

end FleetOps.Program
