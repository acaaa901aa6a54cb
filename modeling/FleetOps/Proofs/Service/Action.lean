import FleetOps.Proofs.Store.Refinement
import FleetOps.Service.Action

/-! Actions on two stores side by side. Two actions match if, from related stores, they end with
the same failure or with matching values, and leave related stores. Actions that are put together
from matching ones match.
-/

namespace FleetOps

/-- A relation between two stores that no answer of some store action tells apart. -/
def StoreAction.Matches {α : Type} (related : Front → Front → Prop) (act : StoreAction α) : Prop :=
  ∀ front other,
    related front other → (act front).1 = (act other).1 ∧ related (act front).2 (act other).2

namespace Service

variable {α β γ δ : Type} {related : Front → Front → Prop}

/-- Both results are the same failure, or values that match. -/
inductive ResultsMatch (same : α → β → Prop) : Except Failure α → Except Failure β → Prop
  | failed (failure : Failure) : ResultsMatch same (.error failure) (.error failure)
  | done {left : α} {right : β} (h : same left right) : ResultsMatch same (.ok left) (.ok right)

namespace Action

/-- An action is gone on with on the store that it leaves, unless it fails. -/
theorem perform_bind (action : Action α) (next : α → Action β) (front : Front)
    : (action >>= next).perform front
      = match action.perform front with
        | (.ok value, later) => (next value).perform later
        | (.error failure, later) => (.error failure, later) := by
  change ExceptT.run (ExceptT.bind action next) front = _
  simp only [perform, ExceptT.run, ExceptT.bind, ExceptT.mk, bind, StateT.bind]
  rcases action front with ⟨result, later⟩
  cases result <;> rfl

/-- What succeeds is gone on with. -/
theorem perform_bind_ok {action : Action α} {front : Front} {value : α}
    (h : (action.perform front).1 = .ok value) (next : α → Action β)
    : (action >>= next).perform front = (next value).perform (action.perform front).2 := by
  rw [perform_bind]
  generalize action.perform front = performed at h ⊢
  obtain ⟨result, later⟩ := performed
  cases h
  rfl

/-- Nothing follows what fails. -/
theorem perform_bind_error {action : Action α} {front : Front} {failure : Failure}
    (h : (action.perform front).1 = .error failure) (next : α → Action β)
    : (action >>= next).perform front = (.error failure, (action.perform front).2) := by
  rw [perform_bind]
  generalize action.perform front = performed at h ⊢
  obtain ⟨result, later⟩ := performed
  cases h
  rfl

/-- A value leaves the store alone. -/
@[simp] theorem perform_pure (value : α) (front : Front)
    : (pure value : Action α).perform front = (.ok value, front) := rfl

/-- A failure leaves the store alone. -/
@[simp] theorem perform_throw (failure : Failure) (front : Front)
    : (throw failure : Action α).perform front = (.error failure, front) := rfl

/-- Asking is failing as the store does, or going on with its answer. -/
@[simp] theorem perform_ask (act : StoreAction α) (front : Front)
    : (ask act).perform front = ((act front).1.mapError Failure.storage, (act front).2) := rfl

/-- Requiring leaves the store alone. -/
theorem perform_require (failure : Failure) (value : Option α) (front : Front)
    : (require failure value).perform front
      = (match value with
        | some value => .ok value
        | none => .error failure, front) := by
  cases value <;> rfl

/-- Both actions end alike, whatever related stores they are performed on. -/
def Matches (related : Front → Front → Prop) (same : α → β → Prop) (left : Action α)
    (right : Action β) : Prop :=
  ∀ front other,
    related front other
    → ResultsMatch same (left.perform front).1 (right.perform other).1
      ∧ related (left.perform front).2 (right.perform other).2

namespace Matches

variable {same : α → β → Prop} {then_ : γ → δ → Prop}

/-- Values that are the same end alike. -/
theorem pure {left : α} {right : β} (h : same left right)
    : Matches related same (Pure.pure left) (Pure.pure right) :=
  fun _ _ stores => ⟨.done h, stores⟩

/-- Failures end alike. -/
theorem throw (failure : Failure)
    : Matches related same (throw failure : Action α) (throw failure : Action β) :=
  fun _ _ stores => ⟨.failed failure, stores⟩

/-- Actions that end alike are gone on with alike. -/
theorem bind {left : Action α} {right : Action β} {next : α → Action γ} {following : β → Action δ}
    (first : Matches related same left right)
    (rest : ∀ value other, same value other → Matches related then_ (next value) (following other))
    : Matches related then_ (left >>= next) (right >>= following) := by
  intro front other stores
  have performed := first front other stores
  rw [perform_bind, perform_bind]
  generalize left.perform front = one at performed ⊢
  generalize right.perform other = another at performed ⊢
  obtain ⟨result, store⟩ := one
  obtain ⟨otherResult, otherStore⟩ := another
  obtain ⟨results, later⟩ := performed
  cases results with
  | failed failure => exact ⟨.failed failure, later⟩
  | done matching => exact rest _ _ matching store otherStore later

/-- Actions that end with equal values need only be gone on with alike from each value. -/
theorem bindSame {left right : Action α} {next : α → Action γ} {following : α → Action δ}
    (first : Matches related Eq left right)
    (rest : ∀ value, Matches related then_ (next value) (following value))
    : Matches related then_ (left >>= next) (right >>= following) := by
  refine first.bind fun value other equal => ?_
  subst equal
  exact rest value

/-- What matches on the stores is asked alike. -/
theorem ask {act : StoreAction α} (h : act.Matches related)
    : Matches related Eq (Action.ask act) (Action.ask act) := by
  intro front other stores
  obtain ⟨answers, later⟩ := h front other stores
  change ResultsMatch Eq ((act front).1.mapError Failure.storage)
      ((act other).1.mapError Failure.storage)
    ∧ related (act front).2 (act other).2
  rw [answers]
  refine ⟨?_, later⟩
  cases (act other).1 with
  | error fault => exact .failed _
  | ok value => exact .done rfl

/-- What is required is required alike. -/
theorem require (failure : Failure) (value : Option α)
    : Matches related Eq (Action.require failure value) (Action.require failure value) := by
  cases value with
  | none => exact throw failure
  | some value => exact pure rfl

/-- What is required is there when both go on. -/
theorem requiring {failure : Failure} {found : Option α} {next : α → Action γ}
    {following : α → Action δ}
    (rest : ∀ value, found = some value → Matches related then_ (next value) (following value))
    : Matches related then_ (Action.require failure found >>= next)
        (Action.require failure found >>= following) := by
  cases found with
  | none => exact fun _ _ stores => ⟨.failed failure, stores⟩
  | some value => exact rest value rfl

/-- A choice that does not look at the store is made alike. -/
theorem ite {left left' : Action α} {right right' : Action β} (condition : Bool)
    (holds : Matches related same left right) (fails : Matches related same left' right')
    : Matches related same (if condition then left else left')
        (if condition then right else right') := by
  cases condition with
  | true => exact holds
  | false => exact fails

/-- A check that fails first and is gone on after. -/
theorem guard {next : PUnit → Action γ} {following : PUnit → Action δ} (condition : Bool)
    (failure : Failure) (rest : Matches related then_ (next ⟨⟩) (following ⟨⟩))
    : Matches related then_
        (if condition then MonadExcept.throw failure >>= next else next ⟨⟩)
        (if condition then MonadExcept.throw failure >>= following else following ⟨⟩) :=
  ite condition (bindSame (throw failure) fun _ => rest) rest

end Matches

end Action

end Service

end FleetOps
