import Mathlib.Data.List.Basic

/-!
# Runs of a deterministic system

A system is a step function over states and actions.  A run is a list of
actions.  Invariants are carried along runs either unconditionally or along
the runs whose every step meets a condition on the state it is taken in.
-/

namespace Runs

universe u v w

variable {σ : Type u} {α : Type v} {β : Type w}

/-- The state reached from `start` by taking the actions in order. -/
def runSteps (step : σ → α → σ) (start : σ) (actions : List α) : σ := actions.foldl step start

@[simp]
theorem runSteps_nil (step : σ → α → σ) (start : σ) : runSteps step start [] = start := rfl

@[simp]
theorem runSteps_cons (step : σ → α → σ) (start : σ) (action : α) (rest : List α) :
    runSteps step start (action :: rest) = runSteps step (step start action) rest :=
  rfl

theorem runSteps_append (step : σ → α → σ) (start : σ) (initial rest : List α) :
    runSteps step start (initial ++ rest) = runSteps step (runSteps step start initial) rest :=
  List.foldl_append

/-- Every action is taken in a state in which `allowed` permits it. -/
def StepsMeet (step : σ → α → σ) (allowed : σ → α → Prop) : σ → List α → Prop
  | _, [] => True
  | state, action :: rest =>
      allowed state action ∧ StepsMeet step allowed (step state action) rest

instance StepsMeet.decidable {step : σ → α → σ} {allowed : σ → α → Prop}
    [∀ state action, Decidable (allowed state action)] :
    ∀ (start : σ) (actions : List α), Decidable (StepsMeet step allowed start actions)
  | _, [] => .isTrue trivial
  | start, action :: rest =>
      have : Decidable (StepsMeet step allowed (step start action) rest) :=
        StepsMeet.decidable (step start action) rest
      inferInstanceAs (Decidable (_ ∧ _))

theorem StepsMeet.append_left
    {step : σ → α → σ} {allowed : σ → α → Prop} :
    ∀ {start : σ} {initial rest : List α},
      StepsMeet step allowed start (initial ++ rest) → StepsMeet step allowed start initial
  | _, [], _, _ => trivial
  | _, _ :: _, _, steps => ⟨steps.1, append_left steps.2⟩

theorem StepsMeet.append_right
    {step : σ → α → σ} {allowed : σ → α → Prop}
    {start : σ} {initial rest : List α}
    (steps : StepsMeet step allowed start (initial ++ rest)) :
    StepsMeet step allowed (runSteps step start initial) rest := by
  induction initial generalizing start with
  | nil => exact steps
  | cons action initial inductionHypothesis =>
      exact inductionHypothesis steps.2

/-- A weaker condition is met along the same runs. -/
theorem StepsMeet.mono
    {step : σ → α → σ} {allowed permitted : σ → α → Prop}
    (weaker : ∀ state action, allowed state action → permitted state action)
    {start : σ} {actions : List α}
    (steps : StepsMeet step allowed start actions) :
    StepsMeet step permitted start actions := by
  induction actions generalizing start with
  | nil => exact trivial
  | cons action rest inductionHypothesis =>
      exact ⟨weaker start action steps.1, inductionHypothesis steps.2⟩

/-- A condition on the actions alone may be added to the condition met. -/
theorem StepsMeet.and_forall
    {step : σ → α → σ} {allowed : σ → α → Prop} {permitted : α → Prop}
    {start : σ} {actions : List α} (steps : StepsMeet step allowed start actions)
    (all : ∀ action ∈ actions, permitted action) :
    StepsMeet step (fun state action => allowed state action ∧ permitted action) start
      actions := by
  induction actions generalizing start with
  | nil => exact trivial
  | cons action rest inductionHypothesis =>
      obtain ⟨first, later⟩ := List.forall_mem_cons.mp all
      exact ⟨⟨steps.1, first⟩, inductionHypothesis steps.2 later⟩

/-- The condition holds at every step of the run. -/
theorem StepsMeet.allowed_at
    {step : σ → α → σ} {allowed : σ → α → Prop}
    {start : σ} {initial rest : List α} {action : α}
    (steps : StepsMeet step allowed start (initial ++ action :: rest)) :
    allowed (runSteps step start initial) action :=
  (append_right steps).1

/-- A property preserved by the allowed steps holds after a run of them. -/
theorem invariant_of_stepsMeet
    {step : σ → α → σ} {allowed : σ → α → Prop} {invariant : σ → Prop}
    (preserved :
      ∀ state action, allowed state action → invariant state → invariant (step state action))
    {start : σ} {actions : List α}
    (steps : StepsMeet step allowed start actions)
    (holds : invariant start) :
    invariant (runSteps step start actions) := by
  induction actions generalizing start with
  | nil => exact holds
  | cons action rest inductionHypothesis =>
      exact inductionHypothesis steps.2 (preserved start action steps.1 holds)

/-- A property preserved by the permitted actions holds after a run of
them. -/
theorem invariant_of_forall
    {step : σ → α → σ} {permitted : α → Prop} {invariant : σ → Prop}
    (preserved : ∀ state action, permitted action → invariant state → invariant (step state action))
    {start : σ} {actions : List α}
    (all : ∀ action ∈ actions, permitted action) (holds : invariant start) :
    invariant (runSteps step start actions) := by
  induction actions generalizing start with
  | nil => exact holds
  | cons action rest inductionHypothesis =>
      exact inductionHypothesis
        (fun other member => all other (List.mem_cons_of_mem action member))
        (preserved start action (all action List.mem_cons_self) holds)

/-- A property preserved by every step holds after every run. -/
theorem invariant_of_steps
    {step : σ → α → σ} {invariant : σ → Prop}
    (preserved : ∀ state action, invariant state → invariant (step state action))
    {start : σ} (actions : List α) (holds : invariant start) :
    invariant (runSteps step start actions) := by
  induction actions generalizing start with
  | nil => exact holds
  | cons action rest inductionHypothesis =>
      exact inductionHypothesis (preserved start action holds)

/-! ## Outputs -/

/-- What a system with outputs puts out along a run. -/
def runOutputs (step : σ → α → σ × List β) : σ → List α → List β
  | _, [] => []
  | state, action :: rest =>
      (step state action).2 ++ runOutputs step (step state action).1 rest

end Runs
