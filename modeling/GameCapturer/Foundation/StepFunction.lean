import Mathlib.Data.List.Basic

/-!
# Executable step functions and their finite runs

A system is given by a partial step function on explicit states: `none` means
that the action is disabled.  Runs fold the step function over an action list.
The rules below are the only inductions over runs that a development needs: an
invariant rule, the same rule under a condition on every step, and forward
simulation.
-/

namespace Foundation

/-- A partial step function: `none` marks a disabled action. -/
abbrev StepFunction (State Action : Type) :=
  State → Action → Option State

namespace StepFunction

variable {State Action : Type}

/-- Take the listed actions in order, failing at the first disabled one. -/
def run?
    (step? : StepFunction State Action) :
    State → List Action → Option State
  | state, [] => some state
  | state, action :: rest =>
      (step? state action).bind fun next => run? step? next rest

/-- Every step taken along the action list meets a condition on its source. -/
def EveryStep
    (step? : StepFunction State Action)
    (condition : State → Action → Prop) :
    State → List Action → Prop
  | _, [] => True
  | state, action :: rest =>
      condition state action ∧
        ∀ next,
          step? state action = some next →
          EveryStep step? condition next rest

section Runs

variable {step? : StepFunction State Action}

@[simp] theorem run?_nil (state : State) :
    run? step? state [] = some state :=
  rfl

/-- A run over a nonempty list is its first step followed by the rest. -/
theorem run?_cons_eq_some_iff
    {state final : State}
    {action : Action}
    {rest : List Action} :
    run? step? state (action :: rest) = some final ↔
      ∃ middle,
        step? state action = some middle ∧
          run? step? middle rest = some final :=
  Option.bind_eq_some_iff

/-- A run over a concatenation splits at the boundary state. -/
theorem run?_append_eq_some_iff
    {state final : State}
    {leading trailing : List Action} :
    run? step? state (leading ++ trailing) = some final ↔
      ∃ middle,
        run? step? state leading = some middle ∧
          run? step? middle trailing = some final := by
  induction leading generalizing state with
  | nil =>
      simp
  | cons action rest inductionHypothesis =>
      simp only [List.cons_append, run?_cons_eq_some_iff,
        inductionHypothesis]
      constructor
      · rintro ⟨next, stepped, middle, first, later⟩
        exact ⟨middle, ⟨next, stepped, first⟩, later⟩
      · rintro ⟨middle, ⟨next, stepped, first⟩, later⟩
        exact ⟨next, stepped, middle, first, later⟩

/-- Extending a run by one enabled action. -/
theorem run?_snoc
    {state middle final : State}
    {actions : List Action}
    {action : Action}
    (ran : run? step? state actions = some middle)
    (stepped : step? middle action = some final) :
    run? step? state (actions ++ [action]) = some final :=
  run?_append_eq_some_iff.mpr
    ⟨middle, ran,
      run?_cons_eq_some_iff.mpr ⟨final, stepped, rfl⟩⟩

/-- A property that every permitted step keeps holds after a permitted run. -/
theorem invariant_of_everyStep
    {condition : State → Action → Prop}
    {invariant : State → Prop}
    (preserved :
      ∀ {state next : State} {action : Action},
        invariant state →
        condition state action →
        step? state action = some next →
        invariant next)
    {state final : State}
    {actions : List Action}
    (holds : invariant state)
    (permitted : EveryStep step? condition state actions)
    (ran : run? step? state actions = some final) :
    invariant final := by
  induction actions generalizing state with
  | nil =>
      cases ran
      exact holds
  | cons action rest inductionHypothesis =>
      obtain ⟨middle, stepped, later⟩ :=
        run?_cons_eq_some_iff.mp ran
      exact inductionHypothesis
        (preserved holds permitted.1 stepped)
        (permitted.2 middle stepped)
        later

/-- The trivial condition holds of every step. -/
theorem everyStep_true
    (state : State)
    (actions : List Action) :
    EveryStep step? (fun _ _ => True) state actions := by
  induction actions generalizing state with
  | nil =>
      trivial
  | cons action rest inductionHypothesis =>
      exact ⟨trivial, fun next _ => inductionHypothesis next⟩

/-- A property that every step keeps holds after every run. -/
theorem invariant_of_run
    {invariant : State → Prop}
    (preserved :
      ∀ {state next : State} {action : Action},
        invariant state →
        step? state action = some next →
        invariant next)
    {state final : State}
    {actions : List Action}
    (holds : invariant state)
    (ran : run? step? state actions = some final) :
    invariant final :=
  have kept :
      ∀ {state next : State} {action : Action},
        invariant state →
        True →
        step? state action = some next →
        invariant next :=
    fun inv _ stepped => preserved inv stepped
  invariant_of_everyStep kept
    holds (everyStep_true state actions) ran

/-- A record that every step extends by its action's entries. -/
theorem history_of_run
    {Entry : Type}
    (history : State → List Entry)
    (entries : Action → List Entry)
    (extended :
      ∀ {state next : State} {action : Action},
        step? state action = some next →
        history next = history state ++ entries action)
    {state final : State}
    {actions : List Action}
    (ran : run? step? state actions = some final) :
    history final = history state ++ actions.flatMap entries := by
  induction actions generalizing state with
  | nil =>
      cases ran
      simp
  | cons action rest inductionHypothesis =>
      obtain ⟨middle, stepped, later⟩ :=
        run?_cons_eq_some_iff.mp ran
      rw [inductionHypothesis later, extended stepped,
        List.flatMap_cons, List.append_assoc]

/-- A condition that the actions meet in every state is met along a run. -/
theorem everyStep_of_forall_mem
    {condition : State → Action → Prop}
    {actions : List Action}
    (permitted :
      ∀ action ∈ actions, ∀ state, condition state action)
    (state : State) :
    EveryStep step? condition state actions := by
  induction actions generalizing state with
  | nil =>
      trivial
  | cons action rest inductionHypothesis =>
      obtain ⟨first, later⟩ := List.forall_mem_cons.mp permitted
      exact ⟨first state,
        fun next _ => inductionHypothesis later next⟩

/-- Two conditions that are met along a run are met together. -/
theorem EveryStep.and
    {condition other : State → Action → Prop}
    {state : State}
    {actions : List Action}
    (first : EveryStep step? condition state actions)
    (second : EveryStep step? other state actions) :
    EveryStep step?
      (fun state action => condition state action ∧ other state action)
      state actions := by
  induction actions generalizing state with
  | nil =>
      trivial
  | cons action rest inductionHypothesis =>
      exact ⟨⟨first.1, second.1⟩, fun next stepped =>
        inductionHypothesis (first.2 next stepped)
          (second.2 next stepped)⟩

/-- A condition met along a whole run is met along its end. -/
theorem EveryStep.of_append
    {condition : State → Action → Prop}
    {state middle : State}
    {leading trailing : List Action}
    (whole : EveryStep step? condition state (leading ++ trailing))
    (ran : run? step? state leading = some middle) :
    EveryStep step? condition middle trailing := by
  induction leading generalizing state with
  | nil =>
      cases ran
      exact whole
  | cons action rest inductionHypothesis =>
      obtain ⟨next, stepped, later⟩ := run?_cons_eq_some_iff.mp ran
      exact inductionHypothesis (whole.2 next stepped) later

/-- A condition that an invariant ensures is met along a run. -/
theorem everyStep_of_invariant
    {condition : State → Action → Prop}
    {invariant : State → Prop}
    {allowed : Action → Prop}
    (preserved :
      ∀ {state next : State} {action : Action},
        invariant state →
        allowed action →
        step? state action = some next →
        invariant next)
    (ensured :
      ∀ {state : State} {action : Action},
        invariant state → allowed action → condition state action)
    {state : State}
    {actions : List Action}
    (holds : invariant state)
    (permitted : ∀ action ∈ actions, allowed action) :
    EveryStep step? condition state actions := by
  induction actions generalizing state with
  | nil =>
      trivial
  | cons action rest inductionHypothesis =>
      obtain ⟨first, later⟩ := List.forall_mem_cons.mp permitted
      exact ⟨ensured holds first, fun next stepped =>
        inductionHypothesis (preserved holds first stepped) later⟩

/-- A decidable condition can be checked along a concrete run. -/
instance decidableEveryStep
    (step? : StepFunction State Action)
    (condition : State → Action → Prop)
    [∀ state action, Decidable (condition state action)] :
    ∀ state actions,
      Decidable (EveryStep step? condition state actions)
  | _, [] => isTrue trivial
  | state, action :: rest =>
      let later :
          Decidable
            (∀ next,
              step? state action = some next →
              EveryStep step? condition next rest) :=
        match stepped : step? state action with
        | none => isTrue (by simp)
        | some next =>
            have : Decidable
                (EveryStep step? condition next rest) :=
              decidableEveryStep step? condition next rest
            decidable_of_iff
              (EveryStep step? condition next rest)
              (by simp)
      inferInstanceAs (Decidable (_ ∧ _))

end Runs

/-!
### Forward simulation
-/

variable {Abstract Label : Type}

/-- The abstract labels matched by a concrete run, in order. -/
def trace
    (step? : StepFunction State Action)
    (label : State → Action → List Label) :
    State → List Action → List Label
  | _, [] => []
  | state, action :: rest =>
      label state action ++
        match step? state action with
        | none => []
        | some next => trace step? label next rest

/-- Labels that ignore the state are read off the action list of a run. -/
theorem trace_eq_flatMap
    {step? : StepFunction State Action}
    {label : Action → List Label}
    {state final : State}
    {actions : List Action}
    (ran : run? step? state actions = some final) :
    trace step? (fun _ => label) state actions =
      actions.flatMap label := by
  induction actions generalizing state with
  | nil =>
      rfl
  | cons action rest inductionHypothesis =>
      obtain ⟨middle, stepped, later⟩ :=
        run?_cons_eq_some_iff.mp ran
      simp only [trace, stepped, List.flatMap_cons,
        inductionHypothesis later]

/-- What holds of the labels of every listed action holds of the trace. -/
theorem forall_mem_trace
    {step? : StepFunction State Action}
    {labels : State → Action → List Label}
    {property : Label → Prop}
    {actions : List Action}
    (holds :
      ∀ state, ∀ action ∈ actions, ∀ label ∈ labels state action,
        property label)
    (state : State) :
    ∀ label ∈ trace step? labels state actions, property label := by
  induction actions generalizing state with
  | nil =>
      exact List.forall_mem_nil _
  | cons action rest inductionHypothesis =>
      intro label member
      rcases List.mem_append.mp member with first | later
      · exact holds state action List.mem_cons_self label first
      · cases stepped : step? state action with
        | none =>
            simp [stepped] at later
        | some next =>
            simp only [stepped] at later
            exact inductionHypothesis
              (fun source action among =>
                holds source action (List.mem_cons_of_mem _ among))
              next label later

/--
A forward simulation: related states stay related when a permitted concrete
step is answered by the abstract run of its labels.
-/
structure Simulation
    (concrete : StepFunction State Action)
    (abstract : StepFunction Abstract Label)
    (condition : State → Action → Prop)
    (label : State → Action → List Label) where
  related : State → Abstract → Prop
  matched :
    ∀ {state next : State} {spec : Abstract} {action : Action},
      related state spec →
      condition state action →
      concrete state action = some next →
      ∃ nextSpec,
        run? abstract spec (label state action) = some nextSpec ∧
          related next nextSpec

/-- Simulation lifts from single steps to whole permitted runs. -/
theorem Simulation.run
    {concrete : StepFunction State Action}
    {abstract : StepFunction Abstract Label}
    {condition : State → Action → Prop}
    {label : State → Action → List Label}
    (simulation : Simulation concrete abstract condition label)
    {state final : State}
    {spec : Abstract}
    {actions : List Action}
    (related : simulation.related state spec)
    (permitted : EveryStep concrete condition state actions)
    (ran : run? concrete state actions = some final) :
    ∃ finalSpec,
      run? abstract spec
          (trace concrete label state actions) =
        some finalSpec ∧
        simulation.related final finalSpec := by
  induction actions generalizing state spec with
  | nil =>
      cases ran
      exact ⟨spec, rfl, related⟩
  | cons action rest inductionHypothesis =>
      obtain ⟨middle, stepped, later⟩ :=
        run?_cons_eq_some_iff.mp ran
      obtain ⟨middleSpec, matched, middleRelated⟩ :=
        simulation.matched related permitted.1 stepped
      obtain ⟨finalSpec, laterSpec, finalRelated⟩ :=
        inductionHypothesis middleRelated
          (permitted.2 middle stepped) later
      refine ⟨finalSpec, ?_, finalRelated⟩
      simp only [trace, stepped]
      exact run?_append_eq_some_iff.mpr
        ⟨middleSpec, matched, laterSpec⟩

end StepFunction

end Foundation
