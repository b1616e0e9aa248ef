namespace RocmCli
namespace Runs

/-!
# Runs of a state machine

A machine is a step function on states and actions.  What its steps preserve,
its runs preserve, and what its steps bring about has a step that did; the
rules here are the only inductions over runs that the models need.  A guard
collects what is assumed of each action at the state it is taken in.
-/

open scoped List

variable {State : Type u} {Action : Type v} {Item : Type w}

/-- The state a sequence of actions ends in. -/
def finalState (step : State -> Action -> State) (start : State) (actions : List Action) :
    State :=
  actions.foldl step start

/-- Every action is taken in a state where the guard allows it. -/
def Guarded (step : State -> Action -> State) (guard : State -> Action -> Prop) :
    State -> List Action -> Prop
  | _, [] => True
  | state, action :: rest =>
      guard state action ∧ Guarded step guard (step state action) rest

variable {step : State -> Action -> State} {guard : State -> Action -> Prop}

def Guarded.decidable [forall state action, Decidable (guard state action)] :
    (start : State) -> (actions : List Action) -> Decidable (Guarded step guard start actions)
  | _, [] => .isTrue trivial
  | start, action :: rest =>
      let _ : Decidable (Guarded step guard (step start action) rest) :=
        decidable (step start action) rest
      inferInstanceAs (Decidable (guard start action ∧ Guarded step guard (step start action) rest))

instance [forall state action, Decidable (guard state action)] (start : State)
    (actions : List Action) : Decidable (Guarded step guard start actions) :=
  Guarded.decidable start actions

theorem finalState_append (start : State) (first second : List Action) :
    finalState step start (first ++ second) =
      finalState step (finalState step start first) second :=
  List.foldl_append

theorem guarded_append (start : State) (first second : List Action) :
    Guarded step guard start (first ++ second) ↔
      Guarded step guard start first ∧
        Guarded step guard (finalState step start first) second := by
  induction first generalizing start with
  | nil => simp [Guarded, finalState]
  | cons action rest ih =>
      rw [List.cons_append, Guarded, Guarded, ih, and_assoc]
      rfl

variable {invariant : State -> Prop} {start : State} {actions : List Action}

section

variable (preserved : forall state action, invariant state -> guard state action ->
  invariant (step state action))
include preserved

/-- What every guarded step preserves holds at the end of every guarded run. -/
theorem invariant_of_step (holds : invariant start) (allowed : Guarded step guard start actions) :
    invariant (finalState step start actions) := by
  induction actions generalizing start with
  | nil => exact holds
  | cons action rest ih =>
      exact ih (preserved start action holds allowed.1) allowed.2

/-- What a step shows where the invariant holds, every step of a guarded run shows. -/
theorem guarded_of_step {shown : State -> Action -> Prop}
    (shows : forall state action, invariant state -> guard state action -> shown state action)
    (holds : invariant start) (allowed : Guarded step guard start actions) :
    Guarded step shown start actions := by
  induction actions generalizing start with
  | nil => trivial
  | cons action rest ih =>
      exact ⟨shows start action holds allowed.1,
        ih (preserved start action holds allowed.1) allowed.2⟩

end

/-- What every step preserves holds at the end of every run. -/
theorem invariant_of_every_step
    (preserved : forall state action, invariant state -> invariant (step state action))
    (holds : invariant start) (actions : List Action) :
    invariant (finalState step start actions) := by
  induction actions generalizing start with
  | nil => exact holds
  | cons action rest ih =>
      exact ih (preserved start action holds)

/-- A preorder that every guarded step respects relates the two ends of every
guarded run. -/
theorem relation_of_step (related : State -> State -> Prop)
    (preserved : forall state action, invariant state -> guard state action ->
      invariant (step state action)) (refl : forall state, invariant state -> related state state)
    (trans : forall first second third, related first second -> related second third ->
      related first third)
    (respected : forall state action, invariant state -> guard state action ->
      related state (step state action)) (holds : invariant start)
    (allowed : Guarded step guard start actions) :
    related start (finalState step start actions) := by
  induction actions generalizing start with
  | nil => exact refl start holds
  | cons action rest ih =>
      have later := ih (preserved start action holds allowed.1) allowed.2
      exact trans _ _ _ (respected start action holds allowed.1) later

/-- Where every step of one machine shows in the steps of another, its runs do. -/
theorem finalState_shown {Spec : Type w} {specStep : Spec -> Action -> Spec}
    (shown : Spec -> State) {invariant : Spec -> Prop}
    (preserved : forall spec action, invariant spec -> invariant (specStep spec action))
    (shows : forall spec action, invariant spec ->
      step (shown spec) action = shown (specStep spec action))
    {start : Spec} (holds : invariant start) (actions : List Action) :
    finalState step (shown start) actions = shown (finalState specStep start actions) := by
  induction actions generalizing start with
  | nil => rfl
  | cons action rest ih =>
    have next := ih (preserved start action holds)
    rw [← shows start action holds] at next
    exact next

/-! ## What a run brings in and what it takes out -/

/-- What is seen of the actions of a run, each in the state it was taken in. -/
def collected (step : State -> Action -> State) (seen : State -> Action -> Option Item) :
    State -> List Action -> List Item
  | _, [] => []
  | state, action :: rest =>
      (seen state action).toList ++ collected step seen (step state action) rest

theorem collected_none (start : State) (actions : List Action) :
    collected step (fun _ _ => (none : Option Item)) start actions = [] := by
  induction actions generalizing start with
  | nil => rfl
  | cons action rest ih => exact ih (step start action)

/-- Where every guarded step keeps the balance, a run does: what was held and
what came in is what went out and what is held. -/
theorem balance_of_step {held : State -> List Item} {gained spent : State -> Action -> Option Item}
    (preserved : forall state action, invariant state -> guard state action ->
      invariant (step state action))
    (balanced : forall state action, invariant state -> guard state action ->
      (held state ++ (gained state action).toList).Perm
        ((spent state action).toList ++ held (step state action))) (holds : invariant start)
    (allowed : Guarded step guard start actions) :
    (held start ++ collected step gained start actions).Perm
      (collected step spent start actions ++ held (finalState step start actions)) := by
  induction actions generalizing start with
  | nil => simp [collected, finalState]
  | cons action rest ih =>
      have first := balanced start action holds allowed.1
      have later := ih (preserved start action holds allowed.1) allowed.2
      calc held start ++ ((gained start action).toList ++ collected step gained (step start action) rest)
          = (held start ++ (gained start action).toList) ++
              collected step gained (step start action) rest := (List.append_assoc ..).symm
        _ ~ ((spent start action).toList ++ held (step start action)) ++
              collected step gained (step start action) rest := first.append_right _
        _ = (spent start action).toList ++ (held (step start action) ++
              collected step gained (step start action) rest) := List.append_assoc ..
        _ ~ (spent start action).toList ++ (collected step spent (step start action) rest ++
              held (finalState step (step start action) rest)) := later.append_left _
        _ = _ := (List.append_assoc ..).symm

end Runs
end RocmCli
