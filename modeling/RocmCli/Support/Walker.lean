import Mathlib.Data.List.Basic

namespace RocmCli

/-!
# Walkers

A walker takes something off the front of its input at every step and says what
it was.  Its tokens are what the steps say, each with what they left; they
divide at every place in the input that no step runs across.
-/

/-- A step that takes at least one item, and fails on nothing else than the end. -/
structure Walker (α β : Type) where
  step : List α -> Option (β × List α)
  step_nil : step [] = none
  step_cons : forall first input, exists token rest, step (first :: input) = some (token, rest)
  consumes : forall input token rest, step input = some (token, rest) ->
    exists eaten, eaten ≠ [] ∧ input = eaten ++ rest

namespace Walker

variable {α β : Type} (walker : Walker α β)

variable {input : List α}

theorem rest_shorter {rest : List α} {token : β} (steps : walker.step input = some (token, rest)) :
    rest.length < input.length := by
  rcases walker.consumes input token rest steps with ⟨eaten, nonempty, rfl⟩
  rw [List.length_append]
  exact Nat.lt_add_of_pos_left (List.length_pos_iff.mpr nonempty)

/-- What every step says, with what it left. -/
def tokens (input : List α) : List (β × List α) :=
  match steps : walker.step input with
  | none => []
  | some (token, rest) => (token, rest) :: tokens rest
termination_by input.length
decreasing_by exact walker.rest_shorter steps

theorem tokens_step {rest : List α} {token : β} (steps : walker.step input = some (token, rest)) :
    walker.tokens input = (token, rest) :: walker.tokens rest := by
  rw [tokens]
  split
  · rename_i stops
    rw [steps] at stops
    cases stops
  · rename_i token' rest' steps'
    rw [steps] at steps'
    cases steps'
    rfl

theorem tokens_nil : walker.tokens [] = [] := by
  rw [tokens]
  split
  · rfl
  · rename_i steps
    rw [walker.step_nil] at steps
    cases steps

/-- The input from which some number of steps is left to do. -/
inductive Reaches : List α -> List α -> Prop where
  | here (input : List α) : Reaches input input
  | step {input rest later : List α} {token : β}
      (steps : walker.step input = some (token, rest)) (reaches : Reaches rest later) :
      Reaches input later

variable {walker}

/-- Every token is that of a step from an end of the input. -/
theorem tokens_from : forall token, token ∈ walker.tokens input ->
    exists here, here <:+ input ∧ walker.step here = some token := by
  induction size : input.length using Nat.strongRecOn generalizing input with
  | ind size' ih =>
    subst size
    intro token isToken
    cases input with
    | nil =>
      rw [walker.tokens_nil] at isToken
      cases isToken
    | cons first input =>
      rcases walker.step_cons first input with ⟨token', rest, steps⟩
      rw [walker.tokens_step steps] at isToken
      rcases List.mem_cons.mp isToken with rfl | later
      · exact ⟨_, List.suffix_rfl, steps⟩
      · rcases ih _ (walker.rest_shorter steps) rfl token later with
          ⟨here, inside, steps'⟩
        rcases walker.consumes _ _ _ steps with ⟨eaten, _, whole⟩
        exact ⟨here, inside.trans ⟨eaten, whole.symm⟩, steps'⟩

theorem tokens_rest {token : β × List α} (isToken : token ∈ walker.tokens input) :
    token.2.length < input.length := by
  rcases tokens_from token isToken with ⟨here, inside, steps⟩
  exact Nat.lt_of_lt_of_le (walker.rest_shorter steps) inside.length_le

/-- The tokens divide at a place that no step runs across. -/
theorem tokens_divide {place : List α} (inside : place <:+ input)
    (held : forall here token rest, walker.Reaches input here ->
      walker.step here = some (token, rest) -> place <:+ here -> here ≠ place -> place <:+ rest) :
    exists front, walker.tokens input = front ++ walker.tokens place ∧
      forall token, token ∈ front -> place <:+ token.2 := by
  induction size : input.length using Nat.strongRecOn generalizing input with
  | ind size' ih =>
    subst size
    by_cases arrived : input = place
    · subst arrived
      exact ⟨[], rfl, fun _ never => absurd never List.not_mem_nil⟩
    · cases input with
      | nil => exact absurd (List.suffix_nil.mp inside).symm arrived
      | cons first input =>
        rcases walker.step_cons first input with ⟨token, rest, steps⟩
        have inside' := held _ token rest (.here _) steps inside arrived
        rcases ih _ (walker.rest_shorter steps) inside'
          (fun here token rest reaches => held here token rest (.step steps reaches)) rfl with
          ⟨front, divided, before⟩
        refine ⟨(token, rest) :: front, ?_, ?_⟩
        · rw [walker.tokens_step steps, divided]
          rfl
        · intro token' isToken
          rcases List.mem_cons.mp isToken with rfl | later
          · exact inside'
          · exact before token' later

end Walker
end RocmCli
