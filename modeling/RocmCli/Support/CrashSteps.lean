import Mathlib.Data.List.Basic

namespace RocmCli
namespace Crash

/-!
# Programs that can be stopped between their steps

A program is the list of the states it passes through from a given one, the
last of which it ends in.  Stopping it after some number of steps leaves one of
them, or the state it started in.  What a program keeps up is a condition that
holds at every state on the way, besides the one it ends with.
-/

/-- The states a program passes through; the one it starts in is not listed. -/
abbrev Program (State : Type u) := State -> List State

namespace Program

variable {State : Type u} {Item : Type v}

def last (program : Program State) (start : State) : State := (program start).getLastD start

def skip : Program State := fun _ => []

def step (change : State -> State) : Program State := fun start => [change start]

def seq (first second : Program State) : Program State :=
  fun start => first start ++ second (first.last start)

def forEach (body : Item -> Program State) : List Item -> Program State
  | [] => skip
  | item :: rest => seq (body item) (forEach body rest)

/-- The state that is left after so many steps, or at the end if there are
fewer. -/
def stoppedAfter (program : Program State) (steps : Nat) (start : State) : State :=
  ((program start).take steps).getLastD start

/-- From a state that satisfies `pre`, every state on the way satisfies
`during`, and the one the program ends in satisfies `post`. -/
structure Keeps (pre during post : State -> Prop) (program : Program State) : Prop where
  passes : forall start, pre start -> forall state, state ∈ program start -> during state
  ends : forall start, pre start -> post (program.last start)

/-! ## Where programs end -/

theorem last_seq (first second : Program State) (start : State) :
    (seq first second).last start = second.last (first.last start) := by
  have ends : forall front back : List State,
      (front ++ back).getLastD start = back.getLastD (front.getLastD start) := by
    intro front back
    rcases back with _ | ⟨state, rest⟩
    · rw [List.append_nil]
      rfl
    · rw [List.getLastD_eq_getLast?, List.getLastD_eq_getLast?, List.getLast?_append_cons,
        List.getLast?_eq_some_getLast (List.cons_ne_nil state rest)]
      rfl
  exact ends (first start) (second (first.last start))

theorem mem_seq {first second : Program State} {start state : State} :
    state ∈ seq first second start ↔ state ∈ first start ∨ state ∈ second (first.last start) :=
  List.mem_append

/-- Where a program ends it has been, unless it does nothing. -/
theorem last_mem_or_nil (program : Program State) (start : State) :
    program.last start ∈ program start ∨ program.last start = start := by
  unfold last
  rcases program start with _ | ⟨state, rest⟩
  · exact Or.inr rfl
  · left
    rw [List.getLastD_cons]
    exact List.getLastD_mem_cons

theorem stoppedAfter_mem (program : Program State) (steps : Nat) (start : State) :
    program.stoppedAfter steps start = start ∨
      program.stoppedAfter steps start ∈ program start := by
  unfold stoppedAfter
  rcases taken : (program start).take steps with _ | ⟨state, rest⟩
  · exact Or.inl rfl
  · right
    rw [List.getLastD_cons]
    have member : rest.getLastD state ∈ state :: rest := List.getLastD_mem_cons
    rw [← taken] at member
    exact List.mem_of_mem_take member

/-! ## Rules -/

variable {pre middle during post : State -> Prop}

theorem keeps_skip (implied : forall state, pre state -> post state) :
    Keeps pre during post (skip : Program State) where
  passes _ _ _ member := absurd member List.not_mem_nil
  ends start holds := implied start holds

theorem keeps_step {change : State -> State}
    (passes : forall state, pre state -> during (change state))
    (ends : forall state, pre state -> post (change state)) :
    Keeps pre during post (step change) where
  passes start holds _ member := List.mem_singleton.mp member ▸ passes start holds
  ends start holds := ends start holds

theorem keeps_seq {first second : Program State} (left : Keeps pre during middle first)
    (right : Keeps middle during post second) : Keeps pre during post (seq first second) where
  passes := by
    intro start holds state member
    rcases mem_seq.mp member with early | late
    · exact left.passes start holds state early
    · exact right.passes _ (left.ends start holds) state late
  ends := by
    intro start holds
    rw [last_seq]
    exact right.ends _ (left.ends start holds)

/-- A loop, with an invariant that speaks of the items still to come. -/
theorem keeps_forEach {body : Item -> Program State} (invariant : List Item -> State -> Prop)
    (items : List Item)
    (step : forall done item rest, items = done ++ item :: rest ->
      Keeps (invariant (item :: rest)) during (invariant rest) (body item)) :
    Keeps (invariant items) during (invariant []) (forEach body items) := by
  induction items with
  | nil => exact keeps_skip fun _ holds => holds
  | cons item rest ih =>
      have first := step [] item rest rfl
      have later := ih fun done next more split =>
        step (item :: done) next more (by rw [split, List.cons_append])
      exact keeps_seq first later

theorem Keeps.consequence {program : Program State} {pre' during' post' : State -> Prop}
    (keeps : Keeps pre during post program) (stronger : forall state, pre' state -> pre state)
    (passes : forall state, during state -> during' state)
    (weaker : forall state, post state -> post' state) : Keeps pre' during' post' program where
  passes start holds state member := passes state (keeps.passes start (stronger start holds) state member)
  ends start holds := weaker _ (keeps.ends start (stronger start holds))

end Program

end Crash
end RocmCli
