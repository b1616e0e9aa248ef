import Mathlib.Logic.Function.Basic
import RocmCli.Support.Runs

namespace RocmCli
namespace Programs

/-!
# Programs that share a world

A program performs operations one at a time and goes on with the answer.  Any
number of programs run over one world, interleaved at every operation, among
events that belong to no program.

What holds of all runs is proved program by program.  A `Contract` fixes what
every step keeps of the world and what each program may rely on between its own
operations; `Keeps` says that a program does its part from a given world on,
whatever the others do, and follows the text of the program.
-/

inductive Program {Op : Type} (Answer : Op -> Type) (R : Type) where
  | done (result : R)
  | perform (op : Op) (next : Answer op -> Program Answer R)

section Program

variable {Op : Type} {Answer : Op -> Type} {R S : Type}

def Program.bind : Program Answer R -> (R -> Program Answer S) -> Program Answer S
  | done result, rest => rest result
  | perform op next, rest => perform op fun answer => (next answer).bind rest

instance : Monad (Program Answer) where
  pure := Program.done
  bind := Program.bind

/-- The program that performs one operation. -/
abbrev perform (op : Op) : Program Answer (Answer op) := .perform op .done

end Program

/-- What programs are run on.  Where an operation has several outcomes, a choice
selects one; `none` is an outcome that cannot come. -/
structure Machine {Op : Type} (Answer : Op -> Type) where
  World : Type
  Command : Type
  Event : Type
  Choice : Type
  body : Nat -> Command -> Program Answer Unit
  starts : World -> Nat -> Command -> Option World
  happens : World -> Event -> Option World
  performs : World -> Nat -> Choice -> (op : Op) -> Option (Answer op × World)

variable {Op : Type} {Answer : Op -> Type}

namespace Machine

variable (machine : Machine Answer)

/-- The world and the program of each process. -/
structure State where
  world : machine.World
  programs : Nat -> Option (Program Answer Unit)

inductive Action where
  | start (who : Nat) (command : machine.Command)
  | act (who : Nat) (choice : machine.Choice)
  | happen (event : machine.Event)

/-- Nothing runs yet. -/
def idle (world : machine.World) : machine.State := ⟨world, fun _ => none⟩

/-- An action that cannot be taken changes nothing. -/
def step (state : machine.State) : machine.Action -> machine.State
  | .start who command =>
    match state.programs who, machine.starts state.world who command with
    | none, some after =>
        ⟨after, Function.update state.programs who (some (machine.body who command))⟩
    | _, _ => state
  | .act who choice =>
    match state.programs who with
    | some (.perform op next) =>
      match machine.performs state.world who choice op with
      | some (answer, after) =>
          ⟨after, Function.update state.programs who (some (next answer))⟩
      | none => state
    | _ => state
  | .happen event =>
    match machine.happens state.world event with
    | some after => { state with world := after }
    | none => state

/-- The world at the end of a run. -/
def worldAfter (world : machine.World) (actions : List machine.Action) : machine.World :=
  (Runs.finalState machine.step (machine.idle world) actions).world

end Machine

/-! ## Conditions -/

/-- When operations, starts and events are allowed. -/
structure Conditions (machine : Machine Answer) where
  allowed : machine.World -> Nat -> Op -> Prop
  mayStart : machine.World -> Nat -> machine.Command -> Prop
  mayHappen : machine.World -> machine.Event -> Prop

/-- The action is allowed in the state. -/
def Conditions.Obeys {machine : Machine Answer} (conditions : Conditions machine)
    (state : machine.State) : machine.Action -> Prop
  | .start who command => conditions.mayStart state.world who command
  | .act who _ =>
    match state.programs who with
    | some (.perform op _) => conditions.allowed state.world who op
    | _ => True
  | .happen event => conditions.mayHappen state.world event

instance Conditions.decidableObeys {machine : Machine Answer} (conditions : Conditions machine)
    [forall world who op, Decidable (conditions.allowed world who op)]
    [forall world who command, Decidable (conditions.mayStart world who command)]
    [forall world event, Decidable (conditions.mayHappen world event)]
    (state : machine.State) (action : machine.Action) :
    Decidable (conditions.Obeys state action) :=
  match action with
  | .start who command => inferInstanceAs (Decidable (conditions.mayStart state.world who command))
  | .happen event => inferInstanceAs (Decidable (conditions.mayHappen state.world event))
  | .act who _ =>
    match running : state.programs who with
    | some (.perform op _) =>
        decidable_of_iff (conditions.allowed state.world who op) (by simp [Conditions.Obeys, running])
    | some (.done _) | none => isTrue (by simp [Conditions.Obeys, running])

/-! ## Contracts -/

/-- What every step keeps, what a program may rely on while the others act, and
the conditions it is all proved under. -/
structure Contract (machine : Machine Answer) extends Conditions machine where
  invariant : machine.World -> Prop
  rely : Nat -> machine.World -> machine.World -> Prop
  rely_refl : forall who world, rely who world world
  rely_trans : forall who first second third,
    rely who first second -> rely who second third -> rely who first third

namespace Contract

variable {machine : Machine Answer} (contract : Contract machine)

/-- A step of a process is one the others may rely on. -/
def Spares (who : Nat) (before after : machine.World) : Prop :=
  forall other, other ≠ who -> contract.rely other before after

/-- From a world on, a program keeps the invariant with each of its allowed
operations, and ends where `post` holds. -/
def Keeps (who : Nat) {R : Type} (post : R -> machine.World -> Prop) :
    machine.World -> Program Answer R -> Prop
  | world, .done result => post result world
  | world, .perform op next =>
      forall now choice answer after, contract.rely who world now -> contract.invariant now ->
        contract.allowed now who op -> machine.performs now who choice op = some (answer, after) ->
        contract.invariant after ∧ contract.Spares who now after ∧
          Keeps who post after (next answer)

variable {contract} {who : Nat} {R S : Type}

variable {post : R -> machine.World -> Prop} {world : machine.World} {program : Program Answer R}

theorem Keeps.mono {wider : R -> machine.World -> Prop}
    (keeps : contract.Keeps who post world program)
    (weaker : forall result ending, post result ending -> wider result ending) :
    contract.Keeps who wider world program := by
  induction program generalizing world with
  | done result => exact weaker result world keeps
  | perform op next ih =>
      intro now choice answer after relied holds allowed performed
      rcases keeps now choice answer after relied holds allowed performed with
        ⟨still, spared, rest⟩
      exact ⟨still, spared, ih answer rest⟩

/-- One program after another. -/
theorem Keeps.bind {post : S -> machine.World -> Prop} {rest : R -> Program Answer S}
    (keeps : contract.Keeps who (fun result ending => contract.Keeps who post ending (rest result))
      world program) :
    contract.Keeps who post world (program >>= rest) := by
  induction program generalizing world with
  | done result => exact keeps
  | perform op next ih =>
      intro now choice answer after relied holds allowed performed
      rcases keeps now choice answer after relied holds allowed performed with
        ⟨still, spared, later⟩
      exact ⟨still, spared, ih answer later⟩

/-- A subprogram by its own specification, then the rest. -/
theorem Keeps.andThen {middle : R -> machine.World -> Prop} {post : S -> machine.World -> Prop}
    {rest : R -> Program Answer S} (first : contract.Keeps who middle world program)
    (second : forall result ending, middle result ending ->
      contract.Keeps who post ending (rest result)) :
    contract.Keeps who post world (program >>= rest) :=
  Keeps.bind (first.mono second)

/-- One operation, then the rest. -/
theorem Keeps.performing {op : Op} {rest : Answer op -> Program Answer R}
    (keeps : forall now choice answer after, contract.rely who world now ->
      contract.invariant now -> contract.allowed now who op ->
      machine.performs now who choice op = some (answer, after) ->
      contract.invariant after ∧ contract.Spares who now after ∧
        contract.Keeps who post after (rest answer)) :
    contract.Keeps who post world (perform op >>= rest) :=
  keeps

/-- What holds at a world holds later, as far as the program may rely on it. -/
theorem Keeps.later {now : machine.World} (keeps : contract.Keeps who post world program)
    (relied : contract.rely who world now)
    (stable : forall result, post result world -> post result now) :
    contract.Keeps who post now program := by
  cases program with
  | done result => exact stable result keeps
  | perform op next =>
      intro later choice answer after further holds allowed performed
      exact keeps later choice answer after
        (contract.rely_trans who world now later relied further) holds allowed performed

/-- A program does its part whenever it is run by a process. -/
abbrev Complies (contract : Contract machine) (who : Nat) (world : machine.World)
    (program : Program Answer Unit) : Prop :=
  contract.Keeps who (fun _ _ => True) world program

variable (contract)

/-- The commands and events of the machine keep to the contract. -/
structure Sound : Prop where
  starts : forall world who command after, contract.invariant world ->
    contract.mayStart world who command -> machine.starts world who command = some after ->
    contract.invariant after ∧ contract.Spares who world after ∧
      contract.Complies who after (machine.body who command)
  happens : forall world event after, contract.invariant world ->
    contract.mayHappen world event -> machine.happens world event = some after ->
    contract.invariant after ∧ forall who, contract.rely who world after

/-- The world and every running program are in order. -/
structure Orderly (state : machine.State) : Prop where
  holds : contract.invariant state.world
  complies : forall who program, state.programs who = some program ->
    contract.Complies who state.world program

variable {contract}

/-- After a step of one process the programs of the others comply as before. -/
theorem Orderly.update {state : machine.State} (orderly : contract.Orderly state) {who : Nat}
    {after : machine.World} {program : Program Answer Unit} (holds : contract.invariant after)
    (spared : contract.Spares who state.world after)
    (complies : contract.Complies who after program) :
    contract.Orderly
      (⟨after, Function.update state.programs who (some program)⟩ : machine.State) := by
  refine ⟨holds, ?_⟩
  intro other running listed
  by_cases same : other = who
  · subst same
    have isProgram : some program = some running :=
      (Function.update_self other (some program) state.programs).symm.trans listed
    cases isProgram
    exact complies
  · have before : state.programs other = some running :=
      (Function.update_of_ne same (some program) state.programs).symm.trans listed
    exact (orderly.complies other running before).later (spared other same) fun _ _ => trivial

theorem Sound.step (sound : contract.Sound) (state : machine.State) (action : machine.Action)
    (orderly : contract.Orderly state) (obeyed : contract.toConditions.Obeys state action) :
    contract.Orderly (machine.step state action) := by
  cases action with
  | start who command =>
      dsimp only [Machine.step]
      split
      next after idle started =>
        rcases sound.starts state.world who command after orderly.holds obeyed started with
          ⟨holds, spared, complies⟩
        exact orderly.update holds spared complies
      · exact orderly
  | act who choice =>
      dsimp only [Machine.step]
      split
      next op next running =>
        split
        next answer after performed =>
          have allowed : contract.allowed state.world who op := by
            dsimp only [Conditions.Obeys] at obeyed
            rw [running] at obeyed
            exact obeyed
          rcases orderly.complies who _ running state.world choice answer after
              (contract.rely_refl who state.world) orderly.holds allowed
              performed with ⟨holds, spared, complies⟩
          exact orderly.update holds spared complies
        · exact orderly
      · exact orderly
  | happen event =>
      dsimp only [Machine.step]
      split
      next after happened =>
        rcases sound.happens state.world event after orderly.holds obeyed happened with
          ⟨holds, relied⟩
        refine ⟨holds, ?_⟩
        intro who program running
        exact (orderly.complies who program running).later (relied who) fun _ _ => trivial
      · exact orderly

/-- The invariant holds at the end of every run that obeys a sound contract. -/
theorem Sound.invariant_worldAfter (sound : contract.Sound) (holds : contract.invariant world)
    {actions : List machine.Action}
    (obeyed : Runs.Guarded machine.step contract.toConditions.Obeys (machine.idle world) actions) :
    contract.invariant (machine.worldAfter world actions) := by
  have orderly : contract.Orderly (machine.idle world) := ⟨holds, nofun⟩
  exact (Runs.invariant_of_step (fun state action kept allowed => sound.step state action kept
    allowed) orderly obeyed).holds

end Contract

end Programs
end RocmCli
