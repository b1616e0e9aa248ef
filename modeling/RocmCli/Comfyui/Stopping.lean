import RocmCli.Paths.Spelling
import RocmCli.Support.Processes
import RocmCli.Support.Runs

namespace RocmCli
namespace Comfyui

open Processes Paths Runs

/-!
# Stopping ComfyUI on Linux

The saved state names a process by its PID alone.  A stop takes its steps one at a
time, and between them processes are born, exit and give their PIDs back, and ports
begin and cease to answer.
-/

/-- The saved state, with the process that it was written for. -/
structure ComfyUiState where
  pid : Nat
  port : Nat
  sourcePath : PathText
  process : Nat
deriving DecidableEq

inductive ComfyUiRunState where
  | running
  | starting
  | stopped
deriving DecidableEq

structure ComfyUiRunReport where
  state : ComfyUiRunState
  processRunning : Bool
  endpointReachable : Bool

/-- Where a stop stands: the state is loaded, the process tree is to be ended, the
signal is to be sent, it was refused, so many looks are left, the file is to go. -/
inductive StopPhase where
  | idle
  | loaded (state : ComfyUiState)
  | terminating (state : ComfyUiState)
  | killing (state : ComfyUiState)
  | refused (state : ComfyUiState)
  | waiting (state : ComfyUiState) (looks : Nat)
  | removing (state : ComfyUiState)

def StopPhase.state : StopPhase -> Option ComfyUiState
  | idle => none
  | loaded state | terminating state | killing state | refused state | waiting state _
  | removing state => some state

/-- The machine, the ports that answer, the saved state, all the states that were
saved, and the stop that is underway. -/
structure World where
  machine : Machine
  answers : Nat -> Bool
  saved : Option ComfyUiState
  started : List ComfyUiState
  stop : StopPhase

def World.initial : World := ⟨Machine.empty, fun _ => false, none, [], .idle⟩

/-! ## The commands -/

/-- What `kill -0` says; a process that was not reaped is there. -/
def unixProcessIsRunning (machine : Machine) (pid : Nat) : Bool := (machine.reached pid).isSome

def processIsRunning (machine : Machine) (pid : Nat) : Bool :=
  if pid = 0 then false else unixProcessIsRunning machine pid

def evaluateRunningState (world : World) (state : ComfyUiState) : ComfyUiRunReport :=
  let processRunning := processIsRunning world.machine state.pid
  let endpointReachable := world.answers state.port
  { state := if endpointReachable then .running else if processRunning then .starting else .stopped
    processRunning := processRunning
    endpointReachable := endpointReachable }

def start (world : World) (pid port : Nat) (sourcePath : PathText) : World :=
  if pid = 0 ∨ world.machine.owner pid ≠ none then world
  else
    let state : ComfyUiState := ⟨pid, port, sourcePath, world.machine.births⟩
    { world with
      machine := world.machine.birth pid world.machine.births true
      saved := some state
      started := state :: world.started }

def runningFrom (world : World) (sourcePath : PathText) : Option ComfyUiState :=
  world.saved.filter fun state =>
    runtimePathsEquivalentOn .linux .slash state.sourcePath sourcePath &&
      (evaluateRunningState world state).state != .stopped

/-- A reinstall of the folder goes on. -/
def refuseWhileRunning (world : World) (sourcePath : PathText) : Except ComfyUiState Unit :=
  match runningFrom world sourcePath with
  | some state => .error state
  | none => .ok ()

inductive StopResult where
  | stopped
  | failed
deriving DecidableEq

/-- How often a stop looks whether the process is gone. -/
def stopLooks : Nat := 20

/-- One step of a stop, with its result where it returns. -/
def stopStep (world : World) : World × Option StopResult :=
  match world.stop with
  | .idle =>
      match world.saved with
      | none => (world, some .stopped)
      | some state => ({ world with stop := .loaded state }, none)
  | .loaded state =>
      if (evaluateRunningState world state).processRunning then
        ({ world with stop := .terminating state }, none)
      else ({ world with stop := .removing state }, none)
  | .terminating state =>
      if processIsRunning world.machine state.pid then
        ({ world with stop := .killing state }, none)
      else ({ world with stop := .waiting state stopLooks }, none)
  | .killing state =>
      if (world.machine.reached state.pid).isSome then
        ({ world with stop := .waiting state stopLooks }, none)
      else ({ world with stop := .refused state }, none)
  | .refused state =>
      if processIsRunning world.machine state.pid then
        ({ world with stop := .idle }, some .failed)
      else ({ world with stop := .waiting state stopLooks }, none)
  | .waiting state 0 => ({ world with stop := .removing state }, none)
  | .waiting state (looks + 1) =>
      if processIsRunning world.machine state.pid then
        ({ world with stop := .waiting state looks }, none)
      else ({ world with stop := .removing state }, none)
  | .removing _ => ({ world with saved := none, stop := .idle }, some .stopped)

/-- The process that the step of a stop sends its signal to. -/
def signalled (world : World) : Option Nat :=
  match world.stop with
  | .killing state => world.machine.reached state.pid
  | _ => none

inductive Action where
  | other (pid : Nat) (sameUser : Bool)
  | fork (parent pid : Nat) (sameUser : Bool)
  | exit (process : Nat)
  | reap (pid : Nat)
  | listen (port : Nat) (answers : Bool)
  | start (pid port : Nat) (sourcePath : PathText)
  | reinstall (sourcePath : PathText)
  | stop

def step (world : World) : Action -> World
  | .other pid sameUser =>
      { world with machine := world.machine.birth pid world.machine.births sameUser }
  | .fork parent pid sameUser => { world with machine := world.machine.fork parent pid sameUser }
  | .exit process => { world with machine := world.machine.exit process }
  | .reap pid => { world with machine := world.machine.reap pid }
  | .listen port answers => { world with answers := Function.update world.answers port answers }
  | .start pid port sourcePath => start world pid port sourcePath
  | .reinstall _ => world
  | .stop => (stopStep world).1

/-! ## What a stop promises -/

/-- The step of a stop signals only the family of the process it is about, and where
it says that ComfyUI is stopped, no process that was started runs. -/
structure Honest (world : World) : Prop where
  signal : forall process, signalled world = some process ->
    exists state, state ∈ world.started ∧ world.stop = .killing state ∧
      world.machine.family process = state.process
  stopped : (stopStep world).2 = some .stopped ->
    forall state, state ∈ world.started -> world.machine.running state.process = false
  removed : world.saved ≠ none -> (stopStep world).1.saved = none ->
    (stopStep world).2 = some .stopped

def Truthful (world : World) : Action -> Prop
  | .stop => Honest world
  | .reinstall sourcePath => forall state, state ∈ world.started ->
      world.machine.running state.process = true ->
      runtimePathsEquivalentOn .linux .slash state.sourcePath sourcePath = true ->
      refuseWhileRunning world sourcePath ≠ .ok ()
  | action => world.saved ≠ none -> (step world action).saved ≠ none

/-- The PID is with another process of the same user. -/
def Recycled (world : World) (state : ComfyUiState) : Prop :=
  exists process, world.machine.reached state.pid = some process ∧
    world.machine.family process ≠ state.process

/-- No ComfyUI is started while another one runs or is being stopped; the PID has not
gone to another process when the signal is sent; the process is gone when the looks
are used up. -/
def Allowed (world : World) : Action -> Prop
  | .start _ _ _ => world.stop.state = none ∧
      forall state, state ∈ world.started -> world.machine.running state.process = false
  | .stop =>
      match world.stop with
      | .killing state => ¬ Recycled world state
      | .waiting state 0 => world.machine.running state.process = false
      | _ => True
  | _ => True

/-! ## What the steps keep -/

structure Invariant (world : World) : Prop where
  has : forall state, state ∈ world.started -> world.machine.Has state.process state.pid
  saved : forall state, state ∈ world.started -> world.machine.running state.process = true ->
    world.saved = some state
  listed : forall state, world.saved = some state -> state ∈ world.started
  underway : forall state, world.stop.state = some state -> world.saved = some state
  gone : forall state, world.stop = .removing state -> world.machine.running state.process = false

variable {world : World} {state : ComfyUiState}

section

variable (invariant : Invariant world)
include invariant

theorem Invariant.isRunning (listed : state ∈ world.started)
    (runs : world.machine.running state.process = true) :
    processIsRunning world.machine state.pid = true := by
  have has := invariant.has state listed
  rw [processIsRunning, if_neg has.numbered, unixProcessIsRunning, has.reached runs]
  rfl

/-- A process that is not seen does not run. -/
theorem Invariant.exited (underway : world.stop.state = some state)
    (unseen : processIsRunning world.machine state.pid ≠ true) :
    world.machine.running state.process = false := by
  have listed := invariant.listed state (invariant.underway state underway)
  rw [← Bool.not_eq_true]
  exact fun runs => unseen (invariant.isRunning listed runs)

/-- What another machine has to keep. -/
theorem invariant_machine (machine : Machine)
    (kept : forall process pid, world.machine.Has process pid -> machine.Has process pid ∧
      (machine.running process = true -> world.machine.running process = true)) :
    Invariant { world with machine := machine } where
  has state listed := (kept _ _ (invariant.has state listed)).1
  saved state listed runs :=
    invariant.saved state listed ((kept _ _ (invariant.has state listed)).2 runs)
  listed := invariant.listed
  underway := invariant.underway
  gone state removing := by
    have underway : world.stop.state = some state := congrArg StopPhase.state removing
    have listed := invariant.listed state (invariant.underway state underway)
    have exited := invariant.gone state removing
    rw [← Bool.not_eq_true] at exited ⊢
    exact fun runs => exited ((kept _ _ (invariant.has state listed)).2 runs)

/-- A step of a stop that goes on to a phase about the same state. -/
theorem invariant_phase (underway : world.saved = some state) {phase : StopPhase}
    (same : phase.state = some state)
    (gone : phase = .removing state -> world.machine.running state.process = false) :
    Invariant { world with stop := phase } where
  has := invariant.has
  saved := invariant.saved
  listed := invariant.listed
  underway other isOther := underway.trans (same.symm.trans isOther)
  gone other removing := by
    have isOther := same.symm.trans (congrArg StopPhase.state removing)
    rcases Option.some.inj isOther with rfl
    exact gone removing

theorem invariant_idle : Invariant { world with stop := .idle } :=
  ⟨invariant.has, invariant.saved, invariant.listed, nofun,
    nofun⟩

theorem invariant_stop (allowed : Allowed world .stop) : Invariant (stopStep world).1 := by
  have underway := invariant.underway
  unfold stopStep
  cases phase : world.stop with
  | idle =>
      dsimp only
      cases saved : world.saved with
      | none => exact invariant
      | some state =>
          have next := invariant_phase invariant saved (rfl : (StopPhase.loaded state).state = _)
            nofun
          rwa [saved] at next
  | loaded state =>
      have loaded : world.stop.state = some state := by rw [phase, StopPhase.state]
      dsimp only
      split
      · exact invariant_phase invariant (underway _ loaded) rfl nofun
      · next unseen =>
          exact invariant_phase invariant (underway _ loaded) rfl fun _ =>
            invariant.exited loaded unseen
  | terminating state =>
      have loaded : world.stop.state = some state := by rw [phase, StopPhase.state]
      dsimp only
      split <;> exact invariant_phase invariant (underway _ loaded) rfl nofun
  | killing state =>
      have loaded : world.stop.state = some state := by rw [phase, StopPhase.state]
      dsimp only
      split <;> exact invariant_phase invariant (underway _ loaded) rfl nofun
  | refused state =>
      have loaded : world.stop.state = some state := by rw [phase, StopPhase.state]
      dsimp only
      split
      · exact invariant_idle invariant
      · exact invariant_phase invariant (underway _ loaded) rfl nofun
  | waiting state looks =>
      have loaded : world.stop.state = some state := by rw [phase, StopPhase.state]
      cases looks with
      | zero =>
          rw [Allowed, phase] at allowed
          exact invariant_phase invariant (underway _ loaded) rfl fun _ => allowed
      | succ looks =>
          dsimp only
          split
          · exact invariant_phase invariant (underway _ loaded) rfl nofun
          · next unseen =>
              exact invariant_phase invariant (underway _ loaded) rfl fun _ =>
                invariant.exited loaded unseen
  | removing state =>
      have loaded : world.saved = some state := underway _ (by rw [phase, StopPhase.state])
      have exited := invariant.gone state phase
      refine ⟨invariant.has, fun other listed runs => ?_, nofun,
        nofun, nofun⟩
      have same := loaded.symm.trans (invariant.saved other listed runs)
      rw [Option.some.inj same, runs] at exited
      exact nomatch exited

theorem invariant_start (pid port : Nat) (sourcePath : PathText)
    (allowed : Allowed world (.start pid port sourcePath)) :
    Invariant (start world pid port sourcePath) := by
  rcases allowed with ⟨noStop, noneRuns⟩
  unfold start
  split
  · exact invariant
  · next free =>
      rw [not_or, not_not] at free
      have kept := fun state listed =>
        Machine.birth_keeps (invariant.has state listed) pid world.machine.births true
      refine ⟨fun state listed => ?_, fun state listed runs => ?_, fun state isSaved => ?_,
        fun state underway => ?_, fun state removing => ?_⟩
      · rcases List.mem_cons.mp listed with rfl | before
        · exact Machine.birth_has free.2 free.1
        · exact (kept state before).1
      · rcases List.mem_cons.mp listed with rfl | before
        · rfl
        · exact nomatch (noneRuns state before).symm.trans ((kept state before).2.symm.trans runs)
      · exact Option.some.inj isSaved ▸ List.mem_cons_self
      · exact nomatch noStop.symm.trans underway
      · exact nomatch noStop.symm.trans (congrArg StopPhase.state removing)

end

theorem invariant_step (world : World) (action : Action) (invariant : Invariant world)
    (allowed : Allowed world action) : Invariant (step world action) := by
  cases action with
  | other pid sameUser =>
      exact invariant_machine invariant _ fun _ _ has =>
        ⟨(Machine.birth_keeps has ..).1, fun runs => (Machine.birth_keeps has ..).2.symm.trans runs⟩
  | fork parent pid sameUser =>
      refine invariant_machine invariant _ fun _ _ has => ?_
      unfold Machine.fork
      split
      · exact ⟨(Machine.birth_keeps has ..).1,
          fun runs => (Machine.birth_keeps has ..).2.symm.trans runs⟩
      · exact ⟨has, id⟩
  | exit process => exact invariant_machine invariant _ fun _ _ has => Machine.exit_keeps has process
  | reap pid =>
      exact invariant_machine invariant _ fun _ _ has =>
        ⟨(Machine.reap_keeps has pid).1, fun runs => (Machine.reap_keeps has pid).2.symm.trans runs⟩
  | listen port answers =>
      exact ⟨invariant.has, invariant.saved, invariant.listed, invariant.underway, invariant.gone⟩
  | start pid port sourcePath => exact invariant_start invariant pid port sourcePath allowed
  | reinstall sourcePath => exact invariant
  | stop => exact invariant_stop invariant allowed

/-! ## Every step is truthful -/

theorem invariant_initial : Invariant World.initial :=
  ⟨nofun, nofun,
    nofun, nofun, nofun⟩

theorem honest_step (invariant : Invariant world) (allowed : Allowed world .stop) :
    Honest world where
  signal process isSignalled := by
    unfold signalled at isSignalled
    split at isSignalled
    · next state phase =>
        have underway := invariant.underway state (congrArg StopPhase.state phase)
        refine ⟨state, invariant.listed state underway, phase, ?_⟩
        rw [Allowed, phase] at allowed
        by_contra other
        exact allowed ⟨process, isSignalled, other⟩
    · exact nomatch isSignalled
  stopped result state listed := by
    rw [← Bool.not_eq_true]
    intro runs
    have saved := invariant.saved state listed runs
    unfold stopStep at result
    split at result
    · rw [saved] at result
      exact nomatch result
    · split at result <;> exact nomatch result
    · split at result <;> exact nomatch result
    · split at result <;> exact nomatch result
    · split at result <;> exact nomatch result
    · exact nomatch result
    · split at result <;> exact nomatch result
    · next last phase =>
        have same := (invariant.underway last (congrArg StopPhase.state phase)).symm.trans saved
        exact nomatch ((Option.some.inj same ▸ invariant.gone last phase).symm.trans runs)
  removed there removed := by
    unfold stopStep at removed ⊢
    split at removed
    · split at removed
      · next none_ => exact absurd none_ there
      · exact absurd removed there
    · split at removed <;> exact absurd removed there
    · split at removed <;> exact absurd removed there
    · split at removed <;> exact absurd removed there
    · split at removed <;> exact absurd removed there
    · exact absurd removed there
    · split at removed <;> exact absurd removed there
    · rfl

theorem refused_reinstall (invariant : Invariant world) (listed : state ∈ world.started)
    (runs : world.machine.running state.process = true) {sourcePath : PathText}
    (same : runtimePathsEquivalentOn .linux .slash state.sourcePath sourcePath = true) :
    refuseWhileRunning world sourcePath = .error state := by
  have seen : (evaluateRunningState world state).state ≠ .stopped := by
    unfold evaluateRunningState
    rw [invariant.isRunning listed runs]
    dsimp only
    split <;> simp
  have found : runningFrom world sourcePath = some state := by
    rw [runningFrom, invariant.saved state listed runs, Option.filter_some, if_pos]
    simpa [same] using seen
  rw [refuseWhileRunning, found]

theorem truthful_step (world : World) (action : Action) (invariant : Invariant world)
    (allowed : Allowed world action) : Truthful world action := by
  cases action with
  | stop => exact honest_step invariant allowed
  | reinstall sourcePath =>
      intro state listed runs same
      rw [refused_reinstall invariant listed runs same]
      exact nofun
  | start pid port sourcePath =>
      intro there
      change (start world pid port sourcePath).saved ≠ none
      unfold start
      split
      · exact there
      · exact nofun
  | other pid sameUser => exact id
  | fork parent pid sameUser => exact id
  | exit process => exact id
  | reap pid => exact id
  | listen port answers => exact id

/-- In a run whose steps all meet the condition, a stop signals only what was started,
says that it stopped only what has exited, and a reinstall is refused until then. -/
theorem stop_truthful {actions : List Action}
    (allowed : Guarded step Allowed World.initial actions) :
    Guarded step Truthful World.initial actions :=
  guarded_of_step invariant_step truthful_step invariant_initial allowed

/-- A stop whose process exits, and gives its PID back, while it is looked for. -/
def orderlyRun : List Action :=
  [.start 7 8188 "/opt/comfyui".toList, .other 8 true, .fork 0 9 true, .listen 8188 true,
    .reinstall "/opt/comfyui/".toList, .stop, .stop, .stop, .stop, .stop, .exit 0, .stop, .reap 7,
    .stop, .stop, .reinstall "/opt/comfyui".toList]

theorem orderlyRun_truthful : Guarded step Truthful World.initial orderlyRun := by
  refine stop_truthful ⟨⟨rfl, nofun⟩, trivial, trivial, trivial, trivial,
    trivial, trivial, trivial, ?_, trivial, trivial, trivial, trivial, trivial, trivial, trivial,
    trivial⟩
  rintro ⟨process, reached, other⟩
  have same : process = 0 := Option.some.inj (reached.symm.trans rfl)
  subst same
  exact other rfl

/-! ## Runs in which a stop strays -/

/-- ComfyUI exits by itself and its PID goes to another process. -/
def recycledRun : List Action :=
  [.start 7 8188 "/opt/comfyui".toList, .exit 0, .reap 7, .other 7 true, .stop, .stop, .stop]

/-- ComfyUI runs on until all the looks are used up. -/
def ignoredRun : List Action :=
  .start 7 8188 "/opt/comfyui".toList :: List.replicate 25 .stop

theorem stop_strays : ¬ Guarded step Truthful World.initial (recycledRun ++ [Action.stop]) ∧
    ¬ Guarded step Truthful World.initial (ignoredRun ++ [Action.stop]) := by
  refine ⟨fun guarded => ?_, fun guarded => ?_⟩
  · have last : Honest (finalState step World.initial recycledRun) :=
      ((guarded_append ..).mp guarded).2.1
    rcases last.signal 1 rfl with ⟨state, listed, _, family⟩
    rcases List.mem_singleton.mp listed with rfl
    exact absurd family (by decide)
  · have last : Honest (finalState step World.initial ignoredRun) :=
      ((guarded_append ..).mp guarded).2.1
    exact absurd (last.stopped rfl _ List.mem_cons_self) (by decide)

end Comfyui
end RocmCli
