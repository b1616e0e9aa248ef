import Mathlib.Logic.Function.Basic
import RocmCli.Automation.Config
import RocmCli.Support.Runs

namespace RocmCli
namespace Automation

/-!
# The automation daemon and its autostart

Commands that may need the daemon start it; the daemon exits by itself once no
watcher is enabled.  Both decide under one lock file.  A command step is one
read or write of the config, of the runtime state, of the autostart claim or of
the lock; a daemon step is one turn of its loop, split where it takes the lock.

The clock is the world's own, so the age of a claim is what has passed since it
was written.  Process ids are not reused.
-/

abbrev ProcessId := Nat

abbrev CommandId := Nat

def autostartClaimTtlMs : Nat := 30000

structure AutostartClaim where
  daemonPid : ProcessId
  spawnedAtMs : Nat
  deriving DecidableEq

/-- What the autostart reads of the daemon's runtime state. -/
structure AutomationRuntimeState where
  running : Bool
  daemonPid : ProcessId
  deriving DecidableEq

/-- The holder of the autostart lock. -/
inductive LockHolder where
  | command (command : CommandId)
  | daemon (daemon : ProcessId)
  deriving DecidableEq

inductive CommandKind where
  | enable (watcher : String) (mode : Option WatcherMode)
  | disable (watcher : String)
  | serve
  deriving DecidableEq

/-- Where a command stands; `readConfig` to `unlock` are
`ensure_background_helper_running_with`. -/
inductive CommandPhase where
  | saveConfig
  | readConfig
  | awaitLock
  | readState
  | readClaim
  | spawn
  | writeClaim (daemon : ProcessId)
  | unlock
  | returned
  | unknownWatcher
  deriving DecidableEq

/-- Where a daemon stands.  A loop with an exit attempt waits for the lock. -/
inductive DaemonPhase where
  | unborn
  | starting (since : Nat)
  | looping (exitAttempt : Bool)
  | evaluating (exitAttempt : Bool)
  | confirming
  | releasing
  | publishingStop
  | unlocking
  | ending
  | gone
  deriving DecidableEq

/-- The process exists. -/
def DaemonPhase.alive : DaemonPhase -> Bool
  | .unborn | .gone => false
  | _ => true

/-- The daemon has published itself and has not decided to exit. -/
def DaemonPhase.serving : DaemonPhase -> Bool
  | .looping _ | .evaluating _ | .confirming => true
  | _ => false

def DaemonPhase.isStarting : DaemonPhase -> Bool
  | .starting _ => true
  | _ => false

/-- The daemon is alive and has not decided to exit. -/
def DaemonPhase.undecided (phase : DaemonPhase) : Bool :=
  phase.isStarting || phase.serving

/-- `standing` is history: an enable whose config is saved and whose watcher
has not been disabled since. -/
structure World where
  now : Nat
  config : AutomationsConfig
  runtimeState : Option AutomationRuntimeState
  claim : Option AutostartClaim
  lock : Option LockHolder
  commands : CommandId -> Option (CommandKind × CommandPhase)
  daemons : ProcessId -> DaemonPhase
  spawned : ProcessId
  standing : CommandId -> Bool

def initial (config : AutomationsConfig) : World where
  now := 0
  config := config
  runtimeState := none
  claim := none
  lock := none
  commands := fun _ => none
  daemons := fun _ => .unborn
  spawned := 0
  standing := fun _ => false

inductive DaemonEvent where
  | proceed
  | keepWriting
  | tick
  | webhook
  | lockFree
  | lockTimeout

inductive Action where
  | begin (command : CommandId) (kind : CommandKind)
  | advance (command : CommandId)
  | daemon (daemon : ProcessId) (event : DaemonEvent)
  | pass (ms : Nat)

namespace World

def setCommand (world : World) (command : CommandId) (kind : CommandKind)
    (phase : CommandPhase) : World :=
  { world with commands := Function.update world.commands command (some (kind, phase)) }

def setDaemon (world : World) (daemon : ProcessId) (phase : DaemonPhase) : World :=
  { world with daemons := Function.update world.daemons daemon phase }

def processIsRunning (world : World) (pid : ProcessId) : Bool :=
  (world.daemons pid).alive

def backgroundHelperAlreadyRunning (world : World) : Bool :=
  match world.runtimeState with
  | some state => state.running && world.processIsRunning state.daemonPid
  | none => false

def autostartSpawnInFlight (world : World) : Bool :=
  match world.claim with
  | some claim =>
      decide (world.now - claim.spawnedAtMs < autostartClaimTtlMs) &&
        world.processIsRunning claim.daemonPid
  | none => false

end World

/-! ## Commands -/

/-- A disable of a watcher ends the standing of its enables. -/
def standingAfterDisable (world : World) (watcher : String) (command : CommandId) : Bool :=
  match world.commands command with
  | some (.enable enabled _, _) => world.standing command && !(enabled == watcher)
  | _ => world.standing command

/-- `config.save` of `automations enable` and `disable`. -/
def saveConfig (world : World) (command : CommandId) : CommandKind -> World
  | .enable watcher mode =>
    match builtinWatcher watcher with
    | none => world.setCommand command (.enable watcher mode) .unknownWatcher
    | some spec =>
        { world with
          config := world.config.enable spec mode
          standing := Function.update world.standing command true }.setCommand
            command (.enable watcher mode) .readConfig
  | .disable watcher =>
    match builtinWatcher watcher with
    | none => world.setCommand command (.disable watcher) .unknownWatcher
    | some spec =>
        { world with
          config := world.config.disable spec
          standing := standingAfterDisable world watcher }.setCommand
            command (.disable watcher) .returned
  | .serve => world

/-- One step of a command. -/
def advance (world : World) (command : CommandId) : World :=
  match world.commands command with
  | none => world
  | some (kind, phase) =>
    match phase with
    | .saveConfig => saveConfig world command kind
    | .readConfig =>
        world.setCommand command kind
          (if world.config.automationDaemonEnabled then .awaitLock else .returned)
    | .awaitLock =>
        if world.lock = none then
          { world with lock := some (.command command) }.setCommand command kind .readState
        else world
    | .readState =>
        world.setCommand command kind
          (if world.backgroundHelperAlreadyRunning then .unlock else .readClaim)
    | .readClaim =>
        world.setCommand command kind
          (if world.autostartSpawnInFlight then .unlock else .spawn)
    | .spawn =>
        ({ world with spawned := world.spawned + 1 }.setDaemon world.spawned
          (.starting world.now)).setCommand command kind (.writeClaim world.spawned)
    | .writeClaim daemon =>
        { world with claim := some ⟨daemon, world.now⟩ }.setCommand command kind .unlock
    | .unlock => { world with lock := none }.setCommand command kind .returned
    | .returned | .unknownWatcher => world

/-- A `serve` runs the autostart only; the other commands save the config first. -/
def begin (world : World) (command : CommandId) (kind : CommandKind) : World :=
  match world.commands command with
  | some _ => world
  | none =>
    match kind with
    | .serve => world.setCommand command .serve .readConfig
    | kind => world.setCommand command kind .saveConfig

/-! ## The daemon -/

/-- `state.write` of a daemon. -/
def publish (world : World) (daemon : ProcessId) (running : Bool) : World :=
  { world with runtimeState := some ⟨running, daemon⟩ }

/-- `release_own_autostart_claim` -/
def releaseOwnAutostartClaim (world : World) (daemon : ProcessId) : World :=
  if world.claim.any (fun claim => claim.daemonPid == daemon) then { world with claim := none }
  else world

/-- One step of a daemon.  A tick that finds no watcher enabled begins an exit
attempt or leaves the pending one; one that finds work abandons it. -/
def daemonStep (world : World) (daemon : ProcessId) (event : DaemonEvent) : World :=
  match world.daemons daemon, event with
  | .starting _, .proceed => (publish world daemon true).setDaemon daemon (.evaluating false)
  | .evaluating _, .keepWriting => publish world daemon true
  | .evaluating attempt, .proceed =>
      (publish world daemon true).setDaemon daemon (.looping attempt)
  | .looping _, .tick =>
      world.setDaemon daemon
        (if world.config.automationDaemonEnabled then .evaluating false else .looping true)
  | .looping attempt, .webhook => world.setDaemon daemon (.evaluating attempt)
  | .looping true, .lockTimeout => world.setDaemon daemon (.looping false)
  | .looping true, .lockFree =>
      if world.lock = none then
        { world with lock := some (.daemon daemon) }.setDaemon daemon .confirming
      else world
  | .confirming, .proceed =>
      if world.config.automationDaemonEnabled then
        { world with lock := none }.setDaemon daemon (.looping false)
      else world.setDaemon daemon .releasing
  | .releasing, .proceed =>
      (releaseOwnAutostartClaim world daemon).setDaemon daemon .publishingStop
  | .publishingStop, .proceed => (publish world daemon false).setDaemon daemon .unlocking
  | .unlocking, .proceed => { world with lock := none }.setDaemon daemon .ending
  | .ending, .proceed => world.setDaemon daemon .gone
  | _, _ => world

def step (world : World) : Action -> World
  | .begin command kind => begin world command kind
  | .advance command => advance world command
  | .daemon daemon event => daemonStep world daemon event
  | .pass ms => { world with now := world.now + ms }

/-! ## What is assumed of a step -/

/-- No daemon takes as long as a claim lives to publish itself. -/
def StartsInTime (world : World) : Action -> Prop
  | .pass ms => forall daemon since, world.daemons daemon = .starting since ->
      world.now + ms - since < autostartClaimTtlMs
  | _ => True

/-- A claim that names a daemon which has published itself and has not decided
to exit is read within its lifetime. -/
def ReadsClaimInTime (world : World) : Action -> Prop
  | .advance command => forall kind claim,
      world.commands command = some (kind, .readClaim) -> world.claim = some claim ->
      (world.daemons claim.daemonPid).serving = true ->
      world.now - claim.spawnedAtMs < autostartClaimTtlMs
  | _ => True

end Automation
end RocmCli
