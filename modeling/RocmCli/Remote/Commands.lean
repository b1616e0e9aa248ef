import RocmCli.Remote.Publishing

namespace RocmCli
namespace Remote

/-!
# Serving on another machine

A session is filed on this machine under a name made of the peer and the port,
in two files: a key and a record.  `serve` takes the name by creating the key,
starts the model, publishes its port and writes the record; `stop` withdraws
the port, stops the model and deletes both files; `attach` publishes again.

Each command is a row of phases, one for each file operation or remote call
that it makes, so that commands can run at the same time.  What the file
system, the network and the remote machine make of a phase is its outcome.
-/

abbrev SessionId := Line

/-! ## Sessions -/

def trimDashes (host : Line) : Line :=
  ((host.dropWhile (· == '-')).reverse.dropWhile (· == '-')).reverse

/-- The name of a session: the peer and the port, and nothing else. -/
def idFor (peerHost : Line) (remotePort : Nat) : SessionId :=
  let host := peerHost.map fun character =>
    if character.isAlphanum || character == '-' then character.toLower else '-'
  "remote-".toList ++ trimDashes host ++ '-' :: Nat.toDigits 10 remotePort

structure ServeRequest where
  target : Line
  peerHost : Line
  remotePort : Nat
  tailnetPort : Nat
  deriving DecidableEq, Repr

def ServeRequest.sessionId (request : ServeRequest) : SessionId :=
  idFor request.peerHost request.remotePort

/-- A session record, as far as a command reads it.  The time it was created
at stands as the run that created it. -/
structure SessionRecord where
  sessionId : SessionId
  target : Line
  peerHost : Line
  remoteServiceId : Line
  remotePort : Nat
  tailnetPort : Nat
  createdBy : RunId
  deriving DecidableEq, Repr

/-- What a command could not undo. -/
inductive Leftover where
  | endpoint (port : Nat) (failure : PublishFailure)
  | model (service : Line)
  | keyKept (session : SessionId)
  deriving DecidableEq, Repr

/-- Why a command failed, apart from what it left behind. -/
inductive Failure where
  | sessionRecorded
  | keyLeft
  | notReady
  | nameAlreadyHeld
  | keyNotSaved
  | registryNotRead
  | lostContact
  | notStarted
  | modelUntracked
  | notPublished (failure : PublishFailure)
  | notRecorded
  | noSession
  | serverNotHealthy
  | notWithdrawn (failure : PublishFailure)
  | modelNotStopped
  deriving DecidableEq, Repr

structure CommandError where
  failure : Failure
  leftovers : List Leftover
  deriving DecidableEq, Repr

/-! ## The remote machine -/

/-- A service in the machine's registry.  The key it was started with is the
one that a run minted. -/
structure Service where
  serviceId : Line
  port : Nat
  createdAt : Nat
  live : Bool
  startedWith : Option RunId
  deriving DecidableEq, Repr

structure RemoteMachine where
  config : ServeConfig
  services : List Service

/-- The ids of the services that are live on a port. -/
def liveServiceIdsOnPort (services : List Service) (port : Nat) : List Line :=
  (services.filter fun service => service.live && service.port == port).map (·.serviceId)

/-- The newest service of a port; the last of several that are equally new. -/
def newestOnPort (services : List Service) (port : Nat) : Option Service :=
  (services.filter fun service => service.port == port).foldl (fun newest service =>
    match newest with
    | none => some service
    | some kept => if kept.createdAt ≤ service.createdAt then some service else some kept) none

/-- What the machine's own programs do: its Tailscale daemon, and its `rocm`,
which starts a model on a port for a run, under an id and at a time of its
choosing, and stops a service.  Stopping a service leaves the forwards alone. -/
structure Peer extends TailscaleDaemon where
  startModel : RemoteMachine -> (port : Nat) -> RunId -> (chosen : Line × Nat) -> RemoteMachine
  stopService : RemoteMachine -> (serviceId : Line) -> RemoteMachine
  stopService_config : forall machine serviceId,
    (stopService machine serviceId).config = machine.config

/-! ## Phases -/

inductive ServePhase where
  | lookForRecord
  | lookForKey
  /-- Something is there: the record is looked for once more. -/
  | lookAgain
  | prepare
  | claim
  | storeKey
  | listBefore
  | start (before : List Line)
  | discover (before : List Line)
  | publish (stage : Stage) (service : Line)
  | stageRecord (service : Line)
  | renameRecord (service : Line)
  | unwindEndpoint (stage : Stage) (service : Line)
  | unwindModel (service : Line) (failure : Failure) (leftovers : List Leftover)
  | clearKey (failure : Failure)
  | ended (result : Except CommandError Unit)
  deriving Repr

/-- The phases of a `stop` keep the record it read, and how many sessions had
been started under that name by then. -/
inductive StopPhase where
  | resolve
  | withdraw (stage : Stage) (record : SessionRecord) (startedBefore : Nat)
  | stopModel (record : SessionRecord) (startedBefore : Nat)
      (withdrawn : Except PublishFailure Unit)
  | clearKey (record : SessionRecord) (startedBefore : Nat)
  | removeRecord (record : SessionRecord) (startedBefore : Nat)
  | ended (result : Except CommandError Unit)
  deriving Repr

inductive AttachPhase where
  | resolve
  | observeServer (record : SessionRecord)
  | observePublish (record : SessionRecord) (healthy : Bool)
  | publish (stage : Stage) (record : SessionRecord)
  | ended (result : Except CommandError Unit)
  deriving Repr

inductive RunState where
  | idle
  | serve (request : ServeRequest) (phase : ServePhase)
  | stop (force : Bool) (phase : StopPhase)
  | attach (phase : AttachPhase)
  deriving Repr

/-- The session files of this machine, the remote machines and the runs.  The
key on disk is the one that a run minted. -/
structure World where
  keys : SessionId -> Option RunId
  records : SessionId -> Option SessionRecord
  machines : Line -> RemoteMachine
  runs : RunId -> RunState
  /-- How many sessions were started under a name so far. -/
  started : SessionId -> Nat

/-- What a phase meets: how its remote call came back, whether the call took
effect or the file operation worked, and what was chosen elsewhere. -/
structure Outcome where
  contact : Contact
  acts : Bool
  /-- The session that a needle resolves to. -/
  session : SessionId
  /-- The id and the time of a service that is started. -/
  service : Line × Nat

namespace World

def setRun (world : World) (run : RunId) (state : RunState) : World :=
  { world with runs := Function.update world.runs run state }

def setKey (world : World) (session : SessionId) (key : Option RunId) : World :=
  { world with keys := Function.update world.keys session key }

def setRecord (world : World) (session : SessionId) (record : Option SessionRecord) : World :=
  { world with records := Function.update world.records session record }

def setMachine (world : World) (peerHost : Line) (machine : RemoteMachine) : World :=
  { world with machines := Function.update world.machines peerHost machine }

def setConfig (world : World) (peerHost : Line) (config : ServeConfig) : World :=
  world.setMachine peerHost { world.machines peerHost with config := config }

/-- The name is taken: one more session was started under it. -/
def countStart (world : World) (session : SessionId) : World :=
  { world with started := Function.update world.started session (world.started session + 1) }

end World

def succeeded : Contact -> Bool
  | .garbled | .answered => true
  | .lost | .refused => false

def failWith (failure : Failure) : Except CommandError Unit := .error ⟨failure, []⟩

section Steps

variable (peer : Peer)

/-! ## `serve` -/

/-- The record a serve writes. -/
def ServeRequest.record (request : ServeRequest) (run : RunId) (service : Line) : SessionRecord where
  sessionId := request.sessionId
  target := request.target
  peerHost := request.peerHost
  remoteServiceId := service
  remotePort := request.remotePort
  tailnetPort := request.tailnetPort
  createdBy := run

/-- What follows the stop of a model that is being unwound. -/
def afterUnwinding (request : ServeRequest) (failure : Failure) (leftovers : List Leftover) :
    ServePhase :=
  if leftovers.isEmpty then .clearKey failure
  else .ended (.error ⟨failure, leftovers ++ [Leftover.keyKept request.sessionId]⟩)

def serveStep (world : World) (run : RunId) (request : ServeRequest) (outcome : Outcome) :
    ServePhase -> World × ServePhase
  | .lookForRecord =>
      (world, if (world.records request.sessionId).isSome then .lookAgain else .lookForKey)
  | .lookForKey =>
      (world, if (world.keys request.sessionId).isSome then .lookAgain else .prepare)
  | .lookAgain =>
      (world, if (world.records request.sessionId).isSome then .ended (failWith .sessionRecorded)
        else .ended (failWith .keyLeft))
  | .prepare => (world, if outcome.acts then .claim else .ended (failWith .notReady))
  | .claim =>
      -- Created only if it is not there, in one operation.
      if (world.keys request.sessionId).isSome then (world, .ended (failWith .nameAlreadyHeld))
      else if outcome.acts then
        ((world.setKey request.sessionId (some run)).countStart request.sessionId, .storeKey)
      else (world, .ended (failWith .keyNotSaved))
  | .storeKey => (world, if outcome.acts then .listBefore else .ended (failWith .keyNotSaved))
  | .listBefore =>
      (world, match outcome.contact with
        | .answered => .start
            (liveServiceIdsOnPort (world.machines request.peerHost).services request.remotePort)
        | .lost | .refused | .garbled => .clearKey .registryNotRead)
  | .start before =>
      (if outcome.acts then
        world.setMachine request.peerHost
          (peer.startModel (world.machines request.peerHost) request.remotePort run outcome.service)
      else world,
        match outcome.contact with
        | .lost => .clearKey .lostContact
        | .refused => .clearKey .notStarted
        | .garbled | .answered => .discover before)
  | .discover before =>
      (world, match outcome.contact with
        | .answered =>
          match newestOnPort (world.machines request.peerHost).services request.remotePort with
          | none => .ended (failWith .modelUntracked)
          | some service =>
              if before.contains service.serviceId then .ended (failWith .modelUntracked)
              else .publish .check service.serviceId
        | .lost | .refused | .garbled => .ended (failWith .modelUntracked))
  | .publish stage service =>
      let (config, result) := publishStep peer.toTailscaleDaemon
        (world.machines request.peerHost).config request.tailnetPort request.remotePort run
        outcome.contact outcome.acts stage
      (world.setConfig request.peerHost config, match result with
        | .next stage => .publish stage service
        | .done => .stageRecord service
        | .failed failure => .unwindModel service (.notPublished failure) [])
  | .stageRecord service =>
      (world, if outcome.acts then .renameRecord service else .unwindEndpoint .check service)
  | .renameRecord service =>
      if outcome.acts then
        (world.setRecord request.sessionId (some (request.record run service)), .ended (.ok ()))
      else (world, .unwindEndpoint .check service)
  | .unwindEndpoint stage service =>
      let (config, result) := withdrawStep peer.toTailscaleDaemon
        (world.machines request.peerHost).config request.tailnetPort request.remotePort
        outcome.contact outcome.acts stage
      (world.setConfig request.peerHost config, match result with
        | .next stage => .unwindEndpoint stage service
        | .done => .unwindModel service .notRecorded []
        | .failed failure =>
            .unwindModel service .notRecorded [.endpoint request.tailnetPort failure])
  | .unwindModel service failure leftovers =>
      (if outcome.acts then
        world.setMachine request.peerHost
          (peer.stopService (world.machines request.peerHost) service)
      else world,
        afterUnwinding request failure
          (if succeeded outcome.contact then leftovers else leftovers ++ [Leftover.model service]))
  | .clearKey failure =>
      -- The deletion may fail, and nobody is told.
      (if outcome.acts then world.setKey request.sessionId none else world,
        .ended (failWith failure))
  | .ended result => (world, .ended result)

/-! ## `stop` and `attach` -/

def stopStep (world : World) (force : Bool) (outcome : Outcome) : StopPhase -> World × StopPhase
  | .resolve =>
      (world, match world.records outcome.session with
        | none => .ended (failWith .noSession)
        | some record => .withdraw .check record (world.started record.sessionId))
  | .withdraw stage record startedBefore =>
      let (config, result) := withdrawStep peer.toTailscaleDaemon
        (world.machines record.peerHost).config record.tailnetPort record.remotePort
        outcome.contact outcome.acts stage
      (world.setConfig record.peerHost config, match result with
        | .next stage => .withdraw stage record startedBefore
        | .done => .stopModel record startedBefore (.ok ())
        | .failed failure => .stopModel record startedBefore (.error failure))
  | .stopModel record startedBefore withdrawn =>
      (if outcome.acts then
        world.setMachine record.peerHost
          (peer.stopService (world.machines record.peerHost) record.remoteServiceId)
      else world,
        if force then .clearKey record startedBefore
        else
          match withdrawn with
          | .error failure => .ended (failWith (.notWithdrawn failure))
          | .ok () =>
              if succeeded outcome.contact then .clearKey record startedBefore
              else .ended (failWith .modelNotStopped))
  | .clearKey record startedBefore =>
      (if outcome.acts then world.setKey record.sessionId none else world,
        .removeRecord record startedBefore)
  | .removeRecord record _ =>
      (if outcome.acts then world.setRecord record.sessionId none else world, .ended (.ok ()))
  | .ended result => (world, .ended result)

/-- The machine's registry has the service, and it is up. -/
def serverHealthy (services : List Service) (serviceId : Line) : Bool :=
  match services.find? fun service => service.serviceId == serviceId with
  | none => false
  | some service => service.live

def attachStep (world : World) (run : RunId) (outcome : Outcome) :
    AttachPhase -> World × AttachPhase
  | .resolve =>
      (world, match world.records outcome.session with
        | none => .ended (failWith .noSession)
        | some record => .observeServer record)
  | .observeServer record =>
      (world, match outcome.contact with
        | .lost => .ended (failWith .serverNotHealthy)
        | .refused | .garbled => .observePublish record false
        | .answered => .observePublish record
            (serverHealthy (world.machines record.peerHost).services record.remoteServiceId))
  | .observePublish record healthy =>
      -- What this call reports is not used.
      (world, if healthy then .publish .check record else .ended (failWith .serverNotHealthy))
  | .publish stage record =>
      let (config, result) := publishStep peer.toTailscaleDaemon
        (world.machines record.peerHost).config record.tailnetPort record.remotePort run
        outcome.contact outcome.acts stage
      (world.setConfig record.peerHost config, match result with
        | .next stage => .publish stage record
        | .done => .ended (.ok ())
        | .failed failure => .ended (failWith (.notPublished failure)))
  | .ended result => (world, .ended result)

/-! ## Running commands -/

inductive Action where
  | beginServe (run : RunId) (request : ServeRequest)
  | beginStop (run : RunId) (force : Bool)
  | beginAttach (run : RunId)
  | advance (run : RunId) (outcome : Outcome)

/-- A run takes its next phase.  What is done by one command is not begun
again under its number. -/
def step (world : World) : Action -> World
  | .beginServe run request =>
      match world.runs run with
      | .idle => world.setRun run (.serve request .lookForRecord)
      | _ => world
  | .beginStop run force =>
      match world.runs run with
      | .idle => world.setRun run (.stop force .resolve)
      | _ => world
  | .beginAttach run =>
      match world.runs run with
      | .idle => world.setRun run (.attach .resolve)
      | _ => world
  | .advance run outcome =>
      match world.runs run with
      | .idle => world
      | .serve request phase =>
          let (world, phase) := serveStep peer world run request outcome phase
          world.setRun run (.serve request phase)
      | .stop force phase =>
          let (world, phase) := stopStep peer world force outcome phase
          world.setRun run (.stop force phase)
      | .attach phase =>
          let (world, phase) := attachStep peer world run outcome phase
          world.setRun run (.attach phase)

end Steps

/-- No session yet, whatever the machines hold. -/
def initial (machines : Line -> RemoteMachine) : World where
  keys := fun _ => none
  records := fun _ => none
  machines := machines
  runs := fun _ => .idle
  started := fun _ => 0

end Remote
end RocmCli
