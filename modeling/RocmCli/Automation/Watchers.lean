import RocmCli.Automation.Config
import RocmCli.Automation.Proposals
import RocmCli.Support.Json
import RocmCli.ToolPolicy.Values

namespace RocmCli
namespace Automation

open Text (trim)

/-!
# The watchers

The daemon collects events, or takes them from its webhook, and hands each to
the enabled watcher it is addressed to.  What a handler finds outside it is a
`View`: the services folder, the proposals store, the engines' answers.  Every
call of a handler has a view of its own, so nothing need stay as it was from
one call to the next.

Appends to the event, audit and proposal stores succeed, the services folder
can be listed and its files can be read.
-/

/-! ## Records -/

/-- What the watchers read of a managed service's record. -/
structure ManagedServiceRecord where
  serviceId : String
  engine : String
  modelRef : String
  canonicalModelId : String
  host : String
  port : Nat
  endpointUrl : String
  mode : String
  status : String
  requiresApiKey : Bool
  lastRestartUnixMs : Option Nat
  stopRequestedUnixMs : Option Nat
  createdAtUnixMs : Nat
  deriving DecidableEq

structure AutomationTriggerEvent where
  atUnixMs : Nat
  kind : String
  source : String
  watcherHint : Option String
  serviceId : Option String
  reason : Option String
  payload : Json

structure AutomationEventRecord where
  atUnixMs : Nat
  watcherId : String
  level : String
  action : String
  message : String
  serviceId : Option String

structure AuditEventRecord where
  atUnixMs : Nat
  source : String
  category : String
  actor : String
  level : String
  action : String
  message : String
  watcherId : Option String
  serviceId : Option String

structure WatcherRuntimeSnapshot where
  id : String
  enabled : Bool
  lastEvent : Option String
  lastEventUnixMs : Option Nat

/-! ## What a handler finds and does -/

/-- A file of the services folder, and its record if it parses. -/
structure ManifestFile where
  name : String
  record : Option ManagedServiceRecord

inductive SandboxToolArg where
  | checkUpdates
  | driverPlan
  | examineSnapshot
  | listServers
  | restartServer
  | stopServer
  | prefetchArtifact
  | notifyUser
  deriving DecidableEq

def SandboxToolArg.asCliValue : SandboxToolArg -> String
  | .checkUpdates => "check_updates"
  | .driverPlan => "driver_plan"
  | .examineSnapshot => "examine_snapshot"
  | .listServers => "list_servers"
  | .restartServer => "restart_server"
  | .stopServer => "stop_server"
  | .prefetchArtifact => "prefetch_artifact"
  | .notifyUser => "notify_user"

structure SandboxToolPolicy where
  allowArtifactDownload : Bool
  artifactMaxBytes : Option Nat
  allowHuggingfaceDownload : Bool
  huggingfaceToken : Option String
  deriving DecidableEq

def SandboxToolPolicy.default : SandboxToolPolicy where
  allowArtifactDownload := false
  artifactMaxBytes := none
  allowHuggingfaceDownload := false
  huggingfaceToken := none

/-- A reading that is over its limit, as the telemetry reports it. -/
structure GpuPressure where
  kind : String
  reason : String
  payload : Json

structure GpuSnapshot where
  amdSmiAvailable : Bool
  monitorAvailable : Bool
  note : Option String
  payload : Json
  pressures : List GpuPressure

/-- What is found outside the daemon at one time. -/
structure View where
  now : Nat
  services : List ManifestFile
  proposals : Except ErrorChain (List (AutomationProposalRecord Json))
  /-- The status an engine reports for a service. -/
  healthcheck : String -> String -> Except ErrorChain String
  portAnswers : String -> Nat -> Bool
  /-- A usable endpoint key is on file for the service. -/
  hasEndpointKey : String -> Bool
  restart : ManagedServiceRecord -> Except ErrorChain Unit
  artifactExists : String -> Except ErrorChain Bool
  runTool : SandboxToolArg -> SandboxToolPolicy -> Except ErrorChain Json
  gpuSnapshot : GpuSnapshot

/-- What a handler does outside the daemon.  An engine asked about a service may
note the answer in its own state file. -/
inductive Effect where
  | event (record : AutomationEventRecord)
  | audit (record : AuditEventRecord)
  | proposal (record : AutomationProposalRecord Json)
  | healthcheck (engine serviceId : String)
  | restart (record : ManagedServiceRecord)
  | stampRestart (serviceId : String) (now : Nat)
  | runTool (tool : SandboxToolArg) (policy : SandboxToolPolicy)

/-- The runtime state's watchers and what has been done so far. -/
structure Log where
  activeWatchers : List WatcherRuntimeSnapshot
  effects : List Effect

def Log.add (log : Log) (effect : Effect) : Log :=
  { log with effects := log.effects ++ [effect] }

/-- Notes an event on the first snapshot of a watcher. -/
def noteEvent (watcherId message : String) (now : Nat) :
    List WatcherRuntimeSnapshot -> List WatcherRuntimeSnapshot
  | [] => []
  | snapshot :: rest =>
      if snapshot.id = watcherId then
        { snapshot with lastEvent := some message, lastEventUnixMs := some now } :: rest
      else snapshot :: noteEvent watcherId message now rest

/-- `record_event` for a watcher. -/
def recordEvent (view : View) (watcherId level action message : String)
    (serviceId : Option String) (log : Log) : Log :=
  let noted := { log with activeWatchers := noteEvent watcherId message view.now log.activeWatchers }
  (noted.add (.event ⟨view.now, watcherId, level, action, message, serviceId⟩)).add
    (.audit ⟨view.now, "rocmd", "automation", "watcher:" ++ watcherId, level, action, message,
      some watcherId, serviceId⟩)

/-! ## Services -/

/-- The name has the extension `json`; a leading dot begins none. -/
def hasJsonExtension (name : String) : Bool :=
  name != ".json" && decide (".json".toList <:+ name.toList)

/-- The parsed records, newest first. -/
def loadManagedServices (view : View) : List ManagedServiceRecord :=
  ((view.services.filter fun file => hasJsonExtension file.name).filterMap
    ManifestFile.record).mergeSort
    (fun left right => decide (right.createdAtUnixMs ≤ left.createdAtUnixMs))

def loadServiceRecord (view : View) (serviceId : String) :
    Except ErrorChain ManagedServiceRecord :=
  match ToolPolicy.validateServiceId serviceId with
  | .error error =>
      .error (error.context ("invalid managed service id `" ++ serviceId ++ "`"))
  | .ok _ =>
    match view.services.find? (fun file => file.name == serviceId ++ ".json") with
    | none =>
        .error (ErrorChain.ofMessage ("No local server named `" ++ serviceId ++
          "`. See `rocm services list --all`."))
    | some file =>
      match file.record with
      | none => .error (ErrorChain.ofMessage ("failed to parse " ++ file.name))
      | some record =>
          if record.serviceId = serviceId then .ok record
          else .error (ErrorChain.ofMessage ("managed service manifest " ++ file.name ++
            " contains service_id `" ++ record.serviceId ++ "`, expected `" ++ serviceId ++ "`"))

/-! ## Policy and proposals -/

inductive WatcherPolicyAction where
  | observe
  | queueProposal
  | runContained
  deriving DecidableEq

def watcherPolicyAction : WatcherMode -> WatcherPolicyAction
  | .observe => .observe
  | .propose => .queueProposal
  | .contained => .runContained

def proposalToolForAction (action : String) : Option String :=
  [("queue_restart_proposal", "restart_server"), ("queue_stop_server_proposal", "stop_server"),
   ("queue_update_proposal", "check_updates"), ("queue_prefetch_proposal", "prefetch_artifact"),
   ("prepare_driver_plan", "driver_plan")].lookup action

def jsonText : Option String -> Json
  | some text => .string text
  | none => .null

def proposalArgumentsForAction (action : String) (serviceId : Option String) : Json :=
  if action = "queue_restart_proposal" ∨ action = "queue_stop_server_proposal" then
    .object [("service_id", jsonText serviceId)]
  else if action = "queue_update_proposal" ∨ action = "prepare_driver_plan" then .object []
  else .null

def queueProposalWithArguments (view : View) (watcherId action title message : String)
    (serviceId : Option String) (arguments : Json) (log : Log) : Log :=
  log.add (.proposal {
    atUnixMs := view.now
    proposalId := ""
    watcherId := watcherId
    action := action
    title := title
    message := message
    status := "pending"
    serviceId := serviceId
    tool := proposalToolForAction action
    arguments := arguments
    reviewedAtUnixMs := none })

def queueProposal (view : View) (watcherId action title message : String)
    (serviceId : Option String) (log : Log) : Log :=
  queueProposalWithArguments view watcherId action title message serviceId
    (proposalArgumentsForAction action serviceId) log

def pendingProposalExists (view : View) (watcherId serviceId action tool : String) :
    Except ErrorChain Bool :=
  view.proposals.map (fun proposals => proposals.any fun proposal =>
    proposal.status == "pending" && proposal.watcherId == watcherId &&
      proposal.serviceId == some serviceId &&
        (proposal.action == action || proposal.tool == some tool))

/-- A string of the payload, trimmed, unless it is blank. -/
def payloadString (payload : Json) (key : String) : Option String :=
  (((payload.get key).bind Json.asStr).map trim).filter (· ≠ "")

/-! ## The tools' answers -/

/-- A restricted tool's answer: status, update flag and exit status. -/
structure RestrictedResult where
  status : String
  updateAvailable : Bool
  exitStatus : Int

def asI64 : Json -> Option Int
  | .number (.unsigned value) => if value.toNat < 2 ^ 63 then some value.toNat else none
  | .number (.negative value) => some value.toInt
  | _ => none

/-- `restricted_check_updates_result` and `restricted_driver_plan_result`. -/
def restrictedResult (what defaultStatus : String) (tool : SandboxToolArg) (value : Json) :
    Except ErrorChain RestrictedResult :=
  match (value.get "tool").bind Json.asStr with
  | none => .error (ErrorChain.ofMessage (what ++ " did not report a tool name"))
  | some reported =>
      if reported = tool.asCliValue then
        let status := ((value.get "status").bind Json.asStr).getD defaultStatus
        .ok {
          status := status
          updateAvailable := ((value.get "update_available").bind Json.asBool).getD
            (status == "update_available" || status == "repair_available")
          exitStatus := ((value.get "exit_status").bind asI64).getD
            (if status = "error" then 1 else 0) }
      else .error (ErrorChain.ofMessage (what ++ " returned `" ++ reported ++ "`, expected `" ++
        tool.asCliValue ++ "`"))

def restrictedCheckUpdatesResult : Json -> Except ErrorChain RestrictedResult :=
  restrictedResult "restricted update check" "checked" .checkUpdates

def restrictedDriverPlanResult : Json -> Except ErrorChain RestrictedResult :=
  restrictedResult "restricted driver plan" "planned" .driverPlan

def updateCheckMessage (status : String) : String :=
  if status = "repair_available" then
    "ran read-only `rocm update`; a ROCm runtime repair is available because its package composition changed; no updates were applied"
  else if status = "update_available" then
    "ran read-only `rocm update`; a ROCm runtime update is available; no updates were applied"
  else if status = "error" then "read-only `rocm update` failed; no updates were applied"
  else "ran read-only `rocm update`; no updates were applied"

/-- The outermost message of an error. -/
def ErrorChain.top (error : ErrorChain) : String := error.messages.headD ""

/-! ## therock-update -/

def therockUpdateIntervalMs : Nat := 6 * 60 * 60 * 1000

def recordUpdateAvailableNotification (view : View) (status : String) (log : Log) : Log :=
  let message :=
    if status = "repair_available" then
      "A ROCm runtime repair is available because its package composition changed. Preview it before applying. No updates were applied."
    else
      "A ROCm runtime update is available. Preview it before applying. No updates were applied."
  (recordEvent view "therock-update" "info" "notify_if_newer" message none log).add
    (.audit ⟨view.now, "rocmd", "notification", "watcher:therock-update", "info",
      "notify_if_newer", message, some "therock-update", none⟩)

def handleTherockUpdateEvent (view : View) (mode : WatcherMode) (log : Log) : Log :=
  match watcherPolicyAction mode with
  | .observe =>
      recordEvent view "therock-update" "info" "observe_schedule"
        "scheduled TheRock update check reminder emitted; run `rocm update` to inspect the selected channel"
        none log
  | .queueProposal =>
      queueProposal view "therock-update" "queue_update_proposal" "Check TheRock updates"
        "Run `rocm update` to inspect available CLI, runtime, engine, and recipe updates before applying changes."
        none
        (recordEvent view "therock-update" "info" "queue_update_proposal"
          "scheduled TheRock update check reminder emitted; queueing read-only update-check proposal for review"
          none log)
  | .runContained =>
      let ran := log.add (.runTool .checkUpdates .default)
      match view.runTool .checkUpdates .default with
      | .ok output =>
        match restrictedCheckUpdatesResult output with
        | .ok result =>
            let recorded := recordEvent view "therock-update"
              (if result.exitStatus = 0 then "info" else "error") "run_update_check"
              ("scheduled TheRock update check is approved for contained read-only execution; restricted check_updates status=" ++
                result.status ++ "; " ++ updateCheckMessage result.status) none ran
            if result.updateAvailable then
              recordUpdateAvailableNotification view result.status recorded
            else recorded
        | .error error =>
            recordEvent view "therock-update" "error" "update_check_failed"
              ("scheduled TheRock update check failed during contained restricted execution: " ++
                ErrorChain.top error ++ "; no updates were applied") none ran
      | .error error =>
          recordEvent view "therock-update" "error" "update_check_failed"
            ("scheduled TheRock update check failed during contained read-only execution: " ++
              ErrorChain.top error ++ "; no updates were applied") none ran

/-! ## server-recover -/

def serverRecoverBackoffMs : Nat := 30000

def serverTransientStaleMs : Nat := 5 * 60 * 1000

def stopRequested (record : ManagedServiceRecord) : Bool := record.stopRequestedUnixMs.isSome

def endpointServiceRecoveryReason (view : View) (record : ManagedServiceRecord) :
    Option String :=
  if view.portAnswers record.host record.port then none else some "endpoint_status_unreachable"

def manifestServiceRecoveryReason (record : ManagedServiceRecord) (now : Nat) : Option String :=
  if ["failed", "exited", "unreachable"].contains record.status then
    some ("manifest_status_" ++ record.status)
  else if ["starting", "recovering"].contains record.status then
    let startedAt := record.lastRestartUnixMs.getD record.createdAtUnixMs
    if serverTransientStaleMs ≤ now - startedAt then
      some ("manifest_status_" ++ record.status ++ "_stale")
    else none
  else none

def healthcheckResponseRecoverable (status : String) : Bool :=
  ["failed", "unreachable", "exited"].contains status

def inBackoff (record : ManagedServiceRecord) (now : Nat) : Bool :=
  record.lastRestartUnixMs.any (fun last => decide (now - last < serverRecoverBackoffMs))

def serviceRecoveryEventKind (recoveryReason : String) : String :=
  if "healthcheck_status_".toList <+: recoveryReason.toList then "service.healthcheck_recoverable"
  else if "endpoint_status_".toList <+: recoveryReason.toList then "service.endpoint_recoverable"
  else "service.manifest_recoverable"

/-- Why a record is a candidate, as the scan decides it. -/
def recoverable (view : View) (record : ManagedServiceRecord) : Option String :=
  if record.mode ≠ "managed" ∨ stopRequested record = true then none
  else if inBackoff record view.now then none
  else
    match manifestServiceRecoveryReason record view.now with
    | some reason => some reason
    | none =>
      if ["ready", "running"].contains record.status then
        match view.healthcheck record.engine record.serviceId with
        | .error _ => endpointServiceRecoveryReason view record
        | .ok status =>
            if healthcheckResponseRecoverable status then some ("healthcheck_status_" ++ status)
            else endpointServiceRecoveryReason view record
      else none

def findRecoverableService (view : View) : Option (ManagedServiceRecord × String) :=
  (loadManagedServices view).findSome? fun record =>
    (recoverable view record).map fun reason => (record, reason)

/-- What deciding `serviceRecordMatchesRecoveryEvent` does. -/
def askEngine (record : ManagedServiceRecord) (event : AutomationTriggerEvent) (log : Log) : Log :=
  if stopRequested record = false ∧ event.kind = "service.healthcheck_recoverable" then
    log.add (.healthcheck record.engine record.serviceId)
  else log

def serviceRecordMatchesRecoveryEvent (view : View) (record : ManagedServiceRecord)
    (event : AutomationTriggerEvent) : Bool :=
  if stopRequested record then false
  else if event.kind = "service.manifest_recoverable" then
    (manifestServiceRecoveryReason record view.now).isSome
  else if event.kind = "service.endpoint_recoverable" then
    (endpointServiceRecoveryReason view record).isSome
  else if event.kind = "service.healthcheck_recoverable" then
    match view.healthcheck record.engine record.serviceId with
    | .ok status => healthcheckResponseRecoverable status
    | .error _ => false
  else false

/-- A text is dropped from the front as often as it stands there, which is at
most once a character. -/
def trimStartMatches (start : List Char) : Nat -> List Char -> List Char
  | 0, text => text
  | times + 1, text =>
      if start <+: text then trimStartMatches start times (text.drop start.length) else text

def displayRecoveryReason (reason : String) : String :=
  if reason = "manifest_status_failed" then "manifest reports failed"
  else if reason = "manifest_status_exited" then "manifest reports exited"
  else if reason = "manifest_status_unreachable" then "manifest reports unreachable"
  else if reason = "manifest_status_starting_stale" then "service has been starting for too long"
  else if reason = "manifest_status_recovering_stale" then
    "service has been recovering for too long"
  else if reason = "endpoint_status_unreachable" then "endpoint port is unreachable"
  else if "healthcheck_status_".toList <+: reason.toList then
    "engine healthcheck reports " ++ String.ofList
      (trimStartMatches "healthcheck_status_".toList reason.length reason.toList)
  else
    String.ofList (reason.toList.map fun character => if character = '_' then ' ' else character)

/-- Why a service without its key is not respawned. -/
def ensurePublicServiceHasEndpointKey (host : String) (keyPresent requiresApiKey : Bool) :
    Except ErrorChain Unit :=
  if requiresApiKey && !keyPresent then
    .error (ErrorChain.ofMessage
      "refusing to recover a service that was launched with an endpoint API key but no longer has one: it would come back up without authentication, and something outside this machine may still be publishing its port. Relaunch it with `rocm serve --require-api-key` to issue a new key.")
  else if ToolPolicy.isPublicBindHost host && !keyPresent then
    .error (ErrorChain.ofMessage ("refusing to respawn a service bound to the public host `" ++
      host ++ "` without an endpoint API key: it would come back up without authentication. Relaunch it with `rocm serve --host " ++
      host ++ " --port <port> --allow-public-bind` to issue a new key."))
  else .ok ()

def handleServerRecoverEventWithRecord (view : View) (mode : WatcherMode)
    (event : AutomationTriggerEvent) (record : ManagedServiceRecord) (log : Log) : Log :=
  let why := displayRecoveryReason (event.reason.getD "recoverable_event")
  let needs := "managed service " ++ record.serviceId ++ " needs recovery (" ++ why ++ ")"
  let place := record.serviceId ++ " on " ++ record.host ++ ":" ++ toString record.port ++
    " after " ++ why
  match watcherPolicyAction mode with
  | .observe =>
      recordEvent view "server-recover" "warn" "observe_failure"
        ("observed managed service " ++ record.serviceId ++ " needing recovery (" ++ why ++
          "); restart not attempted in observe mode") (some record.serviceId) log
  | .queueProposal =>
    match pendingProposalExists view "server-recover" record.serviceId "queue_restart_proposal"
        "restart_server" with
    | .ok true =>
        recordEvent view "server-recover" "info" "restart_proposal_already_pending"
          (needs ++ "; a restart request awaiting review is already queued")
          (some record.serviceId) log
    | .error error =>
        recordEvent view "server-recover" "error" "restart_proposal_check_failed"
          (needs ++ "; not queueing a restart request because the proposals store could not be checked for one already pending: " ++
            error.render) (some record.serviceId) log
    | .ok false =>
        let message := needs ++ "; queueing restart proposal"
        queueProposal view "server-recover" "queue_restart_proposal" "Restart managed service"
          message (some record.serviceId)
          (recordEvent view "server-recover" "warn" "queue_restart_proposal" message
            (some record.serviceId) log)
  | .runContained =>
      if inBackoff record view.now then log
      else
        match ensurePublicServiceHasEndpointKey record.host
            (view.hasEndpointKey record.serviceId) record.requiresApiKey with
        | .error error =>
            recordEvent view "server-recover" "error" "restart_managed_service_refused"
              ("cannot recover managed service " ++ place ++ ": " ++ ErrorChain.top error)
              (some record.serviceId) log
        | .ok _ =>
            let restarted := log.add (.restart record)
            match view.restart record with
            | .error error =>
                recordEvent view "server-recover" "error" "restart_managed_service_failed"
                  ("failed to recover managed service " ++ place ++ ": " ++ error.render)
                  (some record.serviceId)
                  (restarted.add (.stampRestart record.serviceId view.now))
            | .ok _ =>
                recordEvent view "server-recover" "info" "restart_managed_service"
                  ("restarted managed service " ++ place) (some record.serviceId) restarted

def handleServerRecoverEvent (view : View) (mode : WatcherMode)
    (event : AutomationTriggerEvent) (log : Log) : Except ErrorChain Log :=
  match event.serviceId with
  | none => .error (ErrorChain.ofMessage "server-recover event is missing service_id")
  | some serviceId => do
    let record <- loadServiceRecord view serviceId
    let log := askEngine record event log
    if serviceRecordMatchesRecoveryEvent view record event then
      return handleServerRecoverEventWithRecord view mode event record log
    else
      return recordEvent view "server-recover" "info" "ignore_nonrecoverable_service"
        ("managed service " ++ record.serviceId ++
          " does not currently need recovery; restart not attempted")
        (some record.serviceId) log

/-! ## gpu-metrics -/

def gpuMetricsIntervalMs : Nat := 60 * 1000

def handleGpuMetricsEvent (view : View) (mode : WatcherMode) (event : AutomationTriggerEvent)
    (log : Log) : Log :=
  let summary := ((event.payload.get "summary").bind Json.asStr).getD "summary unavailable"
  let level := if event.kind = "gpu.metrics" then "info" else "warn"
  let modeNote :=
    match mode with
    | .observe => "observe mode records telemetry only"
    | .propose => "propose mode has no GPU mutation policy yet, so telemetry is recorded only"
    | .contained => "contained mode has no GPU mutation policy yet, so telemetry is recorded only"
  let reason := (event.reason.filter (fun value => trim value ≠ "")).getD "no detail"
  let source :=
    if event.source = "gpu_telemetry" then "local amd-smi telemetry"
    else if event.source = "local_webhook" then "local webhook"
    else event.source
  recordEvent view "gpu-metrics" level "record_gpu_metrics"
    ("GPU metrics event from " ++ source ++ ": " ++ summary ++ "; reason=" ++ reason ++ "; " ++
      modeNote ++ "; no mutating action was taken") none log

/-! ## gpu-thermal-protect -/

def activePressureTarget (record : ManagedServiceRecord) : Bool :=
  record.mode == "managed" && ["ready", "running"].contains record.status

/-- The service an event names, unless it is blank. -/
def namedService (event : AutomationTriggerEvent) : Option String :=
  (event.serviceId.map trim).filter (· ≠ "")

def resolveGpuPressureServiceTarget (view : View) (event : AutomationTriggerEvent) :
    Except ErrorChain (Option ManagedServiceRecord) :=
  match namedService event with
  | some serviceId => do
      let record <- loadServiceRecord view serviceId
      return if activePressureTarget record then some record else none
  | none =>
    match (loadManagedServices view).filter activePressureTarget with
    | [record] => .ok (some record)
    | _ => .ok none

def handleGpuThermalProtectEvent (view : View) (mode : WatcherMode)
    (event : AutomationTriggerEvent) (log : Log) : Except ErrorChain Log :=
  let summary := (payloadString event.payload "summary").getD "GPU pressure is high"
  let reason := event.reason.getD "gpu_pressure_threshold"
  if mode = .observe then
    .ok (recordEvent view "gpu-thermal-protect" "warn" "observe_gpu_pressure"
      (summary ++ "; observe mode records this only and does not stop any model server")
      event.serviceId log)
  else do
    let target <- resolveGpuPressureServiceTarget view event
    match target with
    | none =>
        return recordEvent view "gpu-thermal-protect" "warn" "gpu_pressure_no_clear_target"
          (summary ++ "; rocm-cli did not choose a model server to stop because there was no single clear running managed server")
          none log
    | some record =>
        let pending <- pendingProposalExists view "gpu-thermal-protect" record.serviceId
          "queue_stop_server_proposal" "stop_server"
        if pending then
          return recordEvent view "gpu-thermal-protect" "info" "stop_proposal_already_pending"
            (summary ++ "; a reviewed stop request is already waiting for " ++ record.serviceId)
            (some record.serviceId) log
        else
          let modeNote :=
            if mode = .contained then "contained mode still asks before stopping anything"
            else "asking before stopping anything"
          let message := summary ++ "; " ++ modeNote ++ "; selected managed server " ++
            record.serviceId ++ " (" ++ record.endpointUrl ++ ")"
          let field := fun key => (event.payload.get key).getD .null
          return queueProposalWithArguments view "gpu-thermal-protect"
            "queue_stop_server_proposal" "Review GPU pressure stop" message
            (some record.serviceId)
            (.object [
              ("service_id", .string record.serviceId),
              ("model_ref", .string record.modelRef),
              ("canonical_model_id", .string record.canonicalModelId),
              ("endpoint_url", .string record.endpointUrl),
              ("engine", .string record.engine),
              ("pressure_kind", .string event.kind),
              ("pressure_reason", .string reason),
              ("pressure_summary", .string summary),
              ("gpu", field "gpu"),
              ("hotspot_temperature_c", field "hotspot_temperature_c"),
              ("memory_temperature_c", field "memory_temperature_c"),
              ("vram_percent", field "vram_percent"),
              ("hotspot_threshold_c", .number (.float "95.0")),
              ("memory_temperature_threshold_c", .number (.float "95.0")),
              ("vram_threshold_percent", .number (.float "95.0"))])
            (recordEvent view "gpu-thermal-protect" "warn" "queue_stop_server_proposal" message
              (some record.serviceId) log)

/-! ## cache-warm -/

def handleCacheWarmEvent (view : View) (mode : WatcherMode) (event : AutomationTriggerEvent)
    (log : Log) : Log :=
  match payloadString event.payload "artifact_ref" with
  | none =>
      recordEvent view "cache-warm" "warn" "cache_warm_missing_artifact"
        "cache warm event did not include artifact_ref; no prefetch proposal was queued" none log
  | some artifactRef =>
    match view.artifactExists artifactRef with
    | .error error =>
        recordEvent view "cache-warm" "error" "cache_warm_registry_error"
          ("cache warm could not verify registry artifact " ++ artifactRef ++ ": " ++
            ErrorChain.top error ++ "; no prefetch proposal was queued") none log
    | .ok false =>
        recordEvent view "cache-warm" "warn" "cache_warm_unknown_artifact"
          ("cache warm requested unknown registry artifact " ++ artifactRef ++
            "; no prefetch proposal was queued") none log
    | .ok true =>
      if mode = .observe then
        recordEvent view "cache-warm" "info" "observe_cache_warm_request"
          ("observed cache warm request for " ++ artifactRef ++
            "; observe mode does not queue or download artifacts") none log
      else
        let message :=
          if mode = .contained then
            "cache warm requested for " ++ artifactRef ++
              "; contained mode still queues a review because artifact downloads require explicit source-policy approval"
          else
            "cache warm requested for " ++ artifactRef ++
              "; queueing a reviewed prefetch proposal"
        queueProposalWithArguments view "cache-warm" "queue_prefetch_proposal"
          "Prefetch model artifact" message none (.object [("artifact_ref", .string artifactRef)])
          (recordEvent view "cache-warm" "info" "queue_prefetch_proposal" message none log)

/-! ## driver-upgrade -/

def handleDriverUpgradeEvent (view : View) (mode : WatcherMode) (event : AutomationTriggerEvent)
    (log : Log) : Log :=
  if payloadString event.payload "component" ≠ some "driver" then
    recordEvent view "driver-upgrade" "warn" "driver_upgrade_ignored_component"
      "driver-upgrade event did not include payload.component=driver; no driver plan proposal was queued"
      none log
  else
    match mode with
    | .observe =>
        recordEvent view "driver-upgrade" "info" "observe_driver_update"
          "observed local driver update signal; observe mode does not queue or run a driver plan"
          none log
    | .propose =>
        let message :=
          "local driver update signal received; queueing a reviewed read-only driver plan"
        queueProposal view "driver-upgrade" "prepare_driver_plan" "Review driver install plan"
          message none
          (recordEvent view "driver-upgrade" "info" "prepare_driver_plan" message none log)
    | .contained =>
        let ran := log.add (.runTool .driverPlan .default)
        let failed := fun error =>
          recordEvent view "driver-upgrade" "error" "driver_plan_failed"
            ("local driver update signal received, but contained restricted driver_plan failed: " ++
              ErrorChain.top error ++ "; no driver commands were executed") none ran
        match view.runTool .driverPlan .default with
        | .error error => failed error
        | .ok output =>
          match restrictedDriverPlanResult output with
          | .error error => failed error
          | .ok result =>
              recordEvent view "driver-upgrade"
                (if result.exitStatus = 0 then "info" else "error") "run_driver_plan"
                ("local driver update signal received; contained restricted driver_plan status=" ++
                  result.status ++ "; no driver commands were executed") none ran

end Automation
end RocmCli
