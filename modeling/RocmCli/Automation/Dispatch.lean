import RocmCli.Automation.Watchers

namespace RocmCli
namespace Automation

open Text (trim)
open ToolPolicy (refuseIf)

/-!
# Events and their dispatch

Where events come from, the collector and the local webhook, and the loop that
hands them to the watchers.  The loop ends at the first handler that fails.
-/

/-! ## The local webhook -/

structure LocalWebhookEventRequest where
  watcherHint : String
  kind : String
  serviceId : Option String
  reason : Option String
  payload : Json

/-- The kinds a request may have, by watcher. -/
def localWebhookKinds : List (String × List String) :=
  [("therock-update", ["schedule.tick"]),
   ("server-recover", ["service.manifest_recoverable", "service.endpoint_recoverable",
     "service.healthcheck_recoverable"]),
   ("gpu-metrics", ["gpu.metrics", "gpu.metrics_unavailable"]),
   ("cache-warm", ["cache.warm"]),
   ("driver-upgrade", ["update.available"]),
   ("gpu-thermal-protect", ["gpu.thermal_pressure", "gpu.memory_pressure"])]

def localWebhookKindAllowed (watcherId kind : String) : Bool :=
  (localWebhookKinds.lookup watcherId).any (·.contains kind)

def localWebhookEventFromRequest (now : Nat) (request : LocalWebhookEventRequest) :
    Except ErrorChain AutomationTriggerEvent := do
  let watcherHint := trim request.watcherHint
  refuseIf (watcherHint == "") "watcher_hint is required"
  refuseIf (builtinWatcher watcherHint).isNone ("unknown watcher_hint: " ++ watcherHint)
  let kind := trim request.kind
  refuseIf (kind == "") "kind is required"
  refuseIf (!localWebhookKindAllowed watcherHint kind)
    ("kind `" ++ kind ++ "` is not accepted for watcher `" ++ watcherHint ++
      "`; local webhooks can only trigger accepted watcher event kinds")
  let serviceId := (request.serviceId.map trim).filter (· ≠ "")
  match serviceId with
  | some serviceId => ToolPolicy.validateServiceId serviceId
  | none => pure ()
  refuseIf (watcherHint == "server-recover" && serviceId.isNone)
    "server-recover webhook events require service_id"
  refuseIf (watcherHint == "cache-warm" && (payloadString request.payload "artifact_ref").isNone)
    "cache-warm webhook events require payload.artifact_ref"
  refuseIf (watcherHint == "driver-upgrade" &&
      payloadString request.payload "component" != some "driver")
    "driver-upgrade webhook events require payload.component=driver"
  return {
    atUnixMs := now
    kind := kind
    source := "local_webhook"
    watcherHint := some watcherHint
    serviceId := serviceId
    reason := (request.reason.map trim).filter (· ≠ "")
    payload := request.payload }

/-! ## The collector -/

/-- A watcher that is enabled in the runtime state and has been quiet for an
interval. -/
def isDue (watcherId : String) (interval : Nat) (watchers : List WatcherRuntimeSnapshot)
    (now : Nat) : Bool :=
  match watchers.find? (fun watcher => watcher.id == watcherId && watcher.enabled) with
  | none => false
  | some snapshot => snapshot.lastEventUnixMs.all (fun last => decide (interval ≤ now - last))

def therockUpdateDue : List WatcherRuntimeSnapshot -> Nat -> Bool :=
  isDue "therock-update" therockUpdateIntervalMs

def serverRecoverDue : List WatcherRuntimeSnapshot -> Nat -> Bool :=
  isDue "server-recover" serverRecoverBackoffMs

def gpuMetricsDue : List WatcherRuntimeSnapshot -> Nat -> Bool :=
  isDue "gpu-metrics" gpuMetricsIntervalMs

def gpuThermalProtectDue : List WatcherRuntimeSnapshot -> Nat -> Bool :=
  isDue "gpu-thermal-protect" gpuMetricsIntervalMs

def serverRecoverEvent (view : View) : List AutomationTriggerEvent :=
  match findRecoverableService view with
  | none => []
  | some (record, recoveryReason) =>
      [{ atUnixMs := view.now
         kind := serviceRecoveryEventKind recoveryReason
         source := "managed_service"
         watcherHint := some "server-recover"
         serviceId := some record.serviceId
         reason := some recoveryReason
         payload := .object [("engine", .string record.engine), ("status", .string record.status),
           ("endpoint", .string record.endpointUrl),
           ("recovery_reason", .string recoveryReason)] }]

def gpuMetricsEvent (view : View) : AutomationTriggerEvent :=
  let snapshot := view.gpuSnapshot
  let available := snapshot.amdSmiAvailable && snapshot.monitorAvailable
  { atUnixMs := view.now
    kind := if available then "gpu.metrics" else "gpu.metrics_unavailable"
    source := "gpu_telemetry"
    watcherHint := some "gpu-metrics"
    serviceId := none
    reason :=
      if available then some "amd_smi_snapshot_available"
      else some (snapshot.note.getD "amd_smi_snapshot_unavailable")
    payload := snapshot.payload }

def gpuPressureEvents (view : View) : List AutomationTriggerEvent :=
  view.gpuSnapshot.pressures.map fun pressure =>
    { atUnixMs := view.now
      kind := pressure.kind
      source := "gpu_telemetry"
      watcherHint := some "gpu-thermal-protect"
      serviceId := none
      reason := some pressure.reason
      payload := pressure.payload }

def collectAutomationEvents (view : View) (watchers : List WatcherRuntimeSnapshot) :
    List AutomationTriggerEvent :=
  (if therockUpdateDue watchers view.now then
    [{ atUnixMs := view.now
       kind := "schedule.tick"
       source := "scheduler"
       watcherHint := some "therock-update"
       serviceId := none
       reason := some "therock_update_interval_due"
       payload := .object [("interval_ms",
         .number (.unsigned (UInt64.ofNat therockUpdateIntervalMs)))] }]
    else []) ++
  (if serverRecoverDue watchers view.now then serverRecoverEvent view else []) ++
  (if gpuMetricsDue watchers view.now then [gpuMetricsEvent view] else []) ++
  (if gpuThermalProtectDue watchers view.now then gpuPressureEvents view else [])

/-! ## Dispatch -/

def eventsForWatcher (events : List AutomationTriggerEvent) (watcherId kindPrefix : String) :
    List AutomationTriggerEvent :=
  events.filter fun event =>
    event.watcherHint == some watcherId && decide (kindPrefix.toList <+: event.kind.toList)

def eventsForWatcherExact (events : List AutomationTriggerEvent) (watcherId kind : String) :
    List AutomationTriggerEvent :=
  events.filter fun event => event.watcherHint == some watcherId && event.kind == kind

/-- The events a watcher handles, in the order it does. -/
def eventsFor (events : List AutomationTriggerEvent) (watcherId : String) :
    List AutomationTriggerEvent :=
  match watcherId with
  | "therock-update" => eventsForWatcher events watcherId "schedule.tick"
  | "server-recover" => eventsForWatcher events watcherId "service."
  | "gpu-metrics" => eventsForWatcher events watcherId "gpu."
  | "gpu-thermal-protect" =>
      eventsForWatcherExact events watcherId "gpu.thermal_pressure" ++
        eventsForWatcherExact events watcherId "gpu.memory_pressure"
  | "cache-warm" => eventsForWatcherExact events watcherId "cache.warm"
  | "driver-upgrade" => eventsForWatcherExact events watcherId "update.available"
  | _ => []

def handleEvent (view : View) (watcherId : String) (mode : WatcherMode)
    (event : AutomationTriggerEvent) (log : Log) : Except ErrorChain Log :=
  match watcherId with
  | "therock-update" => .ok (handleTherockUpdateEvent view mode log)
  | "server-recover" => handleServerRecoverEvent view mode event log
  | "gpu-metrics" => .ok (handleGpuMetricsEvent view mode event log)
  | "gpu-thermal-protect" => handleGpuThermalProtectEvent view mode event log
  | "cache-warm" => .ok (handleCacheWarmEvent view mode event log)
  | "driver-upgrade" => .ok (handleDriverUpgradeEvent view mode event log)
  | _ => .ok log

/-- The calls of handlers for some events, watcher by watcher. -/
def dispatched (config : AutomationsConfig) (events : List AutomationTriggerEvent) :
    List (BuiltinWatcherSpec × AutomationTriggerEvent) :=
  (builtinWatchers.filter config.watcherEnabled).flatMap fun watcher =>
    (eventsFor events watcher.id).map fun event => (watcher, event)

/-- How far the loop came and how it ended. -/
structure Evaluation where
  log : Log
  handled : Nat
  result : Except ErrorChain Unit

/-- The loop over the calls; the number of a call selects what it finds. -/
def runCalls (config : AutomationsConfig) (views : Nat -> View) :
    Nat -> List (BuiltinWatcherSpec × AutomationTriggerEvent) -> Log -> Evaluation
  | handled, [], log => ⟨log, handled, .ok ()⟩
  | handled, (watcher, event) :: rest, log =>
    match handleEvent (views handled) watcher.id (config.effectiveWatcherMode watcher) event log with
    | .error error => ⟨log, handled, .error error⟩
    | .ok next => runCalls config views (handled + 1) rest next

def evaluateWatchersForEvents (config : AutomationsConfig) (views : Nat -> View)
    (events : List AutomationTriggerEvent) (log : Log) : Evaluation :=
  runCalls config views 0 (dispatched config events) log

def evaluateWatchers (config : AutomationsConfig) (scan : View) (views : Nat -> View)
    (log : Log) : Evaluation :=
  evaluateWatchersForEvents config views (collectAutomationEvents scan log.activeWatchers) log

end Automation
end RocmCli
