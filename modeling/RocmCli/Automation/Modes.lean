import RocmCli.Automation.Containment

namespace RocmCli
namespace Automation

/-!
# What a mode allows

An event only starts a handler.  What the handler does is bounded by the mode
of its watcher and by the records and proposals found when it runs: nothing but
records in observe mode, one proposal with the watcher's own tool in the others,
and in contained mode a restart of the recorded server that still needs it or
one of the two read-only tools.
-/

/-! ## The contract -/

/-- The tool of the proposals of a watcher. -/
def proposalTool : String -> Option String
  | "therock-update" => some "check_updates"
  | "server-recover" => some "restart_server"
  | "gpu-thermal-protect" => some "stop_server"
  | "cache-warm" => some "prefetch_artifact"
  | "driver-upgrade" => some "driver_plan"
  | _ => none

/-- The rule of a kind of recovery event finds the server in need. -/
def NeedsRecovery (view : View) (kind : String) (record : ManagedServiceRecord) : Prop :=
  (kind = "service.manifest_recoverable" ∧
      (manifestServiceRecoveryReason record view.now).isSome = true) ∨
    (kind = "service.endpoint_recoverable" ∧ view.portAnswers record.host record.port = false) ∨
    (kind = "service.healthcheck_recoverable" ∧
      exists status, view.healthcheck record.engine record.serviceId = .ok status ∧
        healthcheckResponseRecoverable status = true)

/-- The recorded server of an event, not asked to stop and in need of recovery. -/
structure RecoveryTarget (view : View) (event : AutomationTriggerEvent)
    (record : ManagedServiceRecord) : Prop where
  own : OwnRecord view record.serviceId record
  named : event.serviceId = some record.serviceId
  wanted : stopRequested record = false
  needed : NeedsRecovery view event.kind record

/-- What the proposal of a watcher is about. -/
def ProposalTarget (view : View) (watcherId : String) (event : AutomationTriggerEvent)
    (proposal : AutomationProposalRecord Json) : Prop :=
  match watcherId with
  | "server-recover" =>
      (exists record, RecoveryTarget view event record ∧
        proposal.serviceId = some record.serviceId ∧
        pendingProposalExists view watcherId record.serviceId "queue_restart_proposal"
          "restart_server" = .ok false) ∧
      proposal.arguments = .object [("service_id", jsonText proposal.serviceId)]
  | "gpu-thermal-protect" =>
      exists record, PressureTarget view event record ∧
        proposal.serviceId = some record.serviceId ∧
        proposal.arguments.get "service_id" = some (.string record.serviceId) ∧
        pendingProposalExists view watcherId record.serviceId "queue_stop_server_proposal"
          "stop_server" = .ok false
  | "cache-warm" =>
      proposal.serviceId = none ∧
        exists artifactRef, payloadString event.payload "artifact_ref" = some artifactRef ∧
          view.artifactExists artifactRef = .ok true ∧
          proposal.arguments = .object [("artifact_ref", .string artifactRef)]
  | _ => proposal.serviceId = none ∧ proposal.arguments = .object []

structure ProposalFor (view : View) (watcherId : String) (event : AutomationTriggerEvent)
    (proposal : AutomationProposalRecord Json) : Prop where
  pending : proposal.status = "pending"
  watcher : proposal.watcherId = watcherId
  tool : proposal.tool = proposalTool watcherId
  target : ProposalTarget view watcherId event proposal

/-- The tool a watcher runs on its own in contained mode. -/
def containedTool : String -> Option SandboxToolArg
  | "therock-update" => some .checkUpdates
  | "driver-upgrade" => some .driverPlan
  | _ => none

/-- What handling an event may do in a mode. -/
def Permitted (view : View) (watcherId : String) (mode : WatcherMode)
    (event : AutomationTriggerEvent) : Effect -> Prop
  | .event record => record.watcherId = watcherId
  | .audit record => record.watcherId = some watcherId
  | .healthcheck _ serviceId =>
      watcherId = "server-recover" ∧ event.kind = "service.healthcheck_recoverable" ∧
        event.serviceId = some serviceId
  | .proposal proposal => mode ≠ .observe ∧ ProposalFor view watcherId event proposal
  | .restart record =>
      mode = .contained ∧ watcherId = "server-recover" ∧ RecoveryTarget view event record ∧
        inBackoff record view.now = false
  | .stampRestart serviceId _ =>
      mode = .contained ∧ watcherId = "server-recover" ∧ event.serviceId = some serviceId
  | .runTool tool policy =>
      mode = .contained ∧ containedTool watcherId = some tool ∧ policy = .default

def Effect.isProposal : Effect -> Bool
  | .proposal _ => true
  | _ => false

/-- The effects of one handling keep to the contract. -/
structure StaysInMode (view : View) (watcherId : String) (mode : WatcherMode)
    (event : AutomationTriggerEvent) (done : List Effect) : Prop where
  permitted : forall effect, effect ∈ done -> Permitted view watcherId mode event effect
  atMostOne : (done.filter Effect.isProposal).length ≤ 1

/-! ## Effects of a handler, one after the other -/

/-- From one log to the next there are permitted effects, `count` of them
proposals. -/
def Did (view : View) (watcherId : String) (mode : WatcherMode) (event : AutomationTriggerEvent)
    (log : Log) (count : Nat) (next : Log) : Prop :=
  exists done, next.effects = log.effects ++ done ∧
    (forall effect, effect ∈ done -> Permitted view watcherId mode event effect) ∧
    (done.filter Effect.isProposal).length = count

section Did

variable {view : View} {watcherId : String} {mode : WatcherMode} {event : AutomationTriggerEvent}
variable {log next : Log} {count : Nat}

theorem Did.start : Did view watcherId mode event log 0 log :=
  ⟨[], (List.append_nil _).symm, nofun, rfl⟩

theorem Did.add (before : Did view watcherId mode event log count next) (effect : Effect)
    (permitted : Permitted view watcherId mode event effect) :
    Did view watcherId mode event log (count + if effect.isProposal then 1 else 0)
      (next.add effect) := by
  rcases before with ⟨done, grown, kept, counted⟩
  refine ⟨done ++ [effect], ?_, ?_, ?_⟩
  · rw [← List.append_assoc, ← grown]
    rfl
  · intro other listed
    rcases List.mem_append.mp listed with earlier | last
    · exact kept other earlier
    · rw [List.mem_singleton.mp last]
      exact permitted
  · rw [List.filter_append, List.length_append, counted, List.filter_cons]
    split
    · rfl
    · rfl

theorem Did.recordEvent (before : Did view watcherId mode event log count next)
    (level action message : String) (serviceId : Option String) :
    Did view watcherId mode event log count
      (recordEvent view watcherId level action message serviceId next) := by
  rcases before with ⟨done, grown, kept, counted⟩
  have noted : Did view watcherId mode event log count
      { next with activeWatchers := noteEvent watcherId message view.now next.activeWatchers } :=
    ⟨done, grown, kept, counted⟩
  have written := noted.add (.event ⟨view.now, watcherId, level, action, message,
    serviceId⟩) rfl
  exact written.add (.audit ⟨view.now, "rocmd", "automation", "watcher:" ++ watcherId,
    level, action, message, some watcherId, serviceId⟩) rfl

theorem Did.staysInMode (did : Did view watcherId mode event log count next) (few : count ≤ 1) :
    exists done, next.effects = log.effects ++ done ∧
      StaysInMode view watcherId mode event done := by
  rcases did with ⟨done, grown, kept, counted⟩
  exact ⟨done, grown, ⟨kept, by omega⟩⟩

end Did

/-- A handler ends with permitted effects and at most one proposal. -/
def Handles (view : View) (watcherId : String) (mode : WatcherMode)
    (event : AutomationTriggerEvent) (log next : Log) : Prop :=
  exists count, count ≤ 1 ∧ Did view watcherId mode event log count next

theorem Did.quietly {view : View} {watcherId : String} {mode : WatcherMode}
    {event : AutomationTriggerEvent} {log next : Log}
    (did : Did view watcherId mode event log 0 next) :
    Handles view watcherId mode event log next :=
  ⟨0, Nat.zero_le 1, did⟩

theorem Did.proposing {view : View} {watcherId : String} {mode : WatcherMode}
    {event : AutomationTriggerEvent} {log next : Log}
    (did : Did view watcherId mode event log 0 next)
    {proposal : AutomationProposalRecord Json} (acting : mode ≠ .observe)
    (suited : ProposalFor view watcherId event proposal) :
    Handles view watcherId mode event log (next.add (.proposal proposal)) :=
  ⟨1, Nat.le_refl 1, did.add (.proposal proposal) ⟨acting, suited⟩⟩

/-! ## The handlers -/

section

variable (view : View) (mode : WatcherMode) (event : AutomationTriggerEvent) (log : Log)
include view mode event log

theorem handleTherockUpdateEvent_handles :
    Handles view "therock-update" mode event log (handleTherockUpdateEvent view mode log) := by
  have start := @Did.start view "therock-update" mode event log
  cases mode with
  | observe => exact (start.recordEvent _ _ _ _).quietly
  | propose =>
      exact (start.recordEvent _ _ _ _).proposing nofun ⟨rfl, rfl, rfl, rfl, rfl⟩
  | contained =>
      have ran := start.add (.runTool .checkUpdates .default) ⟨rfl, rfl, rfl⟩
      dsimp only [handleTherockUpdateEvent, watcherPolicyAction]
      split
      next output _ =>
        split
        next result _ =>
          have recorded := ran.recordEvent
            (if result.exitStatus = 0 then "info" else "error") "run_update_check"
            ("scheduled TheRock update check is approved for contained read-only execution; restricted check_updates status=" ++
              result.status ++ "; " ++ updateCheckMessage result.status) none
          split
          · refine ((recorded.recordEvent _ _ _ _).add _ ?_).quietly
            exact rfl
          · exact recorded.quietly
        · exact (ran.recordEvent _ _ _ _).quietly
      · exact (ran.recordEvent _ _ _ _).quietly

theorem handleGpuMetricsEvent_handles :
    Handles view "gpu-metrics" mode event log (handleGpuMetricsEvent view mode event log) :=
  (Did.start.recordEvent _ _ _ _).quietly

theorem handleCacheWarmEvent_handles :
    Handles view "cache-warm" mode event log (handleCacheWarmEvent view mode event log) := by
  have start := @Did.start view "cache-warm" mode event log
  unfold handleCacheWarmEvent
  split
  · exact (start.recordEvent _ _ _ _).quietly
  next artifactRef named =>
    split
    · exact (start.recordEvent _ _ _ _).quietly
    · exact (start.recordEvent _ _ _ _).quietly
    next known =>
      by_cases observing : mode = .observe
      · rw [if_pos observing]
        exact (start.recordEvent _ _ _ _).quietly
      · rw [if_neg observing]
        exact (start.recordEvent _ _ _ _).proposing observing
          ⟨rfl, rfl, rfl, rfl, artifactRef, named, known, rfl⟩

theorem handleDriverUpgradeEvent_handles :
    Handles view "driver-upgrade" mode event log
      (handleDriverUpgradeEvent view mode event log) := by
  have start := @Did.start view "driver-upgrade" mode event log
  unfold handleDriverUpgradeEvent
  split
  · exact (start.recordEvent _ _ _ _).quietly
  · cases mode with
    | observe => exact (start.recordEvent _ _ _ _).quietly
    | propose =>
        exact (start.recordEvent _ _ _ _).proposing nofun ⟨rfl, rfl, rfl, rfl, rfl⟩
    | contained =>
        have ran := start.add (.runTool .driverPlan .default) ⟨rfl, rfl, rfl⟩
        dsimp only
        split
        · exact (ran.recordEvent _ _ _ _).quietly
        · split
          · exact (ran.recordEvent _ _ _ _).quietly
          · exact (ran.recordEvent _ _ _ _).quietly

end

/-! ### server-recover -/

variable {event : AutomationTriggerEvent} {log next : Log}

theorem needsRecovery_of_matches {view : View} {record : ManagedServiceRecord}
    (needed : serviceRecordMatchesRecoveryEvent view record event = true) :
    stopRequested record = false ∧ NeedsRecovery view event.kind record := by
  unfold serviceRecordMatchesRecoveryEvent at needed
  by_cases stopping : stopRequested record = true
  · rw [if_pos stopping] at needed
    cases needed
  · rw [if_neg stopping] at needed
    refine ⟨Bool.not_eq_true _ ▸ stopping, ?_⟩
    by_cases manifest : event.kind = "service.manifest_recoverable"
    · rw [if_pos manifest] at needed
      exact .inl ⟨manifest, needed⟩
    · rw [if_neg manifest] at needed
      by_cases endpoint : event.kind = "service.endpoint_recoverable"
      · rw [if_pos endpoint] at needed
        refine .inr (.inl ⟨endpoint, ?_⟩)
        unfold endpointServiceRecoveryReason at needed
        cases answers : view.portAnswers record.host record.port with
        | false => rfl
        | true =>
            rw [answers] at needed
            cases needed
      · rw [if_neg endpoint] at needed
        by_cases health : event.kind = "service.healthcheck_recoverable"
        · rw [if_pos health] at needed
          refine .inr (.inr ⟨health, ?_⟩)
          cases reply : view.healthcheck record.engine record.serviceId with
          | ok status =>
              rw [reply] at needed
              exact ⟨status, rfl, needed⟩
          | error error =>
              rw [reply] at needed
              cases needed
        · rw [if_neg health] at needed
          cases needed

theorem handleServerRecoverEventWithRecord_handles {view : View} {mode : WatcherMode}
    {record : ManagedServiceRecord}
    (target : RecoveryTarget view event record)
    (start : Did view "server-recover" mode event log 0 next) :
    Handles view "server-recover" mode event log
      (handleServerRecoverEventWithRecord view mode event record next) := by
  cases mode with
  | observe => exact (start.recordEvent _ _ _ _).quietly
  | propose =>
      dsimp only [handleServerRecoverEventWithRecord, watcherPolicyAction]
      split
      · exact (start.recordEvent _ _ _ _).quietly
      · exact (start.recordEvent _ _ _ _).quietly
      next fresh =>
        exact (start.recordEvent _ _ _ _).proposing nofun
          ⟨rfl, rfl, rfl, ⟨record, target, rfl, fresh⟩, rfl⟩
  | contained =>
      dsimp only [handleServerRecoverEventWithRecord, watcherPolicyAction]
      by_cases early : inBackoff record view.now = true
      · rw [if_pos early]
        exact start.quietly
      · rw [if_neg early]
        split
        · exact (start.recordEvent _ _ _ _).quietly
        · have restarted := start.add (.restart record)
            ⟨rfl, rfl, target, Bool.not_eq_true _ ▸ early⟩
          split
          · have stamped := restarted.add
              (.stampRestart record.serviceId view.now) ⟨rfl, rfl, target.named⟩
            exact (stamped.recordEvent _ _ _ _).quietly
          · exact (restarted.recordEvent _ _ _ _).quietly

theorem handleServerRecoverEvent_handles {view : View} {mode : WatcherMode}
    (handled : handleServerRecoverEvent view mode event log = .ok next) :
    Handles view "server-recover" mode event log next := by
  unfold handleServerRecoverEvent at handled
  split at handled
  · cases handled
  next serviceId named =>
    rcases bind_ok.mp handled with ⟨record, loaded, rest⟩
    have own := loadServiceRecord_ok.mp loaded
    have asked : Did view "server-recover" mode event log 0 (askEngine record event log) := by
      unfold askEngine
      split
      next asks =>
        refine Did.start.add _ ⟨rfl, asks.2, ?_⟩
        rw [own.named]
        exact named
      · exact .start
    by_cases needed : serviceRecordMatchesRecoveryEvent view record event = true
    · simp only [needed, if_true] at rest
      cases rest
      rcases needsRecovery_of_matches needed with ⟨wanted, rule⟩
      exact handleServerRecoverEventWithRecord_handles
        ⟨own.named ▸ own, own.named ▸ named, wanted, rule⟩ asked
    · simp only [needed] at rest
      cases rest
      exact (asked.recordEvent _ _ _ _).quietly

/-! ### gpu-thermal-protect -/

theorem handleGpuThermalProtectEvent_handles {view : View} {mode : WatcherMode}
    (handled : handleGpuThermalProtectEvent view mode event log = .ok next) :
    Handles view "gpu-thermal-protect" mode event log next := by
  have start := @Did.start view "gpu-thermal-protect" mode event log
  unfold handleGpuThermalProtectEvent at handled
  by_cases observing : mode = .observe
  · rw [if_pos observing] at handled
    cases handled
    exact (start.recordEvent _ _ _ _).quietly
  · rw [if_neg observing] at handled
    rcases bind_ok.mp handled with ⟨target, resolved, rest⟩
    cases target with
    | none =>
        cases rest
        exact (start.recordEvent _ _ _ _).quietly
    | some record =>
        rcases bind_ok.mp rest with ⟨pending, checked, outcome⟩
        cases pending with
        | true =>
            cases outcome
            exact (start.recordEvent _ _ _ _).quietly
        | false =>
            cases outcome
            exact (start.recordEvent _ _ _ _).proposing observing
              ⟨rfl, rfl, rfl, record, resolveGpuPressureServiceTarget_some.mp resolved, rfl, rfl,
                checked⟩

theorem handleEvent_handles {view : View} {watcherId : String} {mode : WatcherMode}
    (handled : handleEvent view watcherId mode event log = .ok next) :
    Handles view watcherId mode event log next := by
  unfold handleEvent at handled
  split at handled
  · cases handled
    exact handleTherockUpdateEvent_handles view mode event log
  · exact handleServerRecoverEvent_handles handled
  · cases handled
    exact handleGpuMetricsEvent_handles view mode event log
  · exact handleGpuThermalProtectEvent_handles handled
  · cases handled
    exact handleCacheWarmEvent_handles view mode event log
  · cases handled
    exact handleDriverUpgradeEvent_handles view mode event log
  · cases handled
    exact Did.start.quietly

/-! ## Whole runs -/

/-- A watcher gets only events that are addressed to it, and only when enabled. -/
theorem mem_dispatched {config : AutomationsConfig} {events : List AutomationTriggerEvent}
    {watcher : BuiltinWatcherSpec}
    (called : (watcher, event) ∈ dispatched config events) :
    watcher ∈ builtinWatchers ∧ config.watcherEnabled watcher = true ∧ event ∈ events ∧
      event.watcherHint = some watcher.id := by
  rcases List.mem_flatMap.mp called with ⟨chosen, listed, paired⟩
  rcases List.mem_map.mp paired with ⟨taken, given, same⟩
  cases same
  rcases List.mem_filter.mp listed with ⟨builtin, enabled⟩
  have addressed : forall accepts : AutomationTriggerEvent -> Bool,
      event ∈ events.filter (fun event =>
        event.watcherHint == some watcher.id && accepts event) ->
      event ∈ events ∧ event.watcherHint = some watcher.id := by
    intro accepts filtered
    rcases List.mem_filter.mp filtered with ⟨raised, suited⟩
    rw [Bool.and_eq_true] at suited
    exact ⟨raised, eq_of_beq suited.1⟩
  refine ⟨builtin, enabled, ?_⟩
  unfold eventsFor eventsForWatcher eventsForWatcherExact at given
  split at given
  · exact addressed _ given
  · exact addressed _ given
  · exact addressed _ given
  · rcases List.mem_append.mp given with thermal | memory
    · exact addressed _ thermal
    · exact addressed _ memory
  · exact addressed _ given
  · exact addressed _ given
  · cases given

/-- What a loop does is what its handlers do, call after call. -/
theorem runCalls_stays (config : AutomationsConfig) (views : Nat -> View) (handled : Nat)
    (calls : List (BuiltinWatcherSpec × AutomationTriggerEvent)) (log : Log) :
    exists runs : List (List Effect),
      handled + runs.length = (runCalls config views handled calls log).handled ∧
      (runCalls config views handled calls log).log.effects = log.effects ++ runs.flatten ∧
      forall index done, runs[index]? = some done ->
        exists watcher event, calls[index]? = some (watcher, event) ∧
          StaysInMode (views (handled + index)) watcher.id (config.effectiveWatcherMode watcher)
            event done := by
  induction calls generalizing handled log with
  | nil => exact ⟨[], rfl, (List.append_nil _).symm, fun _ _ => nofun⟩
  | cons call rest ih =>
      rcases call with ⟨watcher, event⟩
      unfold runCalls
      split
      · exact ⟨[], rfl, (List.append_nil _).symm, fun _ _ => nofun⟩
      next next success =>
        rcases handleEvent_handles success with ⟨count, few, did⟩
        rcases did.staysInMode few with ⟨first, grown, stays⟩
        rcases ih (handled + 1) next with ⟨runs, counted, effects, each⟩
        refine ⟨first :: runs, ?_, ?_, ?_⟩
        · rw [← counted, List.length_cons]
          omega
        · rw [effects, grown, List.append_assoc, List.flatten_cons]
        · intro index done at_index
          cases index with
          | zero =>
              cases at_index
              exact ⟨watcher, event, rfl, stays⟩
          | succ index =>
              rcases each index done at_index with ⟨other, arrived, called, later⟩
              have moved : handled + (index + 1) = handled + 1 + index := by omega
              rw [moved]
              exact ⟨other, arrived, called, later⟩

/-- Whatever the events, the config, the stores and the services: all that a
run does is done handling its events, each handed to the enabled watcher it is
addressed to, and each handling stays within the mode of that watcher. -/
theorem automation_stays_in_mode (config : AutomationsConfig) (views : Nat -> View)
    (events : List AutomationTriggerEvent) (log : Log) :
    exists runs : List (List Effect),
      runs.length = (evaluateWatchersForEvents config views events log).handled ∧
      (evaluateWatchersForEvents config views events log).log.effects =
        log.effects ++ runs.flatten ∧
      forall index done, runs[index]? = some done ->
        exists watcher event,
          (watcher ∈ builtinWatchers ∧ config.watcherEnabled watcher = true ∧ event ∈ events ∧
            event.watcherHint = some watcher.id) ∧
          StaysInMode (views index) watcher.id (config.effectiveWatcherMode watcher) event
            done := by
  rcases runCalls_stays config views 0 (dispatched config events) log
    with ⟨runs, counted, effects, each⟩
  refine ⟨runs, (Nat.zero_add _).symm.trans counted, effects, ?_⟩
  intro index done at_index
  rcases each index done at_index with ⟨watcher, event, called, stays⟩
  rw [Nat.zero_add] at stays
  exact ⟨watcher, event, mem_dispatched (List.mem_of_getElem? called), stays⟩

/-! ## A target the event does not name -/

def pressureConfig : AutomationsConfig where
  daemonEnabled := true
  watchers := [("gpu-thermal-protect", { enabled := true, mode := none })]

def runningServer : ManagedServiceRecord where
  serviceId := "svc-a"
  engine := "vllm"
  modelRef := "m"
  canonicalModelId := "m"
  host := "127.0.0.1"
  port := 8000
  endpointUrl := "http://127.0.0.1:8000/v1"
  mode := "managed"
  status := "ready"
  requiresApiKey := false
  lastRestartUnixMs := none
  stopRequestedUnixMs := none
  createdAtUnixMs := 0

/-- One managed server runs. -/
def oneServer : View := { emptyMachine with services := [⟨"svc-a.json", some runningServer⟩] }

def pressureRequest : LocalWebhookEventRequest where
  watcherHint := "gpu-thermal-protect"
  kind := "gpu.thermal_pressure"
  serviceId := none
  reason := none
  payload := .null

def pressureEvent : AutomationTriggerEvent where
  atUnixMs := 0
  kind := "gpu.thermal_pressure"
  source := "local_webhook"
  watcherHint := some "gpu-thermal-protect"
  serviceId := none
  reason := none
  payload := .null

def Effect.proposedService : Effect -> Option String
  | .proposal queued => queued.serviceId
  | _ => none

/-- In propose mode an accepted pressure event that names no service queues a
request to stop the server that runs. -/
theorem unnamed_pressure_targets_server :
    localWebhookEventFromRequest 0 pressureRequest = .ok pressureEvent ∧
      pressureConfig.effectiveWatcherMode ⟨"gpu-thermal-protect", .propose⟩ = .propose ∧
      pressureEvent.serviceId = none ∧ pressureEvent.payload = .null ∧
      some "svc-a" ∈ (evaluateWatchersForEvents pressureConfig (fun _ => oneServer)
        [pressureEvent] ⟨[], []⟩).log.effects.map Effect.proposedService := by
  refine ⟨rfl, by decide, rfl, rfl, ?_⟩
  decide +kernel

end Automation
end RocmCli
