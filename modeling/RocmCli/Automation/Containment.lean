import RocmCli.Automation.Dispatch

namespace RocmCli
namespace Automation

/-!
# When every event is handled

The loop over the watchers ends at the first handler that fails, and the daemon
with it.  Four of the handlers always succeed.  Server recovery fails when the
record of the event's service cannot be loaded, and the GPU pressure watcher
when that fails or when the proposals it checks for an earlier request do not
parse; nothing else ends the loop.
-/

/-! ## Handling a call -/

/-- A service has a record of its own in the services folder. -/
structure OwnRecord (view : View) (serviceId : String) (record : ManagedServiceRecord) : Prop where
  valid : ToolPolicy.validateServiceId serviceId = .ok ()
  held : exists file,
    view.services.find? (fun file => file.name == serviceId ++ ".json") = some file ∧
      file.record = some record
  named : record.serviceId = serviceId

/-- The server a pressure event asks to stop. -/
def PressureTarget (view : View) (event : AutomationTriggerEvent)
    (record : ManagedServiceRecord) : Prop :=
  match namedService event with
  | some serviceId => OwnRecord view serviceId record ∧ activePressureTarget record = true
  | none => (loadManagedServices view).filter activePressureTarget = [record]

/-- What has to hold outside the daemon for a call to be handled. -/
def CallSucceeds (view : View) (watcherId : String) (mode : WatcherMode)
    (event : AutomationTriggerEvent) : Prop :=
  match watcherId with
  | "server-recover" =>
      exists serviceId record, event.serviceId = some serviceId ∧ OwnRecord view serviceId record
  | "gpu-thermal-protect" =>
      mode = .observe ∨
        (forall serviceId, namedService event = some serviceId ->
          exists record, OwnRecord view serviceId record) ∧
        (forall record, PressureTarget view event record ->
          exists proposals, view.proposals = .ok proposals)
  | _ => True

/-- The loop came to its end and every event was handled by each watcher it is
addressed to. -/
def AllHandled (config : AutomationsConfig) (events : List AutomationTriggerEvent)
    (evaluation : Evaluation) : Prop :=
  evaluation.result = .ok () ∧ evaluation.handled = (dispatched config events).length

theorem loadServiceRecord_ok {view : View} {serviceId : String} {record : ManagedServiceRecord} :
    loadServiceRecord view serviceId = .ok record ↔ OwnRecord view serviceId record := by
  unfold loadServiceRecord
  constructor
  · intro loaded
    split at loaded
    · cases loaded
    next valid =>
      split at loaded
      · cases loaded
      next file found =>
        split at loaded
        · cases loaded
        next parsed holds =>
          split at loaded
          next named =>
            cases loaded
            exact ⟨valid, ⟨file, found, holds⟩, named⟩
          · cases loaded
  · intro own
    rcases own.held with ⟨file, found, holds⟩
    rw [own.valid, found]
    dsimp only
    rw [holds]
    exact if_pos own.named

/-- Recovery needs the record of the service the event names, whatever it then does. -/
theorem handleServerRecoverEvent_ok (view : View) (mode : WatcherMode)
    (event : AutomationTriggerEvent) (log : Log) :
    (exists next, handleServerRecoverEvent view mode event log = .ok next) ↔
      CallSucceeds view "server-recover" mode event := by
  unfold handleServerRecoverEvent
  cases named : event.serviceId with
  | none =>
      dsimp only [CallSucceeds]
      rw [named]
      constructor
      · rintro ⟨next, impossible⟩
        cases impossible
      · rintro ⟨serviceId, record, impossible, own⟩
        cases impossible
  | some serviceId =>
      dsimp only [CallSucceeds]
      rw [named]
      constructor
      · rintro ⟨next, handled⟩
        rcases bind_ok.mp handled with ⟨record, loaded, rest⟩
        exact ⟨serviceId, record, rfl, loadServiceRecord_ok.mp loaded⟩
      · rintro ⟨other, record, same, own⟩
        cases same
        rw [loadServiceRecord_ok.mpr own]
        by_cases needed : serviceRecordMatchesRecoveryEvent view record event = true
        · exact ⟨_, if_pos needed⟩
        · exact ⟨_, if_neg needed⟩

theorem resolveGpuPressureServiceTarget_some {view : View} {event : AutomationTriggerEvent}
    {record : ManagedServiceRecord} :
    resolveGpuPressureServiceTarget view event = .ok (some record) ↔
      PressureTarget view event record := by
  unfold resolveGpuPressureServiceTarget PressureTarget
  cases namedService event with
  | some serviceId =>
      dsimp only
      constructor
      · intro resolved
        rcases bind_ok.mp resolved with ⟨loaded, own, chosen⟩
        by_cases active : activePressureTarget loaded = true
        · rw [if_pos active] at chosen
          cases chosen
          exact ⟨loadServiceRecord_ok.mp own, active⟩
        · rw [if_neg active] at chosen
          cases chosen
      · rintro ⟨own, active⟩
        rw [loadServiceRecord_ok.mpr own]
        exact congrArg Except.ok (if_pos active)
  | none =>
      dsimp only
      constructor
      · intro resolved
        split at resolved
        next only single =>
          cases resolved
          exact single
        · cases resolved
      · intro single
        rw [single]

/-- A target is resolved unless the event names a service without a record. -/
theorem resolveGpuPressureServiceTarget_ok {view : View} {event : AutomationTriggerEvent} :
    (exists target, resolveGpuPressureServiceTarget view event = .ok target) ↔
      forall serviceId, namedService event = some serviceId ->
        exists record, OwnRecord view serviceId record := by
  unfold resolveGpuPressureServiceTarget
  cases namedService event with
  | some serviceId =>
      dsimp only
      constructor
      · rintro ⟨target, resolved⟩ other same
        cases same
        rcases bind_ok.mp resolved with ⟨record, loaded, rest⟩
        exact ⟨record, loadServiceRecord_ok.mp loaded⟩
      · intro owned
        rcases owned serviceId rfl with ⟨record, own⟩
        rw [loadServiceRecord_ok.mpr own]
        exact ⟨_, rfl⟩
  | none =>
      dsimp only
      constructor
      · intro resolved serviceId impossible
        cases impossible
      · intro nothing
        split
        · exact ⟨_, rfl⟩
        · exact ⟨_, rfl⟩

theorem pendingProposalExists_ok {view : View} {watcherId serviceId action tool : String} :
    (exists pending, pendingProposalExists view watcherId serviceId action tool = .ok pending) ↔
      exists proposals, view.proposals = .ok proposals := by
  unfold pendingProposalExists
  cases view.proposals with
  | ok proposals => exact ⟨fun _ => ⟨proposals, rfl⟩, fun _ => ⟨_, rfl⟩⟩
  | error error => exact ⟨nofun, nofun⟩

/-- The pressure watcher only records in observe mode; otherwise it needs its
target and the proposals. -/
theorem handleGpuThermalProtectEvent_ok (view : View) (mode : WatcherMode)
    (event : AutomationTriggerEvent) (log : Log) :
    (exists next, handleGpuThermalProtectEvent view mode event log = .ok next) ↔
      CallSucceeds view "gpu-thermal-protect" mode event := by
  unfold handleGpuThermalProtectEvent
  dsimp only [CallSucceeds]
  by_cases observing : mode = .observe
  · rw [if_pos observing]
    exact ⟨fun _ => .inl observing, fun _ => ⟨_, rfl⟩⟩
  · rw [if_neg observing]
    constructor
    · rintro ⟨next, handled⟩
      rcases bind_ok.mp handled with ⟨target, resolved, rest⟩
      refine .inr ⟨resolveGpuPressureServiceTarget_ok.mp ⟨target, resolved⟩, ?_⟩
      intro record targeted
      rw [resolveGpuPressureServiceTarget_some.mpr targeted] at resolved
      cases resolved
      rcases bind_ok.mp rest with ⟨pending, checked, outcome⟩
      exact pendingProposalExists_ok.mp ⟨pending, checked⟩
    · rintro (impossible | ⟨owned, readable⟩)
      · exact absurd impossible observing
      · rcases resolveGpuPressureServiceTarget_ok.mpr owned with ⟨target, resolved⟩
        rw [resolved]
        cases target with
        | none => exact ⟨_, rfl⟩
        | some record =>
            rcases pendingProposalExists_ok.mpr
              (readable record (resolveGpuPressureServiceTarget_some.mp resolved))
              with ⟨pending, checked⟩
            dsimp only [bind, Except.bind]
            rw [checked]
            cases pending with
            | true => exact ⟨_, rfl⟩
            | false => exact ⟨_, rfl⟩

theorem handleEvent_ok (view : View) (watcherId : String) (mode : WatcherMode)
    (event : AutomationTriggerEvent) (log : Log) :
    (exists next, handleEvent view watcherId mode event log = .ok next) ↔
      CallSucceeds view watcherId mode event := by
  by_cases recovery : watcherId = "server-recover"
  · rw [recovery]
    exact handleServerRecoverEvent_ok view mode event log
  · by_cases pressure : watcherId = "gpu-thermal-protect"
    · rw [pressure]
      exact handleGpuThermalProtectEvent_ok view mode event log
    · have needsNothing : CallSucceeds view watcherId mode event := by
        unfold CallSucceeds
        split
        · exact absurd rfl recovery
        · exact absurd rfl pressure
        · trivial
      have succeeds : exists next, handleEvent view watcherId mode event log = .ok next := by
        unfold handleEvent
        split
        · exact ⟨_, rfl⟩
        · exact absurd rfl recovery
        · exact ⟨_, rfl⟩
        · exact absurd rfl pressure
        · exact ⟨_, rfl⟩
        · exact ⟨_, rfl⟩
        · exact ⟨_, rfl⟩
      exact ⟨fun _ => needsNothing, fun _ => succeeds⟩

/-! ## The loop -/

/-- The loop handles all its calls exactly when each of them finds what it
needs, at the time it is made. -/
theorem runCalls_all_iff (config : AutomationsConfig) (views : Nat -> View) (handled : Nat)
    (calls : List (BuiltinWatcherSpec × AutomationTriggerEvent)) (log : Log) :
    ((runCalls config views handled calls log).result = .ok () ∧
        (runCalls config views handled calls log).handled = handled + calls.length) ↔
      forall index watcher event, calls[index]? = some (watcher, event) ->
        CallSucceeds (views (handled + index)) watcher.id (config.effectiveWatcherMode watcher)
          event := by
  induction calls generalizing handled log with
  | nil => exact ⟨fun _ => nofun, fun _ => ⟨rfl, rfl⟩⟩
  | cons call rest ih =>
      rcases call with ⟨watcher, event⟩
      have spec := handleEvent_ok (views handled) watcher.id
        (config.effectiveWatcherMode watcher) event log
      unfold runCalls
      split
      next error failed =>
        constructor
        · rintro ⟨impossible, count⟩
          cases impossible
        · intro succeeds
          rcases spec.mpr (succeeds 0 watcher event rfl) with ⟨next, impossible⟩
          rw [failed] at impossible
          cases impossible
      next next done =>
        have shifted : handled + (rest.length + 1) = handled + 1 + rest.length := by omega
        rw [List.length_cons, shifted, ih (handled + 1) next]
        constructor
        · intro later index other arrived at_index
          cases index with
          | zero =>
              cases at_index
              exact spec.mp ⟨next, done⟩
          | succ index =>
              have moved : handled + (index + 1) = handled + 1 + index := by omega
              rw [moved]
              exact later index other arrived at_index
        · intro succeeds index other arrived at_index
          have moved : handled + 1 + index = handled + (index + 1) := by omega
          rw [moved]
          exact succeeds (index + 1) other arrived at_index

/-- The daemon stays up and every event is handled, whether the events are
given or collected, exactly when each call finds what its handler reads without
containing a failure: recovery the record of its service, the pressure watcher
outside observe mode that record too and, for a server it would stop, proposals
that parse. -/
theorem automation_survives_iff (config : AutomationsConfig) (views : Nat -> View)
    (events : List AutomationTriggerEvent) (log : Log) (scan : View) :
    (AllHandled config events (evaluateWatchersForEvents config views events log) ↔
      forall index watcher event, (dispatched config events)[index]? = some (watcher, event) ->
        CallSucceeds (views index) watcher.id (config.effectiveWatcherMode watcher) event) ∧
    (AllHandled config (collectAutomationEvents scan log.activeWatchers)
        (evaluateWatchers config scan views log) ↔
      forall index watcher event,
        (dispatched config (collectAutomationEvents scan log.activeWatchers))[index]? =
          some (watcher, event) ->
        CallSucceeds (views index) watcher.id (config.effectiveWatcherMode watcher) event) := by
  have loop := fun given => runCalls_all_iff config views 0 (dispatched config given) log
  simp only [Nat.zero_add] at loop
  exact ⟨loop events, loop (collectAutomationEvents scan log.activeWatchers)⟩

/-! ## A service that ends the daemon -/

/-- Recovery alone is enabled. -/
def recoveryConfig : AutomationsConfig where
  daemonEnabled := true
  watchers := [("server-recover", { enabled := true, mode := none })]

/-- A machine without services, proposals, tools or a GPU. -/
def emptyMachine : View where
  now := 0
  services := []
  proposals := .ok []
  healthcheck := fun _ _ => .error (ErrorChain.ofMessage "no engine")
  portAnswers := fun _ _ => false
  hasEndpointKey := fun _ => false
  restart := fun _ => .error (ErrorChain.ofMessage "no engine")
  artifactExists := fun _ => .ok false
  runTool := fun _ _ => .error (ErrorChain.ofMessage "no tool")
  gpuSnapshot := ⟨false, false, none, .null, []⟩

/-- A failed service in a file of another name. -/
def misnamedService : View :=
  { emptyMachine with
    services := [⟨"x.json", some ⟨"y", "vllm", "m", "m", "127.0.0.1", 8000, "http://127.0.0.1:8000",
      "managed", "failed", false, none, none, 0⟩⟩] }

/-- Recovery has not done anything yet. -/
def quietLog : Log := ⟨[⟨"server-recover", true, none, none⟩], []⟩

/-- What the scan collects ends the loop with an error. -/
theorem misnamed_service_ends_daemon :
    ¬ AllHandled recoveryConfig (collectAutomationEvents misnamedService quietLog.activeWatchers)
      (evaluateWatchers recoveryConfig misnamedService (fun _ => misnamedService) quietLog) := by
  rintro ⟨succeeds, count⟩
  have fails : (evaluateWatchers recoveryConfig misnamedService (fun _ => misnamedService)
      quietLog).result.isOk = false := by decide +kernel
  rw [succeeds] at fails
  cases fails

end Automation
end RocmCli
