import RocmCli.Runtimes.Disk

namespace RocmCli
namespace Runtimes

open Text

/-!
# Activation and rollback

Both operations decide first and write last: the registry, the runtime asked
for and the live services are read before anything is written, and then the
config and the marker are replaced, in this order.  A failed config write
needs no undoing on disk.  A failed marker write puts back the config and what
stood at the marker path when the operation began.
-/

/-! ## Services a switch leaves behind -/

structure RuntimeServiceEntry where
  serviceId : String
  engine : String
  recordedRuntime : Option String
  deriving DecidableEq, Repr

structure RuntimeServiceReconciliation where
  stale : List RuntimeServiceEntry
  unknown : List RuntimeServiceEntry
  deriving DecidableEq, Repr

inductive ServiceRuntimeState where
  | matching
  | stale (recorded : String)
  | unknown
  deriving DecidableEq, Repr

def engineManagesOwnRuntime (engine : String) : Bool := engine == "lemonade" || engine == "aim"

def runtimeManifestForSelector (manifests : List InstalledRuntimeManifest) (selector : String) :
    Option InstalledRuntimeManifest :=
  match manifests.find? fun manifest => eqIgnoreAsciiCase manifest.runtimeKey selector with
  | some manifest => some manifest
  | none =>
    match manifests.filter fun manifest => eqIgnoreAsciiCase manifest.runtimeId selector with
    | [manifest] => some manifest
    | _ => none

def classifyServiceRuntimeState (record : ManagedServiceRecord)
    (manifests : List InstalledRuntimeManifest) (runtimeKey : String) : ServiceRuntimeState :=
  if engineManagesOwnRuntime record.engine then .matching
  else
    match record.runtimeId with
    | none => .unknown
    | some recorded =>
      if recorded = runtimeKey then .matching
      else if (runtimeManifestForSelector manifests recorded).any (·.runtimeKey == runtimeKey) then
        .matching
      else .stale recorded

def reconcileServicesForRuntime (machine : Machine) (manifests : List InstalledRuntimeManifest)
    (runtimeKey : String) : Except ErrorChain RuntimeServiceReconciliation := do
  let records ← machine.loadManagedServices
  return records.foldl (fun reconciliation record =>
    if !record.isLive then reconciliation
    else
      match classifyServiceRuntimeState record manifests runtimeKey with
      | .matching => reconciliation
      | .stale recorded => { reconciliation with
          stale := reconciliation.stale ++ [⟨record.serviceId, record.engine, some recorded⟩] }
      | .unknown => { reconciliation with
          unknown := reconciliation.unknown ++ [⟨record.serviceId, record.engine, none⟩] })
    ⟨[], []⟩

/-! ## What an activation replaces -/

/-- What stood at the marker path.  No marker and a marker that could not be
read are kept apart: only the first entitles the undo to remove a file. -/
inductive MarkerSnapshot where
  | contents (bytes : Bytes)
  | absent
  | unreadable
  deriving DecidableEq, Repr

structure ActivationSnapshot where
  defaultRuntimeId : Option String
  activeRuntimeKey : Option String
  previousRuntimeKey : Option String
  marker : MarkerSnapshot
  deriving DecidableEq, Repr

def ActivationSnapshot.capture (disk : Disk) (config : RocmCliConfig) : ActivationSnapshot where
  defaultRuntimeId := config.defaultRuntimeId
  activeRuntimeKey := config.activeRuntimeKey
  previousRuntimeKey := config.previousRuntimeKey
  marker := match disk.marker with
    | .file bytes => .contents bytes
    | .absent => .absent
    | .lockedFile _ _ | .other _ => .unreadable

def ActivationSnapshot.restoreInMemory (snapshot : ActivationSnapshot) (config : RocmCliConfig) :
    RocmCliConfig :=
  { config with
    defaultRuntimeId := snapshot.defaultRuntimeId
    activeRuntimeKey := snapshot.activeRuntimeKey
    previousRuntimeKey := snapshot.previousRuntimeKey }

structure RuntimeActivationResult where
  runtimeId : String
  runtimeKey : String
  previousRuntimeKey : Option String
  reactivated : Bool
  services : RuntimeServiceReconciliation
  deriving DecidableEq, Repr

/-- What an operation decided before its first write. -/
structure SwitchPlan where
  manifest : InstalledRuntimeManifest
  previousRuntimeKey : Option String
  previousRuntimeId : Option String
  reactivated : Bool
  services : RuntimeServiceReconciliation
  deriving DecidableEq, Repr

/-- The config that names the planned runtime. -/
def SwitchPlan.switched (plan : SwitchPlan) (config : RocmCliConfig) : RocmCliConfig :=
  { config with
    defaultRuntimeId := some plan.manifest.runtimeId
    activeRuntimeKey := some plan.manifest.runtimeKey
    previousRuntimeKey := plan.previousRuntimeKey }

section Operations

variable (json : Json) (paths : AppPaths)

/-- Put the marker back as the snapshot has it. -/
def restoreMarker (machine : Machine) (snapshot : MarkerSnapshot) (marker : PathState) :
    Except ErrorChain PathState :=
  match snapshot with
  | .contents bytes =>
      replaceWhole machine.restoreMarker
        (ErrorChain.context s!"failed to create {runtimesDir paths}") (.ok bytes)
        s!"failed to restore {activeRuntimeMarkerPath paths}"
  | .absent =>
      if marker.isFile then
        match machine.removeMarker with
        | some error => .error (error.context s!"failed to remove {activeRuntimeMarkerPath paths}")
        | none => .ok .absent
      else .ok marker
  | .unreadable => .ok marker

def ActivationSnapshot.restore (machine : Machine) (snapshot : ActivationSnapshot) (disk : Disk)
    (config : RocmCliConfig) : Outcome Unit :=
  let restored := snapshot.restoreInMemory config
  match restored.save json paths machine.restoreConfig with
  | .error error => ⟨disk, restored, .error error⟩
  | .ok file =>
    match restoreMarker paths machine snapshot.marker disk.marker with
    | .error error => ⟨{ disk with config := file }, restored, .error error⟩
    | .ok marker => ⟨{ disk with config := file, marker := marker }, restored, .ok ()⟩

/-- The context of a failure that left the previous runtime active. -/
def stillActive : String :=
  "failed to record the active ROCm runtime; the previously active runtime is still the active one"

def restoreAfterFailedActivation {R : Type} (machine : Machine) (snapshot : ActivationSnapshot)
    (disk : Disk) (config : RocmCliConfig) (error : ErrorChain) : Outcome R :=
  let restored := snapshot.restore json paths machine disk config
  match restored.result with
  | .ok () => ⟨restored.disk, restored.config, .error (error.context stillActive)⟩
  | .error restoreError => ⟨restored.disk, restored.config, .error (error.context
      ("failed to record the active ROCm runtime, and restoring the previous state failed too (" ++
        s!"{restoreError.render}); the ROCm CLI config and the active runtime marker may now " ++
        "disagree. Run `rocm runtimes list` to see both, then re-run `rocm runtimes activate " ++
        "<runtime_key>` for the runtime you want to write them again"))⟩

def SwitchPlan.marker (machine : Machine) (plan : SwitchPlan) : ActiveRuntimeMarker where
  runtimeId := plan.manifest.runtimeId
  runtimeKey := plan.manifest.runtimeKey
  manifestPath := runtimeManifestPath paths plan.manifest.runtimeKey
  installRoot := plan.manifest.installRoot
  previousRuntimeId := plan.previousRuntimeId
  previousRuntimeKey := plan.previousRuntimeKey
  activatedAtUnixMs := machine.now

/-- The two writes that activation and rollback end with. -/
def recordSwitch (machine : Machine) (disk : Disk) (config : RocmCliConfig) (plan : SwitchPlan) :
    Outcome RuntimeActivationResult :=
  let snapshot := ActivationSnapshot.capture disk config
  let switched := plan.switched config
  match switched.save json paths machine.saveConfig with
  | .error error =>
      ⟨disk, snapshot.restoreInMemory switched, .error (error.context stillActive)⟩
  | .ok file =>
    let disk := { disk with config := file }
    match writeActiveRuntimeMarker json paths machine.writeMarker (plan.marker paths machine) with
    | .error error => restoreAfterFailedActivation json paths machine snapshot disk switched error
    | .ok marker => ⟨{ disk with marker := marker }, switched, .ok {
        runtimeId := plan.manifest.runtimeId
        runtimeKey := plan.manifest.runtimeKey
        previousRuntimeKey := plan.previousRuntimeKey
        reactivated := plan.reactivated
        services := plan.services }⟩

def planActivation (machine : Machine) (disk : Disk) (config : RocmCliConfig)
    (selector : String) : Except ErrorChain SwitchPlan := do
  let manifests ← loadRuntimeManifests machine disk
  let manifest ← selectRuntimeManifest manifests selector
  validateRuntimeManifestForActivation machine.files manifest
  let current := currentRuntimeManifest config manifests
  -- The runtime already in use is not left, so the recorded rollback target stays.
  let reactivating := current.any (·.runtimeKey == manifest.runtimeKey)
  let previousRuntimeKey :=
    if reactivating then config.previousRuntimeKey else current.map (·.runtimeKey)
  let previousRuntimeId :=
    if reactivating then
      (config.previousRuntimeKey.bind fun runtimeKey =>
        manifests.find? fun candidate => candidate.runtimeKey = runtimeKey).map (·.runtimeId)
    else current.map (·.runtimeId)
  let services ← withContext ("the local server records could not be read, so the switch to " ++
      s!"`{manifest.runtimeKey}` was not made and the previously active runtime is unchanged")
    (reconcileServicesForRuntime machine manifests manifest.runtimeKey)
  return ⟨manifest, previousRuntimeKey, previousRuntimeId, reactivating, services⟩

def planRollback (machine : Machine) (disk : Disk) (config : RocmCliConfig) :
    Except ErrorChain SwitchPlan := do
  let some previousKey := config.previousRuntimeKey
    | bail "no previous runtime is recorded; activate another runtime before rollback"
  let manifests ← loadRuntimeManifests machine disk
  let previous ← selectRuntimeManifest manifests previousKey
  validateRuntimeManifestForActivation machine.files previous
  let current := currentRuntimeManifest config manifests
  let newPreviousKey := (current.map (·.runtimeKey)).filter (· != previous.runtimeKey)
  let newPreviousId := (current.map (·.runtimeId)).filter fun _ => newPreviousKey.isSome
  let services ← withContext ("the local server records could not be read, so the rollback to " ++
      s!"`{previous.runtimeKey}` was not made and the previously active runtime is unchanged")
    (reconcileServicesForRuntime machine manifests previous.runtimeKey)
  return ⟨previous, newPreviousKey, newPreviousId, false, services⟩

/-- Decide, and write only what was decided. -/
def runSwitch (machine : Machine) (disk : Disk) (config : RocmCliConfig)
    (decided : Except ErrorChain SwitchPlan) : Outcome RuntimeActivationResult :=
  match decided with
  | .error error => ⟨disk, config, .error error⟩
  | .ok plan => recordSwitch json paths machine disk config plan

def activateRuntime (machine : Machine) (disk : Disk) (config : RocmCliConfig)
    (selector : String) : Outcome RuntimeActivationResult :=
  runSwitch json paths machine disk config (planActivation machine disk config selector)

def rollbackRuntime (machine : Machine) (disk : Disk) (config : RocmCliConfig) :
    Outcome RuntimeActivationResult :=
  runSwitch json paths machine disk config (planRollback machine disk config)

end Operations

/-! ## What the decisions decide -/

/-- The runtime an activation leaves, unless it is the one asked for. -/
def leftBehind (config : RocmCliConfig) (manifests : List InstalledRuntimeManifest)
    (manifest : InstalledRuntimeManifest) : Option String :=
  let current := currentRuntimeManifest config manifests
  if current.any (·.runtimeKey == manifest.runtimeKey) then config.previousRuntimeKey
  else current.map (·.runtimeKey)

/-- Every read an operation makes succeeded, and its plan is for the runtime
its selector names. -/
structure Decided (machine : Machine) (disk : Disk) (selector : String) (plan : SwitchPlan) :
    Prop where
  loaded : loadRuntimeManifests machine disk =
    .ok (sortManifestsNewestInstallFirst disk.registry)
  selected : selectRuntimeManifest (sortManifestsNewestInstallFirst disk.registry) selector =
    .ok plan.manifest
  valid : validateRuntimeManifestForActivation machine.files plan.manifest = .ok ()
  services : reconcileServicesForRuntime machine
    (sortManifestsNewestInstallFirst disk.registry) plan.manifest.runtimeKey = .ok plan.services

theorem loadRuntimeManifests_ok {machine : Machine} {disk : Disk}
    {manifests : List InstalledRuntimeManifest}
    (loaded : loadRuntimeManifests machine disk = .ok manifests) :
    manifests = sortManifestsNewestInstallFirst disk.registry := by
  unfold loadRuntimeManifests at loaded
  split at loaded
  · cases loaded
  · exact (Except.ok.inj loaded).symm

theorem planActivation_ok {machine : Machine} {disk : Disk} {config : RocmCliConfig}
    {selector : String} {plan : SwitchPlan}
    (decided : planActivation machine disk config selector = .ok plan) :
    Decided machine disk selector plan ∧
      plan.previousRuntimeKey =
        leftBehind config (sortManifestsNewestInstallFirst disk.registry) plan.manifest := by
  simp only [planActivation, bind_ok, withContext_ok] at decided
  rcases decided with
    ⟨manifests, loaded, manifest, selected, ⟨⟩, valid, services, reconciled, planned⟩
  have isSorted := loadRuntimeManifests_ok loaded
  rw [← Except.ok.inj planned, ← isSorted]
  exact ⟨⟨isSorted ▸ loaded, isSorted ▸ selected, valid, isSorted ▸ reconciled⟩, rfl⟩

theorem planRollback_ok {machine : Machine} {disk : Disk} {config : RocmCliConfig}
    {plan : SwitchPlan} (decided : planRollback machine disk config = .ok plan) :
    exists previousKey, config.previousRuntimeKey = some previousKey ∧
      Decided machine disk previousKey plan ∧
      plan.previousRuntimeKey =
        ((currentRuntimeManifest config (sortManifestsNewestInstallFirst disk.registry)).map
          (·.runtimeKey)).filter (· != plan.manifest.runtimeKey) := by
  unfold planRollback at decided
  split at decided
  next previousKey recorded =>
    simp only [bind_ok, withContext_ok] at decided
    rcases decided with
      ⟨manifests, loaded, manifest, selected, ⟨⟩, valid, services, reconciled, planned⟩
    have isSorted := loadRuntimeManifests_ok loaded
    rw [← Except.ok.inj planned, ← isSorted]
    exact ⟨previousKey, recorded,
      ⟨isSorted ▸ loaded, isSorted ▸ selected, valid, isSorted ▸ reconciled⟩, rfl⟩
  next => cases decided

/-! ## What the writes leave -/

section Writes

variable {json : Json} {paths : AppPaths} {machine : Machine} {disk : Disk}
  {config : RocmCliConfig} {plan : SwitchPlan}

theorem restoreInMemory_switched :
    (ActivationSnapshot.capture disk config).restoreInMemory (plan.switched config) = config := rfl

/-- After a marker write that failed, the marker that is put back is the one
that stood there all along. -/
theorem restoreMarker_capture (writes : machine.restoreMarker = none) :
    restoreMarker paths machine (ActivationSnapshot.capture disk config).marker disk.marker =
      .ok disk.marker := by
  cases before : disk.marker with
  | absent => simp [ActivationSnapshot.capture, before, restoreMarker, PathState.isFile]
  | file bytes =>
      simp [ActivationSnapshot.capture, before, restoreMarker, writes, replaceWhole]
  | lockedFile bytes error | other error =>
      simp [ActivationSnapshot.capture, before, restoreMarker]

/-- The ways the two writes can end. -/
inductive SwitchEnd (json : Json) (paths : AppPaths) (machine : Machine) (disk : Disk)
    (config : RocmCliConfig) (plan : SwitchPlan) : Outcome RuntimeActivationResult -> Prop where
  /-- The config could not be written. -/
  | configFailed (error : ErrorChain)
      (failed : forall file, (plan.switched config).save json paths machine.saveConfig ≠ .ok file) :
      SwitchEnd json paths machine disk config plan ⟨disk, config, .error error⟩
  /-- The marker could not be written after the config was. -/
  | markerFailed (file : PathState) (error : ErrorChain)
      (saved : (plan.switched config).save json paths machine.saveConfig = .ok file)
      (failed : writeActiveRuntimeMarker json paths machine.writeMarker
        (plan.marker paths machine) = .error error) :
      SwitchEnd json paths machine disk config plan
        (restoreAfterFailedActivation json paths machine (ActivationSnapshot.capture disk config)
          { disk with config := file } (plan.switched config) error)
  | done (file marker : PathState)
      (saved : (plan.switched config).save json paths machine.saveConfig = .ok file)
      (wrote : writeActiveRuntimeMarker json paths machine.writeMarker
        (plan.marker paths machine) = .ok marker) :
      SwitchEnd json paths machine disk config plan
        ⟨{ disk with config := file, marker := marker }, plan.switched config, .ok
          ⟨plan.manifest.runtimeId, plan.manifest.runtimeKey, plan.previousRuntimeKey,
            plan.reactivated, plan.services⟩⟩

theorem recordSwitch_end :
    SwitchEnd json paths machine disk config plan
      (recordSwitch json paths machine disk config plan) := by
  dsimp only [recordSwitch]
  split
  next error saved =>
    refine .configFailed _ fun file isSaved => ?_
    rw [saved] at isSaved
    cases isSaved
  next file saved =>
    split
    next error failed => exact .markerFailed file error saved failed
    next marker wrote => exact .done file marker saved wrote

/-- An operation that succeeds had its plan and both writes go through. -/
theorem runSwitch_ok {decided : Except ErrorChain SwitchPlan} {result : RuntimeActivationResult}
    (succeeded : (runSwitch json paths machine disk config decided).result = .ok result) :
    exists plan file marker, decided = .ok plan ∧
      (plan.switched config).save json paths machine.saveConfig = .ok file ∧
      writeActiveRuntimeMarker json paths machine.writeMarker (plan.marker paths machine) =
        .ok marker ∧
      runSwitch json paths machine disk config decided =
        ⟨{ disk with config := file, marker := marker }, plan.switched config, .ok
          ⟨plan.manifest.runtimeId, plan.manifest.runtimeKey, plan.previousRuntimeKey,
            plan.reactivated, plan.services⟩⟩ := by
  cases decided with
  | error error => cases succeeded
  | ok plan =>
      simp only [runSwitch] at succeeded ⊢
      have ends : SwitchEnd json paths machine disk config plan _ := recordSwitch_end
      generalize recordSwitch json paths machine disk config plan = outcome at ends succeeded ⊢
      cases ends with
      | configFailed error failed => cases succeeded
      | markerFailed file error saved failed =>
          unfold restoreAfterFailedActivation at succeeded
          dsimp only at succeeded
          split at succeeded <;> cases succeeded
      | done file marker saved wrote => exact ⟨plan, file, marker, rfl, saved, wrote, rfl⟩

end Writes

end Runtimes
end RocmCli
