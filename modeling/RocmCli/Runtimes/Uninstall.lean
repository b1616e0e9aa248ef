import RocmCli.Runtimes.Activation

namespace RocmCli
namespace Runtimes

open Text

/-!
# Removing a runtime

A removal is planned against the registry and then applied: the install folder
(when the program owns it), the registry entry, what the config says of the
runtime, and the marker if it names the runtime.
-/

inductive InstallRootDecision where
  | remove
  | readOnly
  | manifestMismatch
  deriving DecidableEq, Repr

def InstallRootDecision.shouldRemove : InstallRootDecision -> Bool
  | .remove => true
  | .readOnly | .manifestMismatch => false

structure RuntimeUninstallPlan where
  manifest : InstalledRuntimeManifest
  registryPath : String
  wasActive : Bool
  clearsDefaultRuntime : Bool
  installRootDecision : InstallRootDecision
  deriving DecidableEq, Repr

structure RuntimeUninstallResult where
  runtimeId : String
  runtimeKey : String
  registryPath : String
  removedInstallRoot : Option String
  readOnly : Bool
  manifestMismatch : Bool
  wasActive : Bool
  defaultRuntimeCleared : Bool
  deriving DecidableEq, Repr

section Operations

variable (json : Json) (paths : AppPaths)

def localRuntimeManifestMatches (machine : Machine) (manifest : InstalledRuntimeManifest) :
    Except ErrorChain Bool := do
  match ← machine.localManifest (localManifestPath manifest) with
  | none => return false
  | some local' => return local'.runtimeKey == manifest.runtimeKey &&
      local'.runtimeId == manifest.runtimeId &&
      machine.files.pathsEquivalent local'.installRoot manifest.installRoot

def ensureRuntimeInstallRootIsSafeToRemove (machine : Machine) (path : String) :
    Except ErrorChain Unit := do
  if machine.isBarePath path then bail s!"refusing to remove unsafe runtime folder {path}"
  if machine.installRootIsProtected path then
    bail s!"refusing to remove runtime folder {path} in a protected system location"

def shouldRemoveRuntimeInstallRoot (machine : Machine) (manifest : InstalledRuntimeManifest) :
    Except ErrorChain InstallRootDecision := do
  if manifest.readOnly || manifest.importedFrom.isSome then return .readOnly
  if !(← localRuntimeManifestMatches machine manifest) then return .manifestMismatch
  ensureRuntimeInstallRootIsSafeToRemove machine manifest.installRoot
  return .remove

/-- The default runtime id goes with the runtime in use, or with the last
runtime that has it. -/
def clearsDefaultRuntime (config : RocmCliConfig) (manifests : List InstalledRuntimeManifest)
    (manifest : InstalledRuntimeManifest) (wasActive : Bool) : Bool :=
  config.defaultRuntimeId.any (eqIgnoreAsciiCase · manifest.runtimeId) &&
    (wasActive || !manifests.any fun other =>
      other.runtimeKey != manifest.runtimeKey &&
        eqIgnoreAsciiCase other.runtimeId manifest.runtimeId)

def planRuntimeUninstall (machine : Machine) (disk : Disk) (config : RocmCliConfig)
    (selector : String) : Except ErrorChain RuntimeUninstallPlan := do
  let manifests ← loadRuntimeManifests machine disk
  let manifest ← selectRuntimeManifest manifests selector
  let wasActive :=
    (currentRuntimeManifest config manifests).any (·.runtimeKey == manifest.runtimeKey)
  let decision ← shouldRemoveRuntimeInstallRoot machine manifest
  return {
    manifest := manifest
    registryPath := runtimeManifestPath paths manifest.runtimeKey
    wasActive := wasActive
    clearsDefaultRuntime := clearsDefaultRuntime config manifests manifest wasActive
    installRootDecision := decision }

/-- Drop a reference to the runtime, whatever the letter case. -/
def withoutKey (runtimeKey : String) (reference : Option String) : Option String :=
  reference.filter fun key => !eqIgnoreAsciiCase key runtimeKey

/-- Whether the setup's environment is the runtime's install folder. -/
def isSetupRuntime (machine : Machine) (config : RocmCliConfig)
    (manifest : InstalledRuntimeManifest) : Bool :=
  config.setup.therockVenv.any (machine.files.pathsEquivalent · manifest.installRoot)

/-- The config once it no longer speaks of the runtime. -/
def forgetRuntime (machine : Machine) (plan : RuntimeUninstallPlan) (config : RocmCliConfig) :
    RocmCliConfig :=
  let isSetup := isSetupRuntime machine config plan.manifest
  { defaultRuntimeId := if plan.clearsDefaultRuntime then none else config.defaultRuntimeId
    activeRuntimeKey := withoutKey plan.manifest.runtimeKey config.activeRuntimeKey
    previousRuntimeKey := withoutKey plan.manifest.runtimeKey config.previousRuntimeKey
    onboardingDismissed := if isSetup then false else config.onboardingDismissed
    setup := if isSetup then { config.setup with completed := false, therockVenv := none }
      else config.setup }

/-- Whether forgetting the runtime changes anything worth a save. -/
def mentionsRuntime (machine : Machine) (plan : RuntimeUninstallPlan) (config : RocmCliConfig) :
    Bool :=
  config.activeRuntimeKey.any (eqIgnoreAsciiCase · plan.manifest.runtimeKey) ||
    config.previousRuntimeKey.any (eqIgnoreAsciiCase · plan.manifest.runtimeKey) ||
    plan.clearsDefaultRuntime || isSetupRuntime machine config plan.manifest

/-- Remove the marker if it names the runtime. -/
def removeMarkerOf (machine : Machine) (disk : Disk) (runtimeKey : String) :
    Except ErrorChain PathState := do
  if ← activeRuntimeMarkerMatches json paths disk runtimeKey then
    match machine.removeMarker with
    | some error =>
        .error (error.context
          s!"failed to remove active runtime marker {activeRuntimeMarkerPath paths}")
    | none => return .absent
  else return disk.marker

/-- The part of a removal after the install folder is dealt with. -/
def unregisterRuntime (machine : Machine) (disk : Disk) (config : RocmCliConfig)
    (plan : RuntimeUninstallPlan) (result : RuntimeUninstallResult) :
    Outcome RuntimeUninstallResult :=
  match machine.removeRegistryEntry with
  | some error => ⟨disk, config, .error
      (error.context s!"failed to remove runtime registry entry {plan.registryPath}")⟩
  | none =>
    let disk := { disk with
      registry := disk.registry.filter (·.runtimeKey != plan.manifest.runtimeKey) }
    let forgotten := forgetRuntime machine plan config
    let saved :=
      if mentionsRuntime machine plan config then forgotten.save json paths machine.saveConfig
      else .ok disk.config
    match saved with
    | .error error => ⟨disk, forgotten, .error error⟩
    | .ok file =>
      let disk := { disk with config := file }
      match removeMarkerOf json paths machine disk plan.manifest.runtimeKey with
      | .error error => ⟨disk, forgotten, .error error⟩
      | .ok marker => ⟨{ disk with marker := marker }, forgotten, .ok result⟩

def applyRuntimeUninstall (machine : Machine) (disk : Disk) (config : RocmCliConfig)
    (plan : RuntimeUninstallPlan) : Outcome RuntimeUninstallResult :=
  let removing :=
    plan.installRootDecision.shouldRemove && machine.files.exists' plan.manifest.installRoot
  let result : RuntimeUninstallResult :=
    { runtimeId := plan.manifest.runtimeId
      runtimeKey := plan.manifest.runtimeKey
      registryPath := plan.registryPath
      removedInstallRoot := if removing then some plan.manifest.installRoot else none
      readOnly := plan.manifest.readOnly
      manifestMismatch := plan.installRootDecision == .manifestMismatch
      wasActive := plan.wasActive
      defaultRuntimeCleared := plan.clearsDefaultRuntime }
  match (if removing then machine.removeInstallRoot else none) with
  | some error => ⟨disk, config, .error (error.context
      (s!"failed to remove runtime folder {plan.manifest.installRoot} - the runtime registry entry " ++
        "has not been removed yet, so `rocm runtimes list` will still show this runtime as installed " ++
        "and pointing at this (now possibly partially deleted) folder until the removal succeeds"))⟩
  | none => unregisterRuntime json paths machine disk config plan result

def uninstallRuntime (machine : Machine) (disk : Disk) (config : RocmCliConfig)
    (selector : String) : Outcome RuntimeUninstallResult :=
  match planRuntimeUninstall paths machine disk config selector with
  | .error error => ⟨disk, config, .error error⟩
  | .ok plan => applyRuntimeUninstall json paths machine disk config plan

end Operations

/-! ## What a removal does -/

section Effects

variable {json : Json} {paths : AppPaths} {machine : Machine} {disk : Disk}
  {config : RocmCliConfig}

theorem planRuntimeUninstall_ok {selector : String} {plan : RuntimeUninstallPlan}
    (planned : planRuntimeUninstall paths machine disk config selector = .ok plan) :
    selectRuntimeManifest (sortManifestsNewestInstallFirst disk.registry) selector =
        .ok plan.manifest ∧
      plan.wasActive =
        ((currentRuntimeManifest config (sortManifestsNewestInstallFirst disk.registry)).any
          (·.runtimeKey == plan.manifest.runtimeKey)) ∧
      plan.clearsDefaultRuntime = clearsDefaultRuntime config
        (sortManifestsNewestInstallFirst disk.registry) plan.manifest plan.wasActive := by
  simp only [planRuntimeUninstall, bind_ok] at planned
  rcases planned with ⟨manifests, loaded, manifest, selected, decision, -, isPlan⟩
  rw [← Except.ok.inj isPlan, ← loadRuntimeManifests_ok loaded]
  exact ⟨selected, rfl, rfl⟩

/-- A removal that succeeds leaves the registry without the runtime, a config
that no longer speaks of it, and the marker unless it named the runtime. -/
theorem uninstallRuntime_ok {selector : String} {result : RuntimeUninstallResult}
    (succeeded : (uninstallRuntime json paths machine disk config selector).result = .ok result) :
    exists plan file marker, planRuntimeUninstall paths machine disk config selector = .ok plan ∧
      removeMarkerOf json paths machine disk plan.manifest.runtimeKey = .ok marker ∧
      uninstallRuntime json paths machine disk config selector =
        ⟨⟨disk.registry.filter (·.runtimeKey != plan.manifest.runtimeKey), file, marker⟩,
          forgetRuntime machine plan config, .ok result⟩ := by
  unfold uninstallRuntime at succeeded ⊢
  split at succeeded
  next => cases succeeded
  next plan planned =>
    dsimp only [applyRuntimeUninstall] at succeeded ⊢
    split at succeeded
    next => cases succeeded
    next removed =>
      dsimp only [unregisterRuntime] at succeeded ⊢
      split at succeeded
      next => cases succeeded
      next =>
        split at succeeded
        next => cases succeeded
        next file saved =>
          split at succeeded
          next => cases succeeded
          next marker removedMarker =>
            refine ⟨plan, file, marker, planned, removedMarker, ?_⟩
            exact congrArg (Outcome.mk _ _) succeeded

end Effects

end Runtimes
end RocmCli
