import RocmCli.Runtimes.Uninstall
import RocmCli.Support.Runs

namespace RocmCli
namespace Runtimes

open Text Runs

/-!
# Removing old installs

The config is loaded once, before the question whether to go on.  Each entry
of the plan is then checked again against the registry and the marker as they
are by then, but against the config as it was, and the same config is written
back by the removals.  Other processes run between any two of the steps.
-/

/-- What decides whether a runtime is held back from removal. -/
structure RetentionInputs where
  activeRuntimeKey : Option String
  previousRuntimeKey : Option String
  defaultRuntimeId : Option String
  markerRuntimeKeys : List String
  deriving DecidableEq, Repr

def RetentionInputs.fromConfig (config : RocmCliConfig) (marker : Option ActiveRuntimeMarker) :
    RetentionInputs where
  activeRuntimeKey := config.activeRuntimeKey
  previousRuntimeKey := config.previousRuntimeKey
  defaultRuntimeId := config.defaultRuntimeId
  markerRuntimeKeys := match marker with
    | none => []
    | some marker => marker.runtimeKey :: marker.previousRuntimeKey.toList

def matchesIgnoreCase (value : Option String) (other : String) : Bool :=
  value.any (eqIgnoreAsciiCase · other)

/-- The runtime that the default id names, if it names just one. -/
def resolvedDefaultRuntimeKey (manifests : List InstalledRuntimeManifest)
    (inputs : RetentionInputs) : Option String :=
  match inputs.defaultRuntimeId with
  | none => none
  | some defaultRuntimeId =>
    match manifests.filter fun manifest =>
        eqIgnoreAsciiCase manifest.runtimeId defaultRuntimeId with
    | [first] => some first.runtimeKey
    | _ => none

inductive HoldReason where
  | active
  | previous
  | default
  | marker
  | notOwned
  | withinKeepLimit
  deriving DecidableEq, Repr

def unconditionalHold (manifest : InstalledRuntimeManifest) (inputs : RetentionInputs)
    (defaultKey : Option String) : Option HoldReason :=
  let key := manifest.runtimeKey
  if matchesIgnoreCase inputs.activeRuntimeKey key then some .active
  else if matchesIgnoreCase inputs.previousRuntimeKey key then some .previous
  else if matchesIgnoreCase defaultKey key then some .default
  else if inputs.markerRuntimeKeys.any (eqIgnoreAsciiCase · key) then some .marker
  else if manifest.readOnly || manifest.importedFrom.isSome then some .notOwned
  else none

/-- A marker that cannot be read or parsed counts as none. -/
def readActiveRuntimeMarker (json : Json) (disk : Disk) : Option ActiveRuntimeMarker :=
  match disk.marker with
  | .file bytes => (json.marker.fromSlice bytes).toOption
  | .absent | .lockedFile _ _ | .other _ => none

/-- The hold of an entry that is still registered. -/
def holdOf (config : RocmCliConfig) (manifests : List InstalledRuntimeManifest)
    (marker : Option ActiveRuntimeMarker) (runtimeKey : String) : Option HoldReason :=
  let inputs := RetentionInputs.fromConfig config marker
  match manifests.find? (·.runtimeKey == runtimeKey) with
  | none => none
  | some manifest =>
      unconditionalHold manifest inputs (resolvedDefaultRuntimeKey manifests inputs)

/-! ## Steps -/

/-- How far a prune is.  From `loaded` on it holds the config it loaded. -/
inductive PrunePhase where
  | started
  | loaded (config : RocmCliConfig)
  | planned (config : RocmCliConfig) (remove : List String)
  | atEntry (config : RocmCliConfig) (entry : String) (rest : List String)
  | reloaded (config : RocmCliConfig) (entry : String) (rest : List String)
      (manifests : List InstalledRuntimeManifest)
  | markerRead (config : RocmCliConfig) (entry : String) (rest : List String)
      (manifests : List InstalledRuntimeManifest) (marker : Option ActiveRuntimeMarker)
  | passed (config : RocmCliConfig) (entry : String) (rest : List String)
  | done
  deriving DecidableEq, Repr

structure PruneState where
  disk : Disk
  phase : PrunePhase
  deriving DecidableEq, Repr

/-- The steps of a prune, and whatever another process does as a whole.  The
plan is any choice of runtimes. -/
inductive PruneAction where
  | load
  | plan (remove : List String)
  | answer (approved : Bool)
  | reload (machine : Machine)
  | readMarker
  | check
  | uninstall (machine : Machine)
  | other (disk : Disk)

def nextEntry (config : RocmCliConfig) : List String -> PrunePhase
  | [] => .done
  | entry :: rest => .atEntry config entry rest

section Steps

variable (json : Json) (paths : AppPaths)

def pruneStep (state : PruneState) (action : PruneAction) : PruneState :=
  match action, state.phase with
  | .load, .started =>
      match RocmCliConfig.load json paths state.disk with
      | .error _ => { state with phase := .done }
      | .ok config => { state with phase := .loaded config }
  | .plan remove, .loaded config =>
      { state with phase := if remove.isEmpty then .done else .planned config remove }
  | .answer approved, .planned config remove =>
      { state with phase := if approved then nextEntry config remove else .done }
  | .reload machine, .atEntry config entry rest =>
      match loadRuntimeManifests machine state.disk with
      | .error _ => { state with phase := .done }
      | .ok manifests => { state with phase := .reloaded config entry rest manifests }
  | .readMarker, .reloaded config entry rest manifests =>
      let marker := readActiveRuntimeMarker json state.disk
      { state with phase := .markerRead config entry rest manifests marker }
  | .check, .markerRead config entry rest manifests marker =>
      { state with phase := match holdOf config manifests marker entry with
        | some _ => nextEntry config rest
        | none => .passed config entry rest }
  | .uninstall machine, .passed config entry rest =>
      let outcome := uninstallRuntime json paths machine state.disk config entry
      { disk := outcome.disk
        phase := match outcome.result with
          | .error _ => .done
          | .ok _ => nextEntry outcome.config rest }
  | .other disk, _ => { state with disk := disk }
  | _, _ => state

/-! ## What is claimed, and of which runs -/

/-- A marker that another process leaves is the one that was there, or it
names the active and the previous runtime of the config beside it. -/
def MarkerMatches (before after : Disk) : Prop :=
  after.marker = before.marker ∨
    forall config marker, RocmCliConfig.load json paths after = .ok config ->
      readActiveRuntimeMarker json after = some marker ->
      config.activeRuntimeKey = some marker.runtimeKey ∧
        config.previousRuntimeKey = marker.previousRuntimeKey

/-- What is promised of every other process. -/
def Promised (state : PruneState) : PruneAction -> Prop
  | .other disk => MarkerMatches json paths state.disk disk
  | _ => True

/-- Neither the active, the previous or the default runtime of the config on
disk nor one that the marker on disk names, whatever the letter case. -/
structure NotInUse (disk : Disk) (runtimeKey : String) (config : RocmCliConfig) : Prop where
  loaded : RocmCliConfig.load json paths disk = .ok config
  active : matchesIgnoreCase config.activeRuntimeKey runtimeKey = false
  previous : matchesIgnoreCase config.previousRuntimeKey runtimeKey = false
  default : matchesIgnoreCase (resolvedDefaultRuntimeKey
    (sortManifestsNewestInstallFirst disk.registry) (.fromConfig config none)) runtimeKey = false
  marker : forall marker, readActiveRuntimeMarker json disk = some marker ->
    eqIgnoreAsciiCase marker.runtimeKey runtimeKey = false ∧
      matchesIgnoreCase marker.previousRuntimeKey runtimeKey = false

/-- A config differs from an earlier one only in what that one said of the
runtime. -/
structure OnlyForgets (machine : Machine) (manifest : InstalledRuntimeManifest)
    (before after : RocmCliConfig) : Prop where
  active : after.activeRuntimeKey = before.activeRuntimeKey ∨
    matchesIgnoreCase before.activeRuntimeKey manifest.runtimeKey = true ∧
      after.activeRuntimeKey = none
  previous : after.previousRuntimeKey = before.previousRuntimeKey ∨
    matchesIgnoreCase before.previousRuntimeKey manifest.runtimeKey = true ∧
      after.previousRuntimeKey = none
  default : after.defaultRuntimeId = before.defaultRuntimeId ∨
    matchesIgnoreCase before.defaultRuntimeId manifest.runtimeId = true ∧
      after.defaultRuntimeId = none
  setup : after.setup = before.setup ∧ after.onboardingDismissed = before.onboardingDismissed ∨
    isSetupRuntime machine before manifest = true ∧
      after.setup = { before.setup with completed := false, therockVenv := none } ∧
      after.onboardingDismissed = false

/-- What pruning does at a state is safe: an entry passes its check only when
it is not in use on disk, and a removal that writes the config keeps all that
the config on disk says of other runtimes. -/
structure PrunesSafely (state : PruneState) : Prop where
  check : forall config entry rest manifests marker,
    state.phase = .markerRead config entry rest manifests marker ->
    (pruneStep json paths state .check).phase = .passed config entry rest ->
    exists current, NotInUse json paths state.disk entry current
  write : forall machine config entry rest, state.phase = .passed config entry rest ->
    (pruneStep json paths state (.uninstall machine)).disk.config ≠ state.disk.config ->
    exists manifest before after, manifest ∈ state.disk.registry ∧
      manifest ∉ (pruneStep json paths state (.uninstall machine)).disk.registry ∧
      RocmCliConfig.load json paths state.disk = .ok before ∧
      RocmCliConfig.load json paths (pruneStep json paths state (.uninstall machine)).disk =
        .ok after ∧
      OnlyForgets machine manifest before after

/-- The config that a prune holds. -/
def PrunePhase.held : PrunePhase -> Option RocmCliConfig
  | .started | .done => none
  | .loaded config | .planned config _ | .atEntry config _ _ | .reloaded config _ _ _
  | .markerRead config _ _ _ _ | .passed config _ _ => some config

/-- Between the reload of the registry for an entry and its check. -/
def PrunePhase.checking : PrunePhase -> Bool
  | .reloaded _ _ _ _ | .markerRead _ _ _ _ _ => true
  | .started | .loaded _ | .planned _ _ | .atEntry _ _ _ | .passed _ _ _ | .done => false

/-- While a prune holds a config nobody else changes it, nobody changes the
registry in the middle of a check, and a planned runtime is still registered
when it is looked up. -/
def Undisturbed (state : PruneState) : PruneAction -> Prop
  | .other disk =>
      (state.phase.held ≠ none ->
        RocmCliConfig.load json paths disk = RocmCliConfig.load json paths state.disk) ∧
      (state.phase.checking = true -> disk.registry = state.disk.registry)
  | .reload _ => forall config entry rest, state.phase = .atEntry config entry rest ->
      exists manifest, manifest ∈ state.disk.registry ∧ manifest.runtimeKey = entry
  | _ => True

end Steps

end Runtimes
end RocmCli
