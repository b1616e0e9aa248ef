import RocmCli.Runtimes.Registry

namespace RocmCli
namespace Runtimes

open Text

/-!
# The files that say which runtime is in use

Two files name the active and the previous runtime: the program's config and
the active-runtime marker.  Both are replaced whole, by a rename onto them.
A `Machine` is what one call meets: what it reads besides these files, and
which of its writes fail.
-/

abbrev Bytes := List UInt8

/-- The JSON library, as used on one kind of file: what it writes it reads
back.  Writing fails on what JSON cannot hold, such as a path that is not
Unicode. -/
structure JsonFile (T : Type) where
  toVecPretty : T -> Except ErrorChain Bytes
  fromSlice : Bytes -> Except ErrorChain T
  roundTrip : forall value bytes, toVecPretty value = .ok bytes -> fromSlice bytes = .ok value

/-- The library as far as a table of documents tells. -/
def JsonFile.ofTable {T : Type} [DecidableEq T] (table : List (T × Bytes))
    (distinct : (table.map Prod.snd).Nodup) : JsonFile T where
  toVecPretty value :=
    match table.find? fun entry => entry.1 = value with
    | some entry => .ok entry.2
    | none => bail "not in the table"
  fromSlice bytes :=
    match table.find? fun entry => entry.2 = bytes with
    | some entry => .ok entry.1
    | none => bail "not in the table"
  roundTrip := by
    intro value bytes written
    split at written
    next entry found =>
      have sameValue : entry.1 = value := by simpa using List.find?_some found
      have sameBytes : entry.2 = bytes := Except.ok.inj written
      have member : entry ∈ table := List.mem_of_find?_eq_some found
      split
      next other otherFound =>
        have otherBytes : other.2 = bytes := by simpa using List.find?_some otherFound
        have same : other = entry := List.inj_on_of_nodup_map distinct
          (List.mem_of_find?_eq_some otherFound) member (otherBytes.trans sameBytes.symm)
        rw [same, sameValue]
      next missing => exact absurd sameBytes (by simpa using List.find?_eq_none.mp missing entry member)
    next => cases written

/-- What stands at a path. -/
inductive PathState where
  | absent
  | file (bytes : Bytes)
  /-- A regular file that cannot be read. -/
  | lockedFile (bytes : Bytes) (error : ErrorChain)
  /-- Something else, a folder for instance, and what reading it reports. -/
  | other (error : ErrorChain)
  deriving DecidableEq, Repr

def PathState.isFile : PathState -> Bool
  | .file _ | .lockedFile _ _ => true
  | .absent | .other _ => false

/-- How a write that replaces a file whole failed: before there was a folder
to write it in, or after. -/
inductive WriteFault where
  | createDir (error : ErrorChain)
  | replace (error : ErrorChain)
  deriving DecidableEq, Repr

structure ManagedServiceRecord where
  serviceId : String
  engine : String
  runtimeId : Option String
  isLive : Bool
  deriving DecidableEq, Repr

/-- What one call meets outside the two files. -/
structure Machine where
  files : HostFiles
  now : Nat
  readRegistry : Option ErrorChain
  loadManagedServices : Except ErrorChain (List ManagedServiceRecord)
  saveConfig : Option WriteFault
  writeMarker : Option WriteFault
  restoreConfig : Option WriteFault
  restoreMarker : Option WriteFault
  removeMarker : Option ErrorChain
  /-- The manifest inside an install folder, if there is one. -/
  localManifest : String -> Except ErrorChain (Option InstalledRuntimeManifest)
  /-- A path that is empty or has no parent or no last component. -/
  isBarePath : String -> Bool
  installRootIsProtected : String -> Bool
  removeInstallRoot : Option ErrorChain
  removeRegistryEntry : Option ErrorChain

/-- Replace a file whole: make its folder, render its bytes, rename onto it. -/
def replaceWhole (fault : Option WriteFault) (inFolder : ErrorChain -> ErrorChain)
    (rendered : Except ErrorChain Bytes) (onReplace : String) : Except ErrorChain PathState :=
  match fault, rendered with
  | some (.createDir error), _ => .error (inFolder error)
  | _, .error error => .error error
  | some (.replace error), .ok _ => .error (error.context onReplace)
  | none, .ok bytes => .ok (.file bytes)

/-- The registry, one file per key, and the two files that name runtimes. -/
structure Disk where
  registry : List InstalledRuntimeManifest
  config : PathState
  marker : PathState
  deriving DecidableEq, Repr

structure AppPaths where
  configDir : String
  dataDir : String

def AppPaths.configPath (paths : AppPaths) : String := s!"{paths.configDir}/config.json"

def runtimesDir (paths : AppPaths) : String := s!"{paths.dataDir}/runtimes"

def runtimeRegistryDir (paths : AppPaths) : String := s!"{runtimesDir paths}/registry"

def runtimeManifestPath (paths : AppPaths) (runtimeKey : String) : String :=
  s!"{runtimeRegistryDir paths}/{runtimeKey}.json"

def activeRuntimeMarkerPath (paths : AppPaths) : String := s!"{runtimesDir paths}/active.json"

structure ActiveRuntimeMarker where
  runtimeId : String
  runtimeKey : String
  manifestPath : String
  installRoot : String
  previousRuntimeId : Option String
  previousRuntimeKey : Option String
  activatedAtUnixMs : Nat
  deriving DecidableEq, Repr

/-- The JSON library on the two files. -/
structure Json where
  config : JsonFile RocmCliConfig
  marker : JsonFile ActiveRuntimeMarker

/-- The end of a call: the disk and the caller's config, whatever the result. -/
structure Outcome (R : Type) where
  disk : Disk
  config : RocmCliConfig
  result : Except ErrorChain R

section Access

variable (json : Json) (paths : AppPaths)

def loadRuntimeManifests (machine : Machine) (disk : Disk) :
    Except ErrorChain (List InstalledRuntimeManifest) :=
  match machine.readRegistry with
  | some error => .error error
  | none => .ok (sortManifestsNewestInstallFirst disk.registry)

/-- A config file that is not there reads as the defaults. -/
def RocmCliConfig.load (disk : Disk) : Except ErrorChain RocmCliConfig :=
  match disk.config with
  | .absent | .other _ => .ok RocmCliConfig.default
  | .lockedFile _ error => .error (error.context s!"failed to read {paths.configPath}")
  | .file bytes =>
      withContext s!"failed to parse {paths.configPath}" (json.config.fromSlice bytes)

/-- The config file after a save, which fails without touching it. -/
def RocmCliConfig.save (fault : Option WriteFault) (config : RocmCliConfig) :
    Except ErrorChain PathState :=
  replaceWhole fault (ErrorChain.context s!"failed to create {paths.configDir}")
    (withContext "failed to serialize rocm-cli config" (json.config.toVecPretty config))
    s!"failed to save rocm-cli config to {paths.configPath}"

/-- The marker file after it is written, which fails without touching it. -/
def writeActiveRuntimeMarker (fault : Option WriteFault) (marker : ActiveRuntimeMarker) :
    Except ErrorChain PathState :=
  replaceWhole fault id
    (withContext "failed to serialize active runtime marker" (json.marker.toVecPretty marker))
    s!"failed to write {activeRuntimeMarkerPath paths}"

/-- Whether the marker names this key, up to letter case. -/
def activeRuntimeMarkerMatches (disk : Disk) (runtimeKey : String) : Except ErrorChain Bool :=
  match disk.marker with
  | .absent | .other _ => .ok false
  | .lockedFile _ error =>
      .error (error.context s!"failed to read {activeRuntimeMarkerPath paths}")
  | .file bytes => do
      let marker ← withContext s!"failed to parse {activeRuntimeMarkerPath paths}"
        (json.marker.fromSlice bytes)
      return eqIgnoreAsciiCase marker.runtimeKey runtimeKey

end Access

section Effects

variable {json : Json} {paths : AppPaths}

variable {fault : Option WriteFault} {file : PathState}

theorem replaceWhole_ok {inFolder : ErrorChain -> ErrorChain} {rendered : Except ErrorChain Bytes}
    {onReplace : String} (replaced : replaceWhole fault inFolder rendered onReplace = .ok file) :
    fault = none ∧ exists bytes, rendered = .ok bytes ∧ file = .file bytes := by
  unfold replaceWhole at replaced
  split at replaced
  next => cases replaced
  next => cases replaced
  next => cases replaced
  next bytes => exact ⟨rfl, bytes, rfl, (Except.ok.inj replaced).symm⟩

theorem withContext_ok {R : Type u} {message : String} {result : Except ErrorChain R} {value : R} :
    withContext message result = .ok value ↔ result = .ok value := by
  cases result <;> simp [withContext, Except.mapError]

/-- A save that succeeds leaves the bytes of the config. -/
theorem save_ok {config : RocmCliConfig} (saved : config.save json paths fault = .ok file) :
    exists bytes, json.config.toVecPretty config = .ok bytes ∧ file = .file bytes := by
  rcases replaceWhole_ok saved with ⟨-, bytes, rendered, isFile⟩
  exact ⟨bytes, withContext_ok.mp rendered, isFile⟩

/-- A marker write that succeeds leaves the bytes of the marker. -/
theorem writeActiveRuntimeMarker_ok {marker : ActiveRuntimeMarker}
    (wrote : writeActiveRuntimeMarker json paths fault marker = .ok file) :
    exists bytes, json.marker.toVecPretty marker = .ok bytes ∧ file = .file bytes := by
  rcases replaceWhole_ok wrote with ⟨-, bytes, rendered, isFile⟩
  exact ⟨bytes, withContext_ok.mp rendered, isFile⟩

/-- What was saved reads back. -/
theorem load_of_save {config : RocmCliConfig} (saved : config.save json paths fault = .ok file)
    (disk : Disk) :
    RocmCliConfig.load json paths { disk with config := file } = .ok config := by
  rcases save_ok saved with ⟨bytes, written, rfl⟩
  exact withContext_ok.mpr (json.config.roundTrip config bytes written)

end Effects

/-! ## The text of the two files -/

section Rendering

/-- Texts that need no escapes. -/
def jsonString (value : String) : Bytes := 0x22 :: asciiBytes value ++ [0x22]

def jsonOption : Option String -> Bytes
  | none => asciiBytes "null"
  | some value => jsonString value

/-- A pretty-printed object, member by member. -/
def jsonMembers (indent : String) : List (String × Bytes) -> Bytes
  | [] => []
  | [(name, value)] => asciiBytes indent ++ jsonString name ++ [0x3a, 0x20] ++ value ++ [0x0a]
  | (name, value) :: rest =>
      asciiBytes indent ++ jsonString name ++ [0x3a, 0x20] ++ value ++ [0x2c, 0x0a] ++
        jsonMembers indent rest

def configText (config : RocmCliConfig) : Bytes :=
  [0x7b, 0x0a] ++ jsonMembers "  " [
    ("default_runtime_id", jsonOption config.defaultRuntimeId),
    ("active_runtime_key", jsonOption config.activeRuntimeKey),
    ("previous_runtime_key", jsonOption config.previousRuntimeKey),
    ("onboarding_dismissed", asciiBytes (toString config.onboardingDismissed)),
    ("setup", [0x7b, 0x0a] ++ jsonMembers "    " [
      ("completed", asciiBytes (toString config.setup.completed)),
      ("therock_venv", jsonOption config.setup.therockVenv),
      ("cli_install_dir", jsonOption config.setup.cliInstallDir)] ++ [0x20, 0x20, 0x7d])] ++ [0x7d]

def markerText (marker : ActiveRuntimeMarker) : Bytes :=
  [0x7b, 0x0a] ++ jsonMembers "  " [
    ("runtime_id", jsonString marker.runtimeId),
    ("runtime_key", jsonString marker.runtimeKey),
    ("manifest_path", jsonString marker.manifestPath),
    ("install_root", jsonString marker.installRoot),
    ("previous_runtime_id", jsonOption marker.previousRuntimeId),
    ("previous_runtime_key", jsonOption marker.previousRuntimeKey),
    ("activated_at_unix_ms", asciiBytes (toString marker.activatedAtUnixMs))] ++ [0x7d]

/-- The library on these configs and markers, as it writes them. -/
def Json.ofDocuments (configs : List RocmCliConfig) (markers : List ActiveRuntimeMarker)
    (distinctConfigs : (configs.map configText).Nodup)
    (distinctMarkers : (markers.map markerText).Nodup) : Json where
  config := .ofTable (configs.map fun config => (config, configText config))
    (by simpa [Function.comp_def] using distinctConfigs)
  marker := .ofTable (markers.map fun marker => (marker, markerText marker))
    (by simpa [Function.comp_def] using distinctMarkers)

/-- A machine where every file an install needs is there and every write goes
through. -/
def Machine.sound (now : Nat) : Machine where
  files := ⟨fun _ => true, fun _ => true, fun _ => true, fun _ => .ok true, fun left right =>
    left == right⟩
  now := now
  readRegistry := none
  loadManagedServices := .ok []
  saveConfig := none
  writeMarker := none
  restoreConfig := none
  restoreMarker := none
  removeMarker := none
  localManifest := fun _ => .ok none
  isBarePath := fun _ => false
  installRootIsProtected := fun _ => false
  removeInstallRoot := none
  removeRegistryEntry := none

/-- A tarball install, as far as its names and its age matter. -/
def tarballRuntime (runtimeKey runtimeId : String) (installedAtUnixMs : Nat) :
    InstalledRuntimeManifest :=
  ⟨runtimeKey, runtimeId, "tarball", "r/" ++ runtimeKey, none, none, false, none,
    installedAtUnixMs⟩

end Rendering

end Runtimes
end RocmCli
