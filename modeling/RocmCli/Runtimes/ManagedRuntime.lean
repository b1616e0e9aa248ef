import RocmCli.Runtimes.RegistryFiles
import RocmCli.Support.Listings

namespace RocmCli
namespace Runtimes

open Text Paths

/-!
# The active runtime, as the core library reads it

The core library reads the registry folder by itself, with every field
optional, and takes the runtime in use from it: the record that matches the
active key by its key or its id, and otherwise the one that was installed last.
The command line reads the same files as manifests of installed runtimes.
-/

/-! ## Records -/

/-- What the `rocm_sdk` probe left in a registry file. -/
structure TheRockSdkProbeManifest where
  importOk : Bool
  rootPath : Option String
  binPath : Option String
  runtimeRoots : List String
  binPaths : List String
  libraryPaths : List String
  deriving DecidableEq, Repr

structure TheRockFamilyManifest where
  runtimeKey : Option String
  runtimeId : Option String
  family : Option String
  therockFamily : Option String
  channel : Option String
  version : Option String
  rocmSdk : Option TheRockSdkProbeManifest
  installRoot : Option String
  pythonExecutable : Option String
  installedAtUnixMs : Option Nat
  deriving DecidableEq, Repr

/-- A file of a registry folder and what its two readers make of it.  A manifest
that both can read has one key and one id. -/
structure RegistryFile where
  name : PathText
  family : Option TheRockFamilyManifest
  installed : Option InstalledRuntimeManifest
  sameNames : forall record manifest, family = some record -> installed = some manifest ->
    record.runtimeKey = some manifest.runtimeKey ∧ record.runtimeId = some manifest.runtimeId

/-- A folder of registry files, in some order. -/
structure RegistryFolder where
  files : List RegistryFile
  distinct : (files.map (·.name)).Nodup

/-! ## Families -/

/-- The first token of a text that begins with `gfx`, in lower case. -/
def extractFirstGfxToken (text : String) : Option String :=
  let isPart := fun character : Char =>
    character.isAlphanum || character == '-' || character == '_'
  let tokens := (text.toList.splitOnP fun character => !isPart character).map
    fun token => String.ofList (token.map Char.toLower)
  tokens.find? fun token => "gfx".isPrefixOf token

def normalizeTherockFamily (value : String) : Option String :=
  let normalized := String.ofList ((trim value).toList.map Char.toLower)
  if normalized = "" then none
  else
    let target := (extractFirstGfxToken normalized).getD normalized
    if target = "gfx101x-dgpu" then some "gfx101X-dgpu"
    else if target = "gfx103x-dgpu" then some "gfx103X-dgpu"
    else if target = "gfx110x-all" then some "gfx110X-all"
    else if target = "gfx120x-all" then some "gfx120X-all"
    else if target = "gfx90x-dgpu" then some "gfx90X-dgpu"
    else if target = "gfx94x-dcgpu" then some "gfx94X-dcgpu"
    else if target = "gfx950-dcgpu" then some "gfx950-dcgpu"
    else if "gfx101".isPrefixOf target then some "gfx101X-dgpu"
    else if "gfx103".isPrefixOf target then some "gfx103X-dgpu"
    else if target = "gfx1100" ∨ target = "gfx1101" ∨ target = "gfx1102" ∨ target = "gfx1103" then
      some "gfx110X-all"
    else if "gfx1150".isPrefixOf target then some "gfx1150"
    else if "gfx1151".isPrefixOf target then some "gfx1151"
    else if "gfx1152".isPrefixOf target then some "gfx1152"
    else if "gfx1153".isPrefixOf target then some "gfx1153"
    else if target = "gfx1200" ∨ target = "gfx1201" then some "gfx120X-all"
    else if "gfx125".isPrefixOf target then some "gfx125X-dcgpu"
    else if "gfx900".isPrefixOf target then some "gfx900"
    else if "gfx906".isPrefixOf target then some "gfx906"
    else if "gfx908".isPrefixOf target then some "gfx908"
    else if "gfx90a".isPrefixOf target then some "gfx90a"
    else if "gfx950".isPrefixOf target then some "gfx950-dcgpu"
    else if "gfx942".isPrefixOf target ∨ "gfx94".isPrefixOf target ∨
        "gfx9-4".isPrefixOf target then
      some "gfx94X-dcgpu"
    else if "gfx90c".isPrefixOf target then none
    else if "gfx90".isPrefixOf target then some "gfx90X-dcgpu"
    else none

def TheRockFamilyManifest.looksLikeTherock (record : TheRockFamilyManifest) : Bool :=
  record.therockFamily.isSome ||
    record.runtimeId.any fun runtimeId =>
      "therock-".toList.isPrefixOf (runtimeId.toList.map Char.toLower)

def TheRockFamilyManifest.therockFamilyName (record : TheRockFamilyManifest) : Option String :=
  if record.looksLikeTherock then (record.therockFamily.or record.family).bind normalizeTherockFamily
  else none

def newerTherockFamily : Option (Nat × String) -> Option (Nat × String) -> Option (Nat × String)
  | some left, some right => if right.1 < left.1 then some left else some right
  | none, some right => some right
  | some left, none => some left
  | none, none => none

/-- The record of a listed file, if the core library can read it. -/
def recordOf (file : RegistryFile) : Option TheRockFamilyManifest :=
  if hasJsonExtension file.name then file.family else none

/-- The family that a file names, and when it was installed. -/
def familyOf (file : RegistryFile) : Option (Nat × String) :=
  (recordOf file).bind fun record =>
    record.therockFamilyName.map fun family => (record.installedAtUnixMs.getD 0, family)

def newestTherockFamilyInManifestDir (listing : List RegistryFile) : Option (Nat × String) :=
  (listing.filterMap familyOf).foldl (fun best found => newerTherockFamily best (some found)) none

/-- Every engine has a folder of manifests of its own. -/
def newestTherockFamilyInEngineManifests (engines : List (List RegistryFile)) :
    Option (Nat × String) :=
  engines.foldl (fun best manifests =>
    newerTherockFamily best (newestTherockFamilyInManifestDir manifests)) none

def detectManagedTherockFamily (listing : List RegistryFile) (engines : List (List RegistryFile)) :
    Option String :=
  (newerTherockFamily (newestTherockFamilyInManifestDir listing)
    (newestTherockFamilyInEngineManifests engines)).map Prod.snd

/-! ## The active record -/

abbrev NamedRecord := PathText × TheRockFamilyManifest

/-- Newest install first, ties by key and then by path. -/
def installOrder (entry : NamedRecord) : Natᵒᵈ ×ₗ WithBot String ×ₗ PathText :=
  toLex (OrderDual.toDual (entry.2.installedAtUnixMs.getD 0),
    toLex ((entry.2.runtimeKey : WithBot String), entry.1))

def sortRecordsNewestInstallFirst (records : List NamedRecord) : List NamedRecord :=
  Listings.sortBy installOrder records

/-- The record of a file that can be the active runtime. -/
def environmentRecordOf (file : RegistryFile) : Option NamedRecord :=
  (recordOf file).bind fun record =>
    if record.looksLikeTherock && record.rocmSdk.any (·.importOk) then some (file.name, record)
    else none

def managedTherockEnvironmentRecords (listing : List RegistryFile) : List NamedRecord :=
  listing.filterMap environmentRecordOf

/-- The active key names a record by its key or by its id. -/
def matchesActive (activeKey : String) (record : TheRockFamilyManifest) : Bool :=
  record.runtimeKey.any (eqIgnoreAsciiCase · activeKey) ||
    record.runtimeId.any (eqIgnoreAsciiCase · activeKey)

def selectActiveManagedTherockRecord (config : RocmCliConfig) (listing : List RegistryFile) :
    Option TheRockFamilyManifest :=
  let records := managedTherockEnvironmentRecords listing
  let byActiveKey := config.activeRuntimeKey.bind fun activeKey =>
    records.find? fun entry => matchesActive activeKey entry.2
  match byActiveKey with
  | some entry => some entry.2
  | none => ((sortRecordsNewestInstallFirst records).head?).map Prod.snd

/-! ## What is derived from it -/

structure ManagedRuntimeEnvironment where
  rocmRoot : Option String
  pathEntries : List String
  libraryEntries : List String
  deriving DecidableEq, Repr

structure FrameworkInterpreter where
  python : String
  libraryPaths : List String
  deriving DecidableEq, Repr

/-- The host that the paths of a record are looked up on. -/
structure RuntimeHost where
  platform : RuntimePlatform
  separator : PathSeparator
  files : HostFiles
  /-- A path with one more component. -/
  join : String -> String -> String
  /-- Two texts are one path. -/
  samePath : String -> String -> Bool

section Derived

variable (host : RuntimeHost)

def pushExistingRuntimePath (paths : List String) (path : String) : List String :=
  if !host.files.exists' path || paths.any (host.samePath · path) then paths else paths ++ [path]

def collectRuntimeEnvironmentPaths (root : String) (env : ManagedRuntimeEnvironment) :
    ManagedRuntimeEnvironment :=
  let lib := host.join root "lib"
  let folders := [(host.join root "bin", true), (lib, false), (host.join root "lib64", false),
    (host.join (host.join lib "rocm_sysdeps") "lib", false)]
  folders.foldl (fun env folder =>
    if host.files.isDir folder.1 then
      { env with
        pathEntries := if folder.2 then pushExistingRuntimePath host env.pathEntries folder.1
          else env.pathEntries
        libraryEntries := pushExistingRuntimePath host env.libraryEntries folder.1 }
    else env) env

def managedTherockEnvironmentFromRecord (record : TheRockFamilyManifest) :
    ManagedRuntimeEnvironment :=
  let env : ManagedRuntimeEnvironment :=
    ⟨(record.rocmSdk.bind (·.rootPath)).or record.installRoot, [], []⟩
  let env := match record.rocmSdk with
    | none => env
    | some sdk =>
        let env := { env with
          pathEntries := (sdk.binPath.toList ++ sdk.binPaths).foldl (pushExistingRuntimePath host)
            env.pathEntries
          libraryEntries := sdk.libraryPaths.foldl (pushExistingRuntimePath host)
            env.libraryEntries }
        (sdk.rootPath.toList ++ sdk.runtimeRoots).foldl
          (fun env root => collectRuntimeEnvironmentPaths host root env) env
  let env := record.installRoot.toList.foldl
    (fun env root => collectRuntimeEnvironmentPaths host root env) env
  if host.platform = .linux then
    { env with
      libraryEntries := pushExistingRuntimePath host env.libraryEntries "/usr/lib/wsl/lib" }
  else env

def normalizeRuntimePathForHost (path : String) : String :=
  String.ofList (normalizeRuntimePathTextForPlatform host.platform host.separator path.toList)

def runtimePythonExecutableInEnv (envRoot : String) : String :=
  let windows := host.platform.isWindows
  host.join (host.join (normalizeRuntimePathForHost host envRoot)
    (if windows then "Scripts" else "bin")) (if windows then "python.exe" else "python")

def managedTherockPythonExecutable (record : TheRockFamilyManifest) : Option String :=
  ((record.pythonExecutable.map (normalizeRuntimePathForHost host)).toList ++
    (record.installRoot.map (runtimePythonExecutableInEnv host)).toList).find? host.files.isFile

variable (config : RocmCliConfig) (listing : List RegistryFile)

def activeManagedTherockEnvironment : Option ManagedRuntimeEnvironment :=
  (selectActiveManagedTherockRecord config listing).map (managedTherockEnvironmentFromRecord host)

def activeManagedTherockChannel : Option String :=
  (selectActiveManagedTherockRecord config listing).bind (·.channel)

def activeManagedTherockVersion : Option String :=
  (selectActiveManagedTherockRecord config listing).bind (·.version)

def activeManagedFrameworkInterpreter : Option FrameworkInterpreter :=
  (selectActiveManagedTherockRecord config listing).bind fun record =>
    (managedTherockPythonExecutable host record).map fun python =>
      ⟨python, (managedTherockEnvironmentFromRecord host record).libraryEntries⟩

end Derived

/-! ## The candidates of the probe -/

structure TheRockSdkProbeCandidate where
  rootPath : String
  libraryPaths : List String
  deriving DecidableEq, Repr

def sdkReady (record : TheRockFamilyManifest) : Bool :=
  record.rocmSdk.any fun sdk => sdk.importOk && sdk.rootPath.isSome && sdk.binPath.isSome

def readyRecordOf (file : RegistryFile) : Option NamedRecord :=
  (recordOf file).bind fun record =>
    if record.looksLikeTherock && sdkReady record then some (file.name, record) else none

def managedTherockSdkProbeCandidates (listing : List RegistryFile) :
    List TheRockSdkProbeCandidate :=
  (sortRecordsNewestInstallFirst (listing.filterMap readyRecordOf)).filterMap fun entry =>
    entry.2.rocmSdk.bind fun sdk => sdk.rootPath.map fun root => ⟨root, sdk.libraryPaths⟩

/-! ## What the command line takes -/

/-- The manifest of a listed file, if the command line can read it. -/
def installedOf (file : RegistryFile) : Option InstalledRuntimeManifest :=
  if hasJsonExtension file.name then file.installed else none

/-- The runtimes that the command line reads from the folder. -/
def installedRuntimes (listing : List RegistryFile) : List InstalledRuntimeManifest :=
  sortManifestsNewestInstallFirst (listing.filterMap installedOf)

/-- What the config remembers of one engine. -/
structure EngineConfig where
  preferredEnvId : Option String
  preferredRuntimeId : Option String
  lastInstalledEnvId : Option String
  lastInstalledRuntimeId : Option String
  deriving DecidableEq, Repr

structure EngineSelection where
  runtimeId : Option String
  envId : Option String
  source : Option String
  deriving DecidableEq, Repr

def resolveEngineSelection (config : RocmCliConfig) (entry : Option EngineConfig)
    (runtimeId envId : Option String) : EngineSelection :=
  let ofEntry := entry.bind fun entry =>
    (entry.preferredEnvId.map fun env =>
        (⟨none, some env, some "config_preferred_env_id"⟩ : EngineSelection)).or
      ((entry.preferredRuntimeId.map fun runtime =>
        (⟨some runtime, none, some "config_preferred_runtime_id"⟩ : EngineSelection)).or
      ((entry.lastInstalledEnvId.map fun env =>
        (⟨none, some env, some "config_last_installed_env_id"⟩ : EngineSelection)).or
      (entry.lastInstalledRuntimeId.map fun runtime =>
        (⟨some runtime, none, some "config_last_installed_runtime_id"⟩ : EngineSelection))))
  match envId, runtimeId, config.activeRuntimeKey, ofEntry, config.defaultRuntimeId with
  | some env, _, _, _, _ => ⟨none, some env, some "cli_env_id"⟩
  | none, some runtime, _, _, _ => ⟨some runtime, none, some "cli_runtime_id"⟩
  | none, none, some key, _, _ => ⟨some key, none, some "config_active_runtime_key"⟩
  | none, none, none, some selection, _ => selection
  | none, none, none, none, some runtime => ⟨some runtime, none, some "config_default_runtime_id"⟩
  | none, none, none, none, none => ⟨none, none, none⟩

end Runtimes
end RocmCli
