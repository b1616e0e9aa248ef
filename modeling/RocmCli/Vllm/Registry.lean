import RocmCli.Support.FileTree
import RocmCli.Vllm.Violations

namespace RocmCli
namespace Vllm

open Files (FilePath)

/-!
# The runtimes vLLM can be installed into

The registry holds one manifest a runtime.  The command line names a runtime by
its key; the engine is handed that key and reads the registry by itself: every
manifest whose key or id begins with the text it was given, newest install
first.  The manifests here are the readable ones.  Every interpreter and root
is an absolute path.
-/

/-- What the `rocm_sdk` probe recorded in a manifest. -/
structure RocmSdkRuntimeProbe where
  importOk : Bool
  rootPath : Option FilePath
  binPath : Option FilePath
  binPaths : List FilePath
  libraryPaths : List FilePath
  rocmSdkVersion : Option Line
  deriving DecidableEq, Repr

/-- A manifest as the command line reads it. -/
structure InstalledRuntimeManifest where
  runtimeKey : Line
  runtimeId : Line
  version : Line
  installRoot : FilePath
  indexUrl : Option Line
  pythonExecutable : Option FilePath
  rocmSdk : Option RocmSdkRuntimeProbe
  sdkTorch : Option Line
  installedAtUnixMs : Nat
  deriving DecidableEq, Repr

/-- A manifest as the engine reads it, where every field may be missing. -/
structure TheRockRuntimeManifest where
  runtimeKey : Option Line
  runtimeId : Option Line
  pythonExecutable : Option FilePath
  rocmSdk : Option RocmSdkRuntimeProbe
  version : Option Line
  sdkTorch : Option Line
  installedAtUnixMs : Option Nat
  deriving DecidableEq, Repr

/-- The engine's reading of a manifest the command line reads too. -/
def InstalledRuntimeManifest.asEngineReads (manifest : InstalledRuntimeManifest) :
    TheRockRuntimeManifest where
  runtimeKey := some manifest.runtimeKey
  runtimeId := some manifest.runtimeId
  pythonExecutable := manifest.pythonExecutable
  rocmSdk := manifest.rocmSdk
  version := some manifest.version
  sdkTorch := manifest.sdkTorch
  installedAtUnixMs := some manifest.installedAtUnixMs

/-- A registry: its manifests in the order the folder lists them, each with the
path of its file, no two under one key. -/
structure Registry where
  manifests : List (FilePath × InstalledRuntimeManifest)
  distinct : (manifests.map fun entry => entry.2.runtimeKey).Nodup

/-! ## The engine's reading -/

def runtimeMatches (manifest : TheRockRuntimeManifest) (requested : Line) : Bool :=
  let requested := trim requested
  if requested.isEmpty then true
  else
    let requested := requested.map Char.toLower
    if requested == "external".toList || requested == "external-vllm".toList then false
    else
      [manifest.runtimeId, manifest.runtimeKey].any fun name =>
        match name with
        | none => false
        | some candidate => requested.isPrefixOf (candidate.map Char.toLower)

/-- Newest install first, ties by key and then by path. -/
def installedBefore (left right : FilePath × TheRockRuntimeManifest) : Bool :=
  ((compare (right.2.installedAtUnixMs.getD 0) (left.2.installedAtUnixMs.getD 0)).then
    ((compare left.2.runtimeKey right.2.runtimeKey).then (compare left.1 right.1))) != .gt

def sortManifestsNewestInstallFirst (manifests : List (FilePath × TheRockRuntimeManifest)) :
    List (FilePath × TheRockRuntimeManifest) :=
  manifests.insertionSort fun left right => installedBefore left right

def loadRuntimeManifests (registry : Registry) (runtimeId : Line) : List TheRockRuntimeManifest :=
  let read := registry.manifests.map fun entry => (entry.1, entry.2.asEngineReads)
  let found := read.filter fun entry => runtimeMatches entry.2 runtimeId
  (sortManifestsNewestInstallFirst found).map Prod.snd

/-- The build in the local segment of the torch the SDK install wrote, or the
one TheRock names after the SDK's version. -/
def sdkTorchBuildFromManifest (manifest : TheRockRuntimeManifest) : Option Line :=
  match manifest.sdkTorch.bind fun recorded => (splitLocalVersion recorded).2 with
  | some build => some build
  | none =>
    match (manifest.rocmSdk.bind (·.rocmSdkVersion)).or manifest.version with
    | none => none
    | some version => if (trim version).isEmpty then none else some ("rocm".toList ++ version)

def rocmSdkVersionFromManifest (manifest : TheRockRuntimeManifest) : Option Line :=
  match (manifest.rocmSdk.bind (·.rocmSdkVersion)).or manifest.version with
  | none => none
  | some version => if (trim version).isEmpty then none else some version

/-- The build of the first runtime that answers to an id. -/
def recordedSdkTorchBuild (registry : Registry) (runtimeId : Line) : Option Line :=
  (loadRuntimeManifests registry runtimeId).head?.bind sdkTorchBuildFromManifest

/-! ## The command line's reading -/

def runtimeManifestForSelector (manifests : List InstalledRuntimeManifest) (selector : Line) :
    Option InstalledRuntimeManifest :=
  match manifests.find? fun manifest => eqIgnoreAsciiCase manifest.runtimeKey selector with
  | some manifest => some manifest
  | none =>
    match manifests.filter fun manifest => eqIgnoreAsciiCase manifest.runtimeId selector with
    | [manifest] => some manifest
    | _ => none

/-- The number of bytes a path is spelled in. -/
def spelledLength (path : FilePath) : Nat :=
  if path.isEmpty then 1
  else (path.map fun name => 1 + (name.map Char.utf8Size).sum).sum

/-- A path as it stands and as the file system resolves it. -/
def bothForms (canonicalize : FilePath -> Option FilePath) (path : FilePath) : List FilePath :=
  match canonicalize path with
  | some resolved => if resolved != path then [path, resolved] else [path]
  | none => [path]

/-- The last of the manifests with the longest root. -/
def longestRoot (manifests : List InstalledRuntimeManifest) : Option InstalledRuntimeManifest :=
  manifests.foldl (fun longest manifest =>
    match longest with
    | none => some manifest
    | some kept =>
        if spelledLength kept.installRoot ≤ spelledLength manifest.installRoot then some manifest
        else some kept) none

/-- The key of the runtime whose install root an interpreter lies in. -/
def runtimeKeyOwningPython (canonicalize : FilePath -> Option FilePath)
    (manifests : List InstalledRuntimeManifest) (python : FilePath) : Option Line :=
  let pythons := bothForms canonicalize python
  let owning := manifests.filter fun manifest =>
    (bothForms canonicalize manifest.installRoot).any fun root =>
      pythons.any fun python => root.isPrefixOf python
  (longestRoot owning).map (·.runtimeKey)

/-- The registry in the order the command line reads it. -/
def Registry.installed (registry : Registry) : List InstalledRuntimeManifest :=
  (registry.manifests.map Prod.snd).insertionSort fun left right =>
    (compare right.installedAtUnixMs left.installedAtUnixMs).then
      (compare left.runtimeKey right.runtimeKey) != .gt

def sdkTorchBuildForKey (registry : Registry) (runtimeKey : Line) : Option Line :=
  (runtimeManifestForSelector registry.installed runtimeKey).bind fun manifest =>
    sdkTorchBuildFromManifest manifest.asEngineReads

def runtimeIndexUrlForKey (registry : Registry) (runtimeKey : Line) : Option Line :=
  (runtimeManifestForSelector registry.installed runtimeKey).bind (·.indexUrl)

end Vllm
end RocmCli
