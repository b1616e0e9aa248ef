import RocmCli.Runtimes.Disk
import RocmCli.Support.FileTree
import RocmCli.Paths.Places

namespace RocmCli
namespace Runtimes

open Text Paths Files

/-!
# The files of the registry

Registering a runtime writes one file, named after its key, and reading the
registry lists a folder.  The key is part of a path, so a key with separators
in it names some other file.  Paths are resolved as on Unix; which spellings of
a name the file system takes for one name is a parameter.
-/

/-- The part of the host that registering a runtime depends on. -/
structure RegistryHost where
  rules : NameRules
  platform : RuntimePlatform
  separator : PathSeparator
  json : JsonFile InstalledRuntimeManifest
  /-- The working folder. -/
  current : FilePath
  registryDir : FilePath
  registryPlain : forall name, name ∈ registryDir -> '/' ∉ name

/-! ## Paths of manifests -/

/-- The path a text names, below a folder unless it is absolute. -/
def locate (base : FilePath) (text : PathText) : FilePath :=
  (text.splitOn '/').foldl descend (if text.head? = some '/' then [] else base)

/-- The folders on the way to a path, from the root down, as its text goes. -/
def foldersOnTheWay (base : FilePath) (text : PathText) : List FilePath :=
  let start := if text.head? = some '/' then [] else base
  start.inits ++ ((text.splitOn '/').dropLast.inits.map fun parts => parts.foldl descend start)

def jsonExtension : PathText := ".json".toList

/-- Whether the extension of a file name is `json`. -/
def hasJsonExtension (name : PathText) : Bool :=
  jsonExtension.isSuffixOf name && jsonExtension.length < name.length

def manifestFileName (runtimeKey : String) : PathText := runtimeKey.toList ++ jsonExtension

/-! ## Manifests -/

/-- Rewrite every path of a manifest. -/
def InstalledRuntimeManifest.mapPaths (f : String -> String) (manifest : InstalledRuntimeManifest) :
    InstalledRuntimeManifest where
  runtimeKey := manifest.runtimeKey
  runtimeId := manifest.runtimeId
  format := manifest.format
  installRoot := f manifest.installRoot
  pythonExecutable := manifest.pythonExecutable.map f
  rocmSdk := manifest.rocmSdk.map fun probe =>
    { probe with
      rootPath := probe.rootPath.map f
      binPath := probe.binPath.map f
      resolvedLibraries := probe.resolvedLibraries.map fun library =>
        { library with paths := library.paths.map f } }
  readOnly := manifest.readOnly
  importedFrom := manifest.importedFrom.map f
  installedAtUnixMs := manifest.installedAtUnixMs

def InstalledRuntimeManifest.ownsInstallRoot (manifest : InstalledRuntimeManifest) : Bool :=
  !manifest.readOnly && manifest.importedFrom.isNone

inductive ManifestOverwrite where
  | replace
  | refuse
  deriving DecidableEq, Repr

def ManifestOverwrite.forReplaceFlag (replace : Bool) : ManifestOverwrite :=
  if replace then .replace else .refuse

section Operations

variable (host : RegistryHost)

def normalizeHostPaths : InstalledRuntimeManifest -> InstalledRuntimeManifest :=
  InstalledRuntimeManifest.mapPaths fun path =>
    String.ofList (normalizeRuntimePathTextForPlatform host.platform host.separator path.toList)

/-- Storage is spelled with backslashes on Windows. -/
def normalizeStoragePaths : InstalledRuntimeManifest -> InstalledRuntimeManifest :=
  InstalledRuntimeManifest.mapPaths fun path =>
    String.ofList (normalizeRuntimePathTextForPlatform host.platform .backslash path.toList)

def registryFile (runtimeKey : String) : FilePath :=
  locate host.registryDir (manifestFileName runtimeKey)

/-- The registry path as messages show it. -/
def registryPathText (runtimeKey : String) : String :=
  let name := manifestFileName runtimeKey
  String.ofList (if name.head? = some '/' then name
    else '/' :: List.intercalate ['/'] (host.registryDir ++ [name]))

/-- Where the manifest inside the install root is. -/
def installRootFile (manifest : InstalledRuntimeManifest) : FilePath :=
  locate host.current manifest.installRoot.toList ++ [".rocm-cli-runtime.json".toList]

/-- Whether anything stands at the registry path: every folder of its text has
to be there. -/
def registryFileExists (tree : FileTree) (runtimeKey : String) : Bool :=
  (foldersOnTheWay host.registryDir (manifestFileName runtimeKey)).all
      (tree.isFolder host.rules) &&
    (tree.node host.rules (registryFile host runtimeKey)).isSome

def installRootManifestIsCurrent (existing encoded : Bytes) : Bool :=
  existing == encoded ||
    match host.json.fromSlice existing with
    | .error _ => false
    | .ok decoded =>
      match host.json.toVecPretty (normalizeStoragePaths host decoded) with
      | .error _ => false
      | .ok normalised => normalised == encoded

/-- Which of the file writes fail for a reason outside the tree.  A write
happens whole or not at all. -/
structure RegistryFaults where
  createDir : Option ErrorChain
  installRootWrite : Option ErrorChain
  registryWrite : Option ErrorChain

/-- The end of a registration: the files, the paths of those it wrote, and the
result. -/
structure Registration where
  tree : FileTree
  written : List FilePath
  result : Except ErrorChain Unit

def writeFile (tree : FileTree) (path : FilePath) (bytes : Bytes) (fault : Option ErrorChain) :
    Except ErrorChain FileTree :=
  match fault with
  | some error => .error error
  | none => tree.write host.rules path bytes

/-- The manifest in the install root of an owned runtime, unless it is current. -/
def writeInstallRootManifest (tree : FileTree) (manifest : InstalledRuntimeManifest)
    (encoded : Bytes) (fault : Option ErrorChain) : Except ErrorChain (FileTree × List FilePath) :=
  if manifest.ownsInstallRoot then
    let path := installRootFile host manifest
    let alreadyCurrent := match tree.node host.rules path with
      | some (.file existing) => installRootManifestIsCurrent host existing encoded
      | some .folder | none => false
    if alreadyCurrent then .ok (tree, [])
    else
      (withContext s!"failed to write {localManifestPath manifest}"
        (writeFile host tree path encoded fault)).map fun tree => (tree, [path])
  else .ok (tree, [])

def writeRuntimeManifest (tree : FileTree) (manifest : InstalledRuntimeManifest)
    (overwrite : ManifestOverwrite) (faults : RegistryFaults) : Registration :=
  let manifest := normalizeStoragePaths host manifest
  let path := registryFile host manifest.runtimeKey
  if overwrite = .refuse ∧ registryFileExists host tree manifest.runtimeKey = true then
    ⟨tree, [], bail ("runtime registry entry already exists: " ++
      registryPathText host manifest.runtimeKey ++ "; pass --replace to overwrite it")⟩
  else
    match faults.createDir with
    | some error => ⟨tree, [], .error error⟩
    | none =>
      let (tree, created) := tree.createDirAll host.rules
        (foldersOnTheWay host.registryDir (manifestFileName manifest.runtimeKey))
      match created with
      | .error error => ⟨tree, [], .error error⟩
      | .ok () =>
        match host.json.toVecPretty manifest with
        | .error error => ⟨tree, [], .error (error.context "failed to serialize runtime manifest")⟩
        | .ok encoded =>
          match writeInstallRootManifest host tree manifest encoded faults.installRootWrite with
          | .error error => ⟨tree, [], .error error⟩
          | .ok (tree, written) =>
            match writeFile host tree path encoded faults.registryWrite with
            | .error error =>
                ⟨tree, written, .error (error.context
                  ("failed to write " ++ registryPathText host manifest.runtimeKey))⟩
            | .ok tree => ⟨tree, written ++ [path], .ok ()⟩

/-- An entry of the registry folder that a load reads. -/
def isListed (entry : FilePath × Node) : Bool :=
  entry.1.getLast?.any hasJsonExtension &&
    FileTree.samePath host.rules entry.1.dropLast host.registryDir

/-- The manifest a listed file holds; a file that does not parse is passed
over. -/
def manifestOf (entry : FilePath × Node) : Option InstalledRuntimeManifest :=
  if isListed host entry then
    match entry.2 with
    | .folder => none
    | .file bytes => (host.json.fromSlice bytes).toOption.map (normalizeHostPaths host)
  else none

/-- A folder that is not there has no entries, and a folder among the listed
entries cannot be read as a file. -/
def loadManifestFiles (tree : FileTree) : Except ErrorChain (List InstalledRuntimeManifest) :=
  if tree.any fun entry => isListed host entry && entry.2 == .folder then
    bail "failed to read"
  else .ok (sortManifestsNewestInstallFirst (tree.filterMap (manifestOf host)))

/-! ## Import -/

/-- The manifest of a file, registered under the key it carries. -/
def importRuntimeManifest (files : HostFiles) (tree : FileTree) (manifestPath : String)
    (canonical : Option String) (read : Except ErrorChain Bytes) (replace : Bool)
    (faults : RegistryFaults) : FileTree × Except ErrorChain InstalledRuntimeManifest :=
  let checked : Except ErrorChain InstalledRuntimeManifest := do
    let bytes ← withContext s!"failed to read {manifestPath}" read
    let manifest ← withContext s!"failed to parse {manifestPath}" (host.json.fromSlice bytes)
    if trim manifest.runtimeKey = "" then
      bail s!"runtime manifest {manifestPath} has an empty runtime_key"
    if trim manifest.runtimeId = "" then
      bail s!"runtime manifest {manifestPath} has an empty runtime_id"
    let manifest := { manifest with
      readOnly := true, importedFrom := some (canonical.getD manifestPath) }
    withContext s!"imported runtime `{manifest.runtimeKey}` is not usable"
      (validateRuntimeManifestForActivation files manifest)
    return manifest
  match checked with
  | .error error => (tree, .error error)
  | .ok manifest =>
      let registration :=
        writeRuntimeManifest host tree manifest (.forReplaceFlag replace) faults
      (registration.tree, registration.result.map fun _ => manifest)

end Operations

end Runtimes
end RocmCli
