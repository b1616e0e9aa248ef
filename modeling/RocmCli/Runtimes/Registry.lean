import RocmCli.Support.Text

namespace RocmCli
namespace Runtimes

open Text

/-!
# The runtime registry

Installed runtimes are registered by key, one file per key, and are read
newest install first.  A runtime is looked up in four ways: by exact key, by
the only key that agrees up to letter case, by the only runtime id that agrees
up to letter case, and, for the runtime in use, by the first key that agrees
up to letter case.

Paths are their texts, and what the file system answers about them during a
call is a `HostFiles`.
-/

/-- One library the `rocm_sdk` probe found. -/
structure RocmSdkLibraryProbe where
  shortname : String
  paths : List String
  deriving DecidableEq, Repr

/-- What the probe of a Python environment reported, as far as activation
reads it. -/
structure RocmSdkPythonProbe where
  importOk : Bool
  rootPath : Option String
  binPath : Option String
  resolvedLibraries : List RocmSdkLibraryProbe
  error : Option String
  deriving DecidableEq, Repr

/-- A registered runtime, as far as activation and removal read it. -/
structure InstalledRuntimeManifest where
  runtimeKey : String
  runtimeId : String
  format : String
  installRoot : String
  pythonExecutable : Option String
  rocmSdk : Option RocmSdkPythonProbe
  readOnly : Bool
  importedFrom : Option String
  installedAtUnixMs : Nat
  deriving DecidableEq, Repr

structure SetupConfig where
  completed : Bool
  therockVenv : Option String
  cliInstallDir : Option String
  deriving DecidableEq, Repr

/-- The part of the program's config that names runtimes. -/
structure RocmCliConfig where
  defaultRuntimeId : Option String
  activeRuntimeKey : Option String
  previousRuntimeKey : Option String
  onboardingDismissed : Bool
  setup : SetupConfig
  deriving DecidableEq, Repr

/-- The config of a machine that has no config file. -/
def RocmCliConfig.default : RocmCliConfig := ⟨none, none, none, false, ⟨false, none, none⟩⟩

/-- What the file system answers about install folders. -/
structure HostFiles where
  isDir : String -> Bool
  isFile : String -> Bool
  exists' : String -> Bool
  installRootHasPayload : String -> Except ErrorChain Bool
  pathsEquivalent : String -> String -> Bool

def bail {R : Type u} (message : String) : Except ErrorChain R :=
  .error (ErrorChain.ofMessage message)

/-- Report a failure under one more context. -/
def withContext {R : Type u} (message : String) (result : Except ErrorChain R) :
    Except ErrorChain R :=
  result.mapError (ErrorChain.context message)

/-! ## The order of the registry -/

/-- Newest install first, ties by key. -/
def installedBefore (left right : InstalledRuntimeManifest) : Prop :=
  right.installedAtUnixMs < left.installedAtUnixMs ∨
    (right.installedAtUnixMs = left.installedAtUnixMs ∧ left.runtimeKey ≤ right.runtimeKey)

instance : DecidableRel installedBefore := fun _ _ => inferInstanceAs (Decidable (_ ∨ _))

def sortManifestsNewestInstallFirst (manifests : List InstalledRuntimeManifest) :
    List InstalledRuntimeManifest :=
  manifests.insertionSort installedBefore

variable {manifests : List InstalledRuntimeManifest} {manifest : InstalledRuntimeManifest}

theorem mem_sortManifests :
    manifest ∈ sortManifestsNewestInstallFirst manifests ↔ manifest ∈ manifests :=
  List.mem_insertionSort installedBefore

/-- No two runtimes are registered under one key. -/
def DistinctKeys (manifests : List InstalledRuntimeManifest) : Prop :=
  (manifests.map (·.runtimeKey)).Nodup

instance (manifests : List InstalledRuntimeManifest) : Decidable (DistinctKeys manifests) :=
  inferInstanceAs (Decidable (List.Nodup _))

theorem distinctKeys_sort :
    DistinctKeys (sortManifestsNewestInstallFirst manifests) ↔ DistinctKeys manifests :=
  ((List.perm_insertionSort installedBefore manifests).map _).nodup_iff

theorem DistinctKeys.same (distinct : DistinctKeys manifests)
    {left right : InstalledRuntimeManifest} (leftMember : left ∈ manifests)
    (rightMember : right ∈ manifests) (sameKey : left.runtimeKey = right.runtimeKey) :
    left = right :=
  List.inj_on_of_nodup_map distinct leftMember rightMember sameKey

theorem DistinctKeys.filter (distinct : DistinctKeys manifests)
    (keep : InstalledRuntimeManifest -> Bool) :
    DistinctKeys (manifests.filter keep) :=
  distinct.sublist (List.filter_sublist.map _)

/-! ## Lookups -/

def defaultRuntimeIdMatches (config : RocmCliConfig)
    (manifests : List InstalledRuntimeManifest) : List InstalledRuntimeManifest :=
  match config.defaultRuntimeId with
  | none => []
  | some defaultRuntimeId =>
      manifests.filter fun manifest => eqIgnoreAsciiCase manifest.runtimeId defaultRuntimeId

/-- The runtime in use: the first whose key is the active key up to letter
case, and otherwise the only one the default runtime id names. -/
def currentRuntimeManifest (config : RocmCliConfig)
    (manifests : List InstalledRuntimeManifest) : Option InstalledRuntimeManifest :=
  let byActiveKey := config.activeRuntimeKey.bind fun activeKey =>
    manifests.find? fun manifest => eqIgnoreAsciiCase manifest.runtimeKey activeKey
  match byActiveKey with
  | some manifest => some manifest
  | none =>
    match defaultRuntimeIdMatches config manifests with
    | [manifest] => some manifest
    | _ => none

def runtimeKeysText (manifests : List InstalledRuntimeManifest) : String :=
  ", ".intercalate (manifests.map (·.runtimeKey))

/-- The one installed runtime a selector names.  An exact key wins outright. -/
def selectRuntimeManifest (manifests : List InstalledRuntimeManifest) (selector : String) :
    Except ErrorChain InstalledRuntimeManifest :=
  let selector := trim selector
  if selector = "" then bail "runtime selector must not be empty"
  else
    match manifests.find? fun manifest => manifest.runtimeKey = selector with
    | some manifest => .ok manifest
    | none =>
      let keyMatches := manifests.filter fun manifest =>
        eqIgnoreAsciiCase manifest.runtimeKey selector
      let idMatches := manifests.filter fun manifest =>
        eqIgnoreAsciiCase manifest.runtimeId selector
      match keyMatches, idMatches with
      | [manifest], _ => .ok manifest
      | _ :: _ :: _, _ => bail (s!"runtime selector `{selector}` matches several installed " ++
          "runtime keys that differ only in letter case; name one of them exactly: " ++
          runtimeKeysText keyMatches)
      | [], [manifest] => .ok manifest
      | [], [] => bail s!"installed runtime not found: {selector}"
      | [], _ :: _ :: _ => bail (s!"runtime selector `{selector}` matches multiple installed " ++
          s!"runtimes; activate one by runtime_key: {runtimeKeysText idMatches}")

/-! ## What a lookup finds -/

variable {config : RocmCliConfig}

theorem currentRuntimeManifest_mem
    (current : currentRuntimeManifest config manifests = some manifest) :
    manifest ∈ manifests := by
  dsimp only [currentRuntimeManifest] at current
  split at current
  next found byActiveKey =>
    rcases Option.bind_eq_some_iff.mp byActiveKey with ⟨activeKey, -, isFound⟩
    rw [← Option.some.inj current]
    exact List.mem_of_find?_eq_some isFound
  next =>
    split at current
    next only isOnly =>
      have member : only ∈ defaultRuntimeIdMatches config manifests := by simp [isOnly]
      rw [← Option.some.inj current]
      unfold defaultRuntimeIdMatches at member
      split at member
      · cases member
      · exact List.mem_of_mem_filter member
    next => cases current

/-- The newest runtime that answers to the key, whatever the letter case, is
registered under exactly that key. -/
def NewestOfItsName (manifests : List InstalledRuntimeManifest) (key : String) : Prop :=
  forall manifest, (manifests.find? fun manifest => eqIgnoreAsciiCase manifest.runtimeKey key) =
    some manifest -> manifest.runtimeKey = key

/-- Some runtime is registered under exactly this key. -/
def Registered (manifests : List InstalledRuntimeManifest) (key : String) : Prop :=
  exists manifest, manifest ∈ manifests ∧ manifest.runtimeKey = key

theorem currentRuntimeManifest_of_active {key : String}
    (active : config.activeRuntimeKey = some key) (registered : Registered manifests key) :
    exists manifest, currentRuntimeManifest config manifests = some manifest ∧
      eqIgnoreAsciiCase manifest.runtimeKey key = true ∧
      (NewestOfItsName manifests key -> manifest.runtimeKey = key) := by
  rcases registered with ⟨own, member, sameKey⟩
  cases found : manifests.find? fun manifest => eqIgnoreAsciiCase manifest.runtimeKey key with
  | none =>
      have different := List.find?_eq_none.mp found own member
      rw [sameKey, eqIgnoreAsciiCase_refl] at different
      exact absurd rfl different
  | some manifest =>
      refine ⟨manifest, ?_, ?_, fun newest => newest manifest found⟩
      · simp only [currentRuntimeManifest, active, Option.bind_some, found]
      · simpa using List.find?_some found

/-- With no runtime active, the one in use is the only one that has the
default runtime id. -/
theorem currentRuntimeManifest_of_default (inactive : config.activeRuntimeKey = none)
    (current : currentRuntimeManifest config manifests = some manifest) :
    exists runtimeId, config.defaultRuntimeId = some runtimeId ∧
      forall other, other ∈ manifests ->
        (eqIgnoreAsciiCase other.runtimeId runtimeId = true ↔ other = manifest) := by
  simp only [currentRuntimeManifest, inactive, Option.bind_none] at current
  cases default : config.defaultRuntimeId with
  | none => simp [defaultRuntimeIdMatches, default] at current
  | some runtimeId =>
      refine ⟨runtimeId, rfl, fun other member => ?_⟩
      have found : other ∈ defaultRuntimeIdMatches config manifests ↔
          eqIgnoreAsciiCase other.runtimeId runtimeId = true := by
        simp [defaultRuntimeIdMatches, default, member]
      rw [← found]
      split at current
      next only isOnly => rw [isOnly, List.mem_singleton, Option.some.inj current]
      next => cases current

theorem selectRuntimeManifest_ok {selector : String}
    (selected : selectRuntimeManifest manifests selector = .ok manifest) :
    manifest ∈ manifests ∧
      (manifest.runtimeKey = trim selector ∨
        (forall other, other ∈ manifests -> other.runtimeKey ≠ trim selector) ∧
          (eqIgnoreAsciiCase manifest.runtimeKey (trim selector) = true ∨
            eqIgnoreAsciiCase manifest.runtimeId (trim selector) = true)) := by
  dsimp only [selectRuntimeManifest] at selected
  split at selected
  next => cases selected
  next =>
    split at selected
    next exactly isExact =>
      rw [← Except.ok.inj selected]
      exact ⟨List.mem_of_find?_eq_some isExact, Or.inl (by simpa using List.find?_some isExact)⟩
    next noneExact =>
      have notExact : forall other, other ∈ manifests -> other.runtimeKey ≠ trim selector := by
        simpa using noneExact
      split at selected
      next _ only isOnly =>
        rw [← Except.ok.inj selected]
        have member : only ∈ [only] := List.mem_singleton_self only
        rw [← isOnly, List.mem_filter] at member
        exact ⟨member.1, Or.inr ⟨notExact, Or.inl member.2⟩⟩
      next => cases selected
      next only _ isOnly =>
        rw [← Except.ok.inj selected]
        have member : only ∈ [only] := List.mem_singleton_self only
        rw [← isOnly, List.mem_filter] at member
        exact ⟨member.1, Or.inr ⟨notExact, Or.inr member.2⟩⟩
      next => cases selected
      next => cases selected

/-- A key that is typed without blanks around it, or else one whose trimmed
form no other runtime answers to. -/
def NamesItself (manifests : List InstalledRuntimeManifest) (key : String) : Prop :=
  trim key = key ∨
    forall other, other ∈ manifests -> other.runtimeKey ≠ key ->
      eqIgnoreAsciiCase other.runtimeKey (trim key) = false ∧
        eqIgnoreAsciiCase other.runtimeId (trim key) = false

/-- A registered key that names itself selects its own runtime. -/
theorem selectRuntimeManifest_exact {key : String} (registered : Registered manifests key)
    (names : NamesItself manifests key)
    (selected : selectRuntimeManifest manifests key = .ok manifest) :
    manifest.runtimeKey = key := by
  rcases selectRuntimeManifest_ok selected with ⟨member, exactly | ⟨notExact, answers⟩⟩
  · rcases names with trimmed | unique
    · rw [exactly, trimmed]
    · by_contra other
      have differs := (unique manifest member other).1
      rw [exactly, eqIgnoreAsciiCase_refl] at differs
      exact absurd differs Bool.true_eq_false.mp
  · rcases names with trimmed | unique
    · rcases registered with ⟨own, ownMember, sameKey⟩
      rw [trimmed] at notExact
      exact absurd sameKey (notExact own ownMember)
    · by_contra other
      rcases unique manifest member other with ⟨keyDiffers, idDiffers⟩
      rcases answers with sameKey | sameId
      · rw [keyDiffers] at sameKey
        cases sameKey
      · rw [idDiffers] at sameId
        cases sameId

/-! ## What makes a runtime usable -/

section Validation

variable (files : HostFiles)

def probeHasResolvedLibrary (probe : RocmSdkPythonProbe) (shortname : String) : Bool :=
  probe.resolvedLibraries.any fun library =>
    library.shortname == shortname && library.paths.any files.isFile

def validateRocmSdkRuntimeProbe (probe : RocmSdkPythonProbe) : Except ErrorChain Unit := do
  if !probe.importOk then
    bail ("TheRock packages did not expose a usable rocm_sdk runtime: " ++
      probe.error.getD "<unknown error>")
  let some rocmSdkRoot := probe.rootPath
    | bail "TheRock packages exposed rocm_sdk but did not report a runtime root path"
  if !files.isDir rocmSdkRoot then
    bail s!"TheRock rocm_sdk runtime root path does not exist: {rocmSdkRoot}"
  let some rocmSdkBin := probe.binPath
    | bail "TheRock packages exposed rocm_sdk but did not report a runtime bin path"
  if !files.isDir rocmSdkBin then
    bail s!"TheRock rocm_sdk runtime bin path does not exist: {rocmSdkBin}"
  if !probeHasResolvedLibrary files probe "amdhip64" then
    bail "TheRock rocm_sdk runtime did not expose amdhip64 through rocm_sdk.find_libraries"
  if !probeHasResolvedLibrary files probe "hipblas" then
    bail "TheRock rocm_sdk runtime did not expose hipblas through rocm_sdk.find_libraries"

def validateWheelRuntimeManifest (manifest : InstalledRuntimeManifest) :
    Except ErrorChain Unit := do
  let some pythonExecutable := manifest.pythonExecutable
    | bail "pip runtime manifest is missing python_executable"
  if !files.isFile pythonExecutable then
    bail s!"runtime Python executable is missing: {pythonExecutable}"
  let some probe := manifest.rocmSdk
    | bail "pip runtime manifest is missing rocm_sdk probe data"
  validateRocmSdkRuntimeProbe files probe

def validateTarballRuntimeManifest (manifest : InstalledRuntimeManifest) :
    Except ErrorChain Unit := do
  if ← files.installRootHasPayload manifest.installRoot then
    return ()
  else
    bail s!"tarball runtime install root has no payload files: {manifest.installRoot}"

def localManifestPath (manifest : InstalledRuntimeManifest) : String :=
  s!"{manifest.installRoot}/.rocm-cli-runtime.json"

def validateRuntimeManifestForActivation (manifest : InstalledRuntimeManifest) :
    Except ErrorChain Unit := do
  if trim manifest.runtimeKey = "" then bail "manifest runtime_key is empty"
  if trim manifest.runtimeId = "" then bail "manifest runtime_id is empty"
  if !files.isDir manifest.installRoot then
    bail s!"install root is missing: {manifest.installRoot}"
  if !manifest.readOnly && !files.isFile (localManifestPath manifest) then
    bail s!"local runtime manifest is missing: {localManifestPath manifest}"
  match manifest.format with
  | "wheel" => validateWheelRuntimeManifest files manifest
  | "tarball" => validateTarballRuntimeManifest files manifest
  | other => bail s!"unsupported runtime format in manifest: {other}"

end Validation

end Runtimes
end RocmCli
