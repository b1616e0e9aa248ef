import RocmCli.Vllm.Registry

namespace RocmCli
namespace Vllm

open Files (FilePath)

/-!
# Installing vLLM into a managed runtime

The engine resolves the runtime it was asked for to the first candidate that
has vLLM beside its interpreter.  If that environment does not satisfy what
vLLM requires, or a reinstall was asked for, vLLM is installed into it, and the
runtime is resolved once more, by the id it shares with its siblings.

Environments are a state `S` of the host's choosing.  No override of the vLLM
command or interpreter is set, and the host is not Windows.
-/

/-- The packages an install pinned and where it settled for less. -/
structure VllmInstallOutcome where
  pins : List Line
  notes : List Line
  deriving DecidableEq, Repr

/-- A vLLM that was found. -/
structure VllmRuntime where
  runtimeId : Line
  envId : Line
  command : FilePath
  pythonExecutable : Option FilePath
  version : Option Line
  source : Line
  sdkRoot : Option FilePath
  sdkBin : Option FilePath
  sdkBinPaths : List FilePath
  sdkLibraryPaths : List FilePath
  rocmSdkVersion : Option Line
  deriving DecidableEq, Repr

/-- What the engine asks of the machine and does to it. -/
structure EngineHost (S : Type u) where
  isFile : S -> FilePath -> Bool
  /-- The folders of `PATH`. -/
  pathFolders : List FilePath
  checkDependencies : S -> FilePath -> Except ErrorChain (List DependencyViolation)
  probeVllmVersion : S -> FilePath -> Option Line
  installVllmWithUv : S -> FilePath -> Bool -> Option Line -> S × Except ErrorChain VllmInstallOutcome
  runtimeWarnings : VllmRuntime -> List Line
  torchAlignmentDisabled : Bool

variable {S : Type u}

/-! ## Resolution -/

def vllmCommandFromPython (isFile : FilePath -> Bool) (python : FilePath) : Option FilePath :=
  if python.isEmpty then none
  else
    let command := python.dropLast ++ ["vllm".toList]
    if isFile command then some command else none

def findCommandOnPath (isFile : FilePath -> Bool) (folders : List FilePath) (name : Line) :
    Option FilePath :=
  (folders.map fun folder => folder ++ [name]).find? isFile

/-- A registered runtime whose interpreter is there. -/
structure ManagedRuntimeCandidate where
  runtimeId : Line
  source : Line
  pythonExecutable : FilePath
  sdkRoot : Option FilePath
  sdkBin : Option FilePath
  sdkBinPaths : List FilePath
  sdkLibraryPaths : List FilePath
  rocmSdkVersion : Option Line
  deriving DecidableEq, Repr

def managedSource : Line := "managed_runtime_manifest".toList

def managedRuntimeCandidate (isFile : FilePath -> Bool) (manifest : TheRockRuntimeManifest) :
    Option ManagedRuntimeCandidate :=
  match manifest.pythonExecutable with
  | none => none
  | some python =>
    if !isFile python then none
    else
      let probe := manifest.rocmSdk.filter (·.importOk)
      some {
        runtimeId := manifest.runtimeId.getD "therock-vllm-runtime".toList
        source :=
          match manifest.runtimeKey with
          | none => managedSource
          | some key => managedSource ++ ':' :: key
        pythonExecutable := python
        sdkRoot := probe.bind (·.rootPath)
        sdkBin := probe.bind (·.binPath)
        sdkBinPaths := (probe.map (·.binPaths)).getD []
        sdkLibraryPaths := (probe.map (·.libraryPaths)).getD []
        rocmSdkVersion := rocmSdkVersionFromManifest manifest }

def collectManagedRuntimeCandidates (isFile : FilePath -> Bool) (registry : Registry)
    (runtimeId : Line) : List ManagedRuntimeCandidate :=
  (loadRuntimeManifests registry runtimeId).filterMap (managedRuntimeCandidate isFile)

def stableIdComponent (value : Line) : Line :=
  value.map fun character =>
    if character.isAlphanum || character == '-' || character == '_' then character.toLower else '-'

def runtimeFromPython (host : EngineHost S) (state : S) (candidate : ManagedRuntimeCandidate) :
    Option VllmRuntime :=
  match vllmCommandFromPython (host.isFile state) candidate.pythonExecutable with
  | none => none
  | some command => some {
      runtimeId := candidate.runtimeId
      envId := "external-vllm-".toList ++ stableIdComponent candidate.runtimeId
      command := command
      pythonExecutable := some candidate.pythonExecutable
      version := host.probeVllmVersion state candidate.pythonExecutable
      source := candidate.source
      sdkRoot := candidate.sdkRoot
      sdkBin := candidate.sdkBin
      sdkBinPaths := candidate.sdkBinPaths
      sdkLibraryPaths := candidate.sdkLibraryPaths
      rocmSdkVersion := candidate.rocmSdkVersion }

def resolveManagedRuntime (host : EngineHost S) (registry : Registry) (state : S)
    (runtimeId : Line) : Option VllmRuntime :=
  (collectManagedRuntimeCandidates (host.isFile state) registry runtimeId).findSome?
    (runtimeFromPython host state)

def notInstalled : String :=
  "vLLM is not installed in a Linux/WSL ROCm Python environment. Install/build vLLM against a ROCm-capable Python environment, then set ROCM_CLI_VLLM_COMMAND, set ROCM_CLI_VLLM_PYTHON, or install it into the active rocm-cli TheRock runtime. Native Windows is skipped; no CPU fallback is used."

def pathText (path : FilePath) : String := String.ofList (path.flatMap fun name => '/' :: name)

/-- The runtimes an id names whose interpreter is not there. -/
def describeSkippedManagedRuntimes (isFile : FilePath -> Bool) (registry : Registry)
    (runtimeId : Line) : Option String :=
  let skipped := registry.manifests.filterMap fun entry =>
    let manifest := entry.2.asEngineReads
    match manifest.pythonExecutable with
    | none => none
    | some python =>
        if !runtimeMatches manifest runtimeId || isFile python then none
        else
          let key := manifest.runtimeKey.getD "<unnamed>".toList
          some ("  " ++ String.ofList key ++ ": " ++ pathText python ++ " is missing")
  if skipped.isEmpty then none
  else
    some ("These registered runtimes were skipped because the Python interpreter they record is not there:\n" ++
      "\n".intercalate (skipped.insertionSort fun left right => left ≤ right) ++
      "\nReinstall one with `rocm install sdk`, or drop it with `rocm runtimes uninstall <runtime_key>`.")

/-- A message, and below it the runtimes that were skipped. -/
def withSkipped (isFile : FilePath -> Bool) (registry : Registry) (runtimeId : Line)
    (message : String) : ErrorChain :=
  match describeSkippedManagedRuntimes isFile registry runtimeId with
  | some skipped => ErrorChain.ofMessage (message ++ "\n\n" ++ skipped)
  | none => ErrorChain.ofMessage message

def resolveVllmRuntime (host : EngineHost S) (registry : Registry) (state : S) (runtimeId : Line) :
    Except ErrorChain VllmRuntime :=
  match resolveManagedRuntime host registry state runtimeId with
  | some runtime => .ok runtime
  | none =>
    match findCommandOnPath (host.isFile state) host.pathFolders "vllm".toList with
    | some command => .ok {
        runtimeId := runtimeId
        envId := "external-vllm-path".toList
        command := command
        pythonExecutable := none
        version := none
        source := "PATH".toList
        sdkRoot := none
        sdkBin := none
        sdkBinPaths := []
        sdkLibraryPaths := []
        rocmSdkVersion := none }
    | none => .error (withSkipped (host.isFile state) registry runtimeId notInstalled)

/-- An environment vLLM can be installed into. -/
structure ManagedRuntimePython where
  runtimeId : Line
  pythonExecutable : FilePath
  rocmSdkVersion : Option Line
  deriving DecidableEq, Repr

def assessedPythonForRepair (runtime : VllmRuntime) : Option ManagedRuntimePython :=
  runtime.pythonExecutable.map fun python => ⟨runtime.runtimeId, python, runtime.rocmSdkVersion⟩

def resolveManagedRuntimePython (isFile : FilePath -> Bool) (registry : Registry)
    (runtimeId : Line) : Option ManagedRuntimePython :=
  (collectManagedRuntimeCandidates isFile registry runtimeId).head?.map fun candidate =>
    ⟨candidate.runtimeId, candidate.pythonExecutable, candidate.rocmSdkVersion⟩

def runtimeIsManaged (runtime : VllmRuntime) : Bool := managedSource.isPrefixOf runtime.source

/-! ## The install -/

/-- What an install request does to find and change an environment. -/
inductive EngineAction where
  /-- The dependencies of this interpreter's environment are checked. -/
  | assess (python : FilePath)
  /-- The findings are judged by this build of the SDK's torch. -/
  | judgeBy (sdkTorchBuild : Option Line)
  /-- vLLM is installed into this interpreter's environment, in the wheels for
  this SDK. -/
  | install (python : FilePath) (reinstall : Bool) (rocmSdkVersion : Option Line)
  deriving DecidableEq, Repr

def EngineAction.isInstall : EngineAction -> Bool
  | .install _ _ _ => true
  | .assess _ | .judgeBy _ => false

def assessRuntimeRepair (host : EngineHost S) (registry : Registry) (state : S)
    (runtime : VllmRuntime) : List EngineAction × RepairAssessment :=
  if !runtimeIsManaged runtime then ([], .default)
  else
    match runtime.pythonExecutable with
    | none => ([], .default)
    | some python =>
      match host.checkDependencies state python with
      | .error error => ([.assess python], unverifiedRepair error)
      | .ok violations =>
          let build := recordedSdkTorchBuild registry runtime.runtimeId
          ([.assess python, .judgeBy build],
            repairFromViolations violations build host.torchAlignmentDisabled)

structure InstallRequest where
  runtimeId : Line
  reinstall : Bool

/-- The answer to an install request, as far as it names an environment or
reports on one. -/
structure InstallResponse where
  envId : Line
  envPath : FilePath
  pythonExecutable : FilePath
  runtimeExecutable : FilePath
  managedEnv : Bool
  installedPackages : List Line
  warnings : List Line
  deriving DecidableEq, Repr

def installResponseFor (host : EngineHost S) (runtime : VllmRuntime) (repair : RepairAssessment)
    (outcome : VllmInstallOutcome) : InstallResponse where
  envId := runtime.envId
  envPath := runtime.command.dropLast
  pythonExecutable := runtime.pythonExecutable.getD runtime.command
  runtimeExecutable := runtime.command
  managedEnv := runtimeIsManaged runtime
  installedPackages :=
    ["vllm".toList ++ ((runtime.version.map fun version => "==".toList ++ version).getD [])]
  warnings := repair.notes ++ host.runtimeWarnings runtime ++ outcome.notes ++
    (if outcome.pins.isEmpty then []
     else ["vLLM ROCm 10.x discovery pinned: ".toList ++ ", ".toList.intercalate outcome.pins])

/-- What was done for a request, the environments afterwards, and the answer. -/
structure InstallRun (S : Type u) where
  actions : List EngineAction
  after : S
  result : Except ErrorChain InstallResponse

/-- Install vLLM into an environment and resolve it there. -/
def installInto (host : EngineHost S) (registry : Registry) (state : S) (reinstall : Bool)
    (repair : RepairAssessment) (managed : ManagedRuntimePython) : InstallRun S :=
  let actions := [.install managed.pythonExecutable reinstall managed.rocmSdkVersion]
  match host.installVllmWithUv state managed.pythonExecutable reinstall managed.rocmSdkVersion with
  | (after, .error error) => ⟨actions, after, .error error⟩
  | (after, .ok outcome) =>
    match resolveVllmRuntime host registry after managed.runtimeId with
    | .error error =>
        let message := "vLLM install completed in " ++ pathText managed.pythonExecutable ++
          ", but runtime `" ++ String.ofList managed.runtimeId ++ "` still could not be resolved"
        ⟨actions, after, .error (error.context message)⟩
    | .ok runtime => ⟨actions, after, .ok (installResponseFor host runtime repair outcome)⟩

def notManaged (isFile : FilePath -> Bool) (registry : Registry) (runtimeId : Line) : ErrorChain :=
  withSkipped isFile registry runtimeId ("runtime `" ++ String.ofList runtimeId ++
    "` did not resolve to a managed TheRock Python environment for automatic vLLM install")

def installResponse (host : EngineHost S) (registry : Registry) (state : S)
    (request : InstallRequest) : InstallRun S :=
  match resolveVllmRuntime host registry state request.runtimeId with
  | .ok runtime =>
    let (actions, repair) := assessRuntimeRepair host registry state runtime
    if request.reinstall || repair.needed then
      -- A runtime found on `PATH` has no interpreter to install into.
      match (assessedPythonForRepair runtime).or
          (resolveManagedRuntimePython (host.isFile state) registry request.runtimeId) with
      | none => ⟨actions, state, .error (notManaged (host.isFile state) registry request.runtimeId)⟩
      | some managed =>
          let run := installInto host registry state request.reinstall repair managed
          { run with actions := actions ++ run.actions }
    else ⟨actions, state, .ok (installResponseFor host runtime repair ⟨[], []⟩)⟩
  | .error _ =>
    match resolveManagedRuntimePython (host.isFile state) registry request.runtimeId with
    | none => ⟨[], state, .error (notManaged (host.isFile state) registry request.runtimeId)⟩
    | some managed => installInto host registry state request.reinstall .default managed

end Vllm
end RocmCli
