import RocmCli.Runtimes.Activation
import RocmCli.Vllm.Install

namespace RocmCli
namespace Vllm

open Files (FilePath)

/-!
# Which torch a runtime keeps

Two installers write torch into one environment.  The SDK install writes the
SDK's build, an engine install the version the engine pins.  After an engine
install the command line asks the runtime what it can do.  A torch that has run
a kernel stays if it is the pinned version or the SDK's build of the pinned
release; every other torch is replaced by that build, if the SDK's index has it.
-/

/-- What the metadata of the installed distributions says. -/
structure TorchAlignmentProbe where
  installedTorch : Option Line
  engineRequiresTorch : Option Line
  deriving DecidableEq, Repr

/-- What the runtime's interpreter could do with its torch. -/
inductive RuntimeDeviceCheck where
  | usable (deviceCount : Nat) (torchVersion : Line)
  | noDevices (torchVersion hipVersion : Line)
  | kernelFailed (torchVersion error : Line)
  | notVerified (reason : Line)
  deriving DecidableEq, Repr

inductive HostGpu where
  | detected
  | absent
  | notVerified (reason : Line)
  deriving DecidableEq, Repr

/-- What settling asks of the machine and does to it. -/
structure SettleHost (S : Type u) where
  canonicalize : FilePath -> Option FilePath
  probeTorchAlignment : S -> FilePath -> Line -> Except ErrorChain TorchAlignmentProbe
  runtimeDeviceCheck : S -> FilePath -> List FilePath -> RuntimeDeviceCheck
  checkDependencies : S -> FilePath -> Except ErrorChain (List DependencyViolation)
  installPinnedPackage : S -> FilePath -> Line -> Line -> Line -> S × Except ErrorChain Unit
  torchAlignmentDisabled : Bool
  hostGpu : HostGpu

variable {S : Type u}

/-- The SDK's build of the release of a pinned version. -/
def sdkTorch (pinned sdkBuild : Line) : Line := (splitLocalVersion pinned).1 ++ '+' :: sdkBuild

/-! ## Keeping a torch that works -/

inductive TorchRetention where
  | engineBuild (version : Line)
  | sdkBuild (version : Line)
  | realign
  deriving DecidableEq, Repr

def classifyRetainedTorch (sdkBuild : Option Line) (devices : RuntimeDeviceCheck)
    (engineRequirement : Option Line) : TorchRetention :=
  match devices with
  | .usable _ torchVersion =>
    match engineRequirement.bind requirementPinnedVersion with
    | none => .realign
    | some pinned =>
      if torchVersion = pinned then .engineBuild torchVersion
      else
        match sdkBuild with
        | none => .realign
        | some sdkBuild =>
            if torchVersion = sdkTorch pinned sdkBuild then .sdkBuild torchVersion else .realign
  | _ => .realign

/-! ## Replacing one that does not -/

inductive TorchAlignmentPlan where
  | alreadyAligned (version : Line)
  | install (wanted source : Line)
  | notApplicable (reason : Line)
  deriving DecidableEq, Repr

def planTorchAlignment (sdkBuild installedTorch engineRequirement : Option Line) (engine : Line) :
    TorchAlignmentPlan :=
  match sdkBuild with
  | none => .notApplicable "the runtime manifest does not identify the SDK's torch build".toList
  | some sdkBuild =>
    match engineRequirement with
    | none => .notApplicable (engine ++ " does not pin torch".toList)
    | some requirement =>
      match requirementPinnedVersion requirement with
      | none => .notApplicable (engine ++ " does not pin torch to an exact version (".toList ++
          requirement ++ [')'])
      | some pinned =>
          let wanted := sdkTorch pinned sdkBuild
          let installed := installedTorch.getD []
          if installed = wanted then .alreadyAligned wanted else .install wanted installed

inductive TorchAlignment where
  | alreadyAligned (version : Line)
  | realigned (source target : Line)
  | unavailable (wanted kept : Line)
  | installFailed (wanted kept : Line) (error : String)
  | disabled (wanted kept : Line)
  | notApplicable (reason : Line)
  deriving DecidableEq, Repr

/-- One text occurs in another. -/
def occurs (part text : Line) : Bool := (splitOnce part text).isSome

def installErrorReportsVersionUnavailable (error : String) : Bool :=
  let error := error.toList.map Char.toLower
  ["no solution found", "were found for", "not found in the package registry",
    "has no version"].any fun phrase => occurs phrase.toList error

def alignRuntimeTorch (host : SettleHost S) (state : S) (python : FilePath)
    (indexUrl sdkBuild : Option Line) (engine : Line)
    (torch : Except ErrorChain TorchAlignmentProbe) : S × TorchAlignment :=
  match torch with
  | .error error => (state, .notApplicable (error.messages.headD "").toList)
  | .ok probe =>
    match planTorchAlignment sdkBuild probe.installedTorch probe.engineRequiresTorch engine with
    | .alreadyAligned version => (state, .alreadyAligned version)
    | .notApplicable reason => (state, .notApplicable reason)
    | .install wanted source =>
      if host.torchAlignmentDisabled then (state, .disabled wanted source)
      else
        match indexUrl with
        | none => (state, .notApplicable
            "the runtime manifest records no wheel index to install from".toList)
        | some indexUrl =>
          match host.installPinnedPackage state python indexUrl torchPackage
              ("torch==".toList ++ wanted) with
          | (after, .ok ()) => (after, .realigned source wanted)
          | (after, .error error) =>
              if installErrorReportsVersionUnavailable error.render then
                (after, .unavailable wanted source)
              else (after, .installFailed wanted source error.render)

/-- The package a runtime was made to diverge on. -/
def deliberatelyDivergedPackage : TorchAlignment -> Option Line
  | .realigned _ _ | .alreadyAligned _ | .disabled _ _ => some torchPackage
  | .unavailable _ _ | .installFailed _ _ _ | .notApplicable _ => none

def retainedDivergedPackage : TorchRetention -> Option Line
  | .sdkBuild _ => some torchPackage
  | .engineBuild _ | .realign => none

/-! ## The dependency check -/

inductive EngineDependencyCheck where
  | satisfied
  | violated (violations expected : List Line)
  | expectedDivergence (details : List Line)
  | notVerified (reason : Line)
  deriving DecidableEq, Repr

/-- A deliberate divergence is told apart line by line. -/
def classifyDependencyDetails (details : List Line) (realignedPackage : Option Line) :
    EngineDependencyCheck :=
  if details.isEmpty then .satisfied
  else
    match realignedPackage with
    | none => .violated details []
    | some package =>
        let isExpected := fun detail : Line =>
          match violationSubject detail with
          | some subject => eqIgnoreAsciiCase subject.package package
          | none => false
        let expected := details.filter isExpected
        let violations := details.filter fun detail => !isExpected detail
        if violations.isEmpty then .expectedDivergence expected else .violated violations expected

def engineDependencyCheck (host : SettleHost S) (state : S) (engine : Line) (python : FilePath)
    (realignedPackage : Option Line) : EngineDependencyCheck :=
  match host.checkDependencies state python with
  | .ok violations =>
      classifyDependencyDetails ((violationsRequiring violations engine).map (·.detail))
        realignedPackage
  | .error error => .notVerified (error.messages.headD "").toList

/-! ## Settling -/

def settlesRuntimeTorch (engine : Line) (managedEnv : Bool) : Bool :=
  managedEnv && !Runtimes.engineManagesOwnRuntime (String.ofList engine)

def runtimeLibraryPathsForKey (registry : Registry) (runtimeKey : Line) : List FilePath :=
  match runtimeManifestForSelector registry.installed runtimeKey with
  | none => []
  | some manifest => (manifest.rocmSdk.map (·.libraryPaths)).getD []

def runtimeCannotServe : RuntimeDeviceCheck -> Bool
  | .noDevices _ _ | .kernelFailed _ _ => true
  | .usable _ _ | .notVerified _ => false

def unusableRuntimeError (engine runtimeKey : Line) : ErrorChain :=
  ErrorChain.ofMessage ("the " ++ String.ofList engine ++ " install left runtime `" ++
    String.ofList runtimeKey ++ "` on a torch that cannot run GPU work with this SDK, on a host where a GPU was found. The ROCm SDK itself is installed; read the device check above and install a torch build that suits both this SDK and this GPU.")

/-- The environments after settling, what was reported, and the answer. -/
structure SettleRun (S : Type u) where
  after : S
  retention : TorchRetention
  alignment : Option TorchAlignment
  dependencies : Option EngineDependencyCheck
  devices : Option RuntimeDeviceCheck
  result : Except ErrorChain Unit

def settleEngineInstall (host : SettleHost S) (registry : Registry) (state : S)
    (engine selector : Line) (response : InstallResponse) : SettleRun S :=
  if !settlesRuntimeTorch engine response.managedEnv then ⟨state, .realign, none, none, none, .ok ()⟩
  else
    let python := response.pythonExecutable
    let owned := runtimeKeyOwningPython host.canonicalize registry.installed python
    let runtimeKey := owned.getD selector
    let libraryPaths := runtimeLibraryPathsForKey registry runtimeKey
    let sdkBuild := sdkTorchBuildForKey registry runtimeKey
    let torch := host.probeTorchAlignment state python engine
    let probed := host.runtimeDeviceCheck state python libraryPaths
    let requirement :=
      match torch with
      | .ok probe => probe.engineRequiresTorch
      | .error _ => none
    let retention := classifyRetainedTorch sdkBuild probed requirement
    let (after, alignment, diverged, devices) :=
      match retention with
      | .realign =>
        let indexUrl := runtimeIndexUrlForKey registry runtimeKey
        match alignRuntimeTorch host state python indexUrl sdkBuild engine torch with
        | (after, alignment) =>
          let devices :=
            match alignment with
            | .realigned _ _ => host.runtimeDeviceCheck after python libraryPaths
            | _ => probed
          (after, some alignment, deliberatelyDivergedPackage alignment, devices)
      | retention => (state, none, retainedDivergedPackage retention, probed)
    let dependencies := engineDependencyCheck host after engine python diverged
    let unusable := runtimeCannotServe devices && host.hostGpu == .detected
    ⟨after, retention, alignment, some dependencies, some devices,
      if unusable then .error (unusableRuntimeError engine runtimeKey) else .ok ()⟩

end Vllm
end RocmCli
