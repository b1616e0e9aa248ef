import RocmCli.Runtimes.Activation

namespace RocmCli
namespace Runtimes

/-!
# Activation is all or nothing

An activation or a rollback that fails, and whose undo could write, leaves the
marker, the registry and the caller's config as they were.  On disk the undo
does not write back the config file it found: it saves the caller's config
again, as it stood before the call.  That is the same file only if the caller's
config was the saved one.
-/

/-- The two operations that switch runtimes. -/
inductive SwitchRequest where
  | activate (selector : String)
  | rollback
  deriving DecidableEq, Repr

namespace SwitchRequest

/-- What the operation looks up in the registry. -/
def selector (config : RocmCliConfig) : SwitchRequest -> Option String
  | .activate selector => some selector
  | .rollback => config.previousRuntimeKey

def plan (machine : Machine) (disk : Disk) (config : RocmCliConfig) :
    SwitchRequest -> Except ErrorChain SwitchPlan
  | .activate selector => planActivation machine disk config selector
  | .rollback => planRollback machine disk config

def run (json : Json) (paths : AppPaths) (machine : Machine) (disk : Disk)
    (config : RocmCliConfig) : SwitchRequest -> Outcome RuntimeActivationResult
  | .activate selector => activateRuntime json paths machine disk config selector
  | .rollback => rollbackRuntime json paths machine disk config

theorem run_eq (json : Json) (paths : AppPaths) (machine : Machine) (disk : Disk)
    (config : RocmCliConfig) (request : SwitchRequest) :
    request.run json paths machine disk config =
      runSwitch json paths machine disk config (request.plan machine disk config) := by
  cases request <;> rfl

end SwitchRequest

section

variable (json : Json) (paths : AppPaths) (machine : Machine) (disk : Disk)
  (config : RocmCliConfig) (request : SwitchRequest)

/-- The undo's own writes go through. -/
structure RestoreSucceeds : Prop where
  config : exists file, config.save json paths machine.restoreConfig = .ok file
  marker : machine.restoreMarker = none

/-- The registry was read, the selector named a usable runtime, the service
records were read, and the config and the marker were written. -/
def EveryStepSucceeds : Prop :=
  exists selector plan, request.selector config = some selector ∧
    request.plan machine disk config = .ok plan ∧ Decided machine disk selector plan ∧
    (exists file, (plan.switched config).save json paths machine.saveConfig = .ok file) ∧
    exists marker, writeActiveRuntimeMarker json paths machine.writeMarker
      (plan.marker paths machine) = .ok marker

/-- Everything up to the config write went through, and the marker write did
not. -/
def OnlyMarkerWriteFails : Prop :=
  exists plan, request.plan machine disk config = .ok plan ∧
    (exists file, (plan.switched config).save json paths machine.saveConfig = .ok file) ∧
    exists error, writeActiveRuntimeMarker json paths machine.writeMarker
      (plan.marker paths machine) = .error error

/-- The config and the marker on disk name the same two runtimes, the ones the
caller's config names. -/
structure FilesAgree (after : Disk) (afterConfig : RocmCliConfig) : Prop where
  config : RocmCliConfig.load json paths after = .ok afterConfig
  marker : exists bytes marker, after.marker = .file bytes ∧
    json.marker.fromSlice bytes = .ok marker ∧
    afterConfig.activeRuntimeKey = some marker.runtimeKey ∧
    afterConfig.previousRuntimeKey = marker.previousRuntimeKey

/-- What a failed operation leaves. -/
structure LeftAsItWas (outcome : Outcome RuntimeActivationResult) : Prop where
  inMemory : outcome.config = config
  marker : outcome.disk.marker = disk.marker
  registry : outcome.disk.registry = disk.registry
  /-- The config file is touched only when it is the marker that could not be
  written. -/
  configFile : ¬ OnlyMarkerWriteFails json paths machine disk config request ->
    outcome.disk.config = disk.config
  /-- It is then the caller's config of before the call that is saved. -/
  resavedConfig : OnlyMarkerWriteFails json paths machine disk config request ->
    config.save json paths none = .ok outcome.disk.config
  /-- A caller whose config was the one on disk finds it there again. -/
  reads : RocmCliConfig.load json paths disk = .ok config ->
    RocmCliConfig.load json paths outcome.disk = .ok config

structure AllOrNothing (outcome : Outcome RuntimeActivationResult) : Prop where
  failedStep : ¬ EveryStepSucceeds json paths machine disk config request ->
    exists error, outcome.result = .error error
  failure : forall error, outcome.result = .error error ->
    LeftAsItWas json paths machine disk config request outcome
  success : forall result, outcome.result = .ok result ->
    FilesAgree json paths outcome.disk outcome.config ∧
      outcome.config.activeRuntimeKey = some result.runtimeKey ∧
      outcome.config.previousRuntimeKey = result.previousRuntimeKey

end

variable {json : Json} {paths : AppPaths} {machine : Machine} {disk : Disk}
  {config : RocmCliConfig} {request : SwitchRequest}

theorem plan_decided {plan : SwitchPlan} (decided : request.plan machine disk config = .ok plan) :
    exists selector, request.selector config = some selector ∧
      Decided machine disk selector plan := by
  cases request with
  | activate selector => exact ⟨selector, rfl, (planActivation_ok decided).1⟩
  | rollback =>
      rcases planRollback_ok decided with ⟨selector, recorded, isDecided, -⟩
      exact ⟨selector, recorded, isDecided⟩

theorem everyStepSucceeds_of_ok {result : RuntimeActivationResult}
    (succeeded : (request.run json paths machine disk config).result = .ok result) :
    EveryStepSucceeds json paths machine disk config request := by
  rw [SwitchRequest.run_eq] at succeeded
  rcases runSwitch_ok succeeded with ⟨plan, file, marker, decided, saved, wrote, -⟩
  rcases plan_decided decided with ⟨selector, names, isDecided⟩
  exact ⟨selector, plan, names, decided, isDecided, ⟨file, saved⟩, marker, wrote⟩

theorem filesAgree_of_ok {result : RuntimeActivationResult}
    (succeeded : (request.run json paths machine disk config).result = .ok result) :
    FilesAgree json paths (request.run json paths machine disk config).disk
        (request.run json paths machine disk config).config ∧
      (request.run json paths machine disk config).config.activeRuntimeKey =
        some result.runtimeKey ∧
      (request.run json paths machine disk config).config.previousRuntimeKey =
        result.previousRuntimeKey := by
  rw [SwitchRequest.run_eq] at succeeded ⊢
  rcases runSwitch_ok succeeded with ⟨plan, file, marker, -, saved, wrote, ended⟩
  rw [ended] at succeeded ⊢
  rcases writeActiveRuntimeMarker_ok wrote with ⟨bytes, written, isFile⟩
  rw [← Except.ok.inj succeeded]
  refine ⟨⟨load_of_save saved { disk with marker := marker }, ?_⟩, rfl, rfl⟩
  exact ⟨bytes, plan.marker paths machine, isFile, json.marker.roundTrip _ _ written, rfl, rfl⟩

/-- An undo that could write leaves the caller's config, in memory and on
disk, and the marker as they were before the operation. -/
theorem restoreAfterFailedActivation_restored
    (restores : RestoreSucceeds json paths machine config) (disk : Disk) (plan : SwitchPlan)
    (file : PathState) (error : ErrorChain) :
    exists saved, config.save json paths none = .ok saved ∧
      (restoreAfterFailedActivation json paths machine (ActivationSnapshot.capture disk config)
          { disk with config := file } (plan.switched config) error :
          Outcome RuntimeActivationResult) =
        ⟨{ disk with config := saved }, config, .error (error.context stillActive)⟩ := by
  rcases restores with ⟨⟨saved, isSaved⟩, markerWrites⟩
  have noFault : machine.restoreConfig = none := (replaceWhole_ok isSaved).1
  refine ⟨saved, by rw [← isSaved, noFault], ?_⟩
  have undone : restoreMarker paths machine (ActivationSnapshot.capture disk config).marker
      disk.marker = .ok disk.marker := restoreMarker_capture markerWrites
  simp only [restoreAfterFailedActivation, ActivationSnapshot.restore, restoreInMemory_switched,
    isSaved, undone]

/-- An activation or a rollback whose undo can write either switches both
files, or fails and leaves what it found. -/
theorem activation_all_or_nothing (json : Json) (paths : AppPaths) (machine : Machine)
    (disk : Disk) (config : RocmCliConfig) (request : SwitchRequest)
    (restores : RestoreSucceeds json paths machine config) :
    AllOrNothing json paths machine disk config request
      (request.run json paths machine disk config) where
  failedStep := by
    intro someStepFails
    cases ended : (request.run json paths machine disk config).result with
    | error error => exact ⟨error, rfl⟩
    | ok result => exact absurd (everyStepSucceeds_of_ok ended) someStepFails
  success := fun _ succeeded => filesAgree_of_ok succeeded
  failure := by
    intro error failed
    rw [SwitchRequest.run_eq] at failed ⊢
    cases decided : request.plan machine disk config with
    | error reason =>
        have notReached : ¬ OnlyMarkerWriteFails json paths machine disk config request := by
          rintro ⟨plan, isPlan, -⟩
          rw [decided] at isPlan
          cases isPlan
        exact ⟨rfl, rfl, rfl, fun _ => rfl, fun reached => absurd reached notReached,
          fun reads => reads⟩
    | ok plan =>
      rw [decided] at failed
      simp only [runSwitch] at failed ⊢
      have ends : SwitchEnd json paths machine disk config plan _ := recordSwitch_end
      generalize recordSwitch json paths machine disk config plan = outcome at ends failed ⊢
      cases ends with
      | configFailed reason notSaved =>
          have notReached : ¬ OnlyMarkerWriteFails json paths machine disk config request := by
            rintro ⟨other, isPlan, ⟨file, isSaved⟩, -⟩
            rw [decided] at isPlan
            rw [← Except.ok.inj isPlan] at isSaved
            exact notSaved file isSaved
          exact ⟨rfl, rfl, rfl, fun _ => rfl, fun reached => absurd reached notReached,
            fun reads => reads⟩
      | markerFailed file reason isSaved notWritten =>
          have reached : OnlyMarkerWriteFails json paths machine disk config request :=
            ⟨plan, decided, ⟨file, isSaved⟩, reason, notWritten⟩
          rcases restoreAfterFailedActivation_restored restores disk plan file reason with
            ⟨saved, resaved, undone⟩
          rw [undone]
          exact ⟨rfl, rfl, rfl, fun notReached => absurd reached notReached, fun _ => resaved,
            fun _ => load_of_save resaved disk⟩
      | done file marker isSaved written => cases failed

/-! ## An activation that meets a full disk -/

section Sample

/-- The first install on a machine, which has recorded the setup in memory but
not yet on disk. -/
def setupDone : RocmCliConfig :=
  { RocmCliConfig.default with setup := ⟨true, some "r/a", none⟩ }

def firstActivated : RocmCliConfig :=
  { setupDone with defaultRuntimeId := some "therock", activeRuntimeKey := some "a" }

def setupJson : Json :=
  .ofDocuments [RocmCliConfig.default, setupDone, firstActivated]
    [⟨"therock", "a", "d/runtimes/registry/a.json", "r/a", none, none, 7⟩]
    (by decide +kernel) (by decide +kernel)

def fullDisk : Machine :=
  { Machine.sound 7 with
    writeMarker := some (.replace (ErrorChain.ofMessage "No space left on device")) }

def beforeSetup : Disk :=
  ⟨[tarballRuntime "a" "therock" 1], .file (configText RocmCliConfig.default), .absent⟩

/-- The config file is not always put back as it was: settings the caller had
not saved yet are saved by the undo. -/
theorem failed_activation_saves_settings :
    ¬ forall (json : Json) (paths : AppPaths) (machine : Machine) (disk : Disk)
        (config : RocmCliConfig) (request : SwitchRequest),
      RestoreSucceeds json paths machine config ->
        (request.run json paths machine disk config).result.isOk = false ->
          (request.run json paths machine disk config).disk.config = disk.config := by
  intro always
  have same := always setupJson ⟨"c", "d"⟩ fullDisk beforeSetup setupDone (.activate "a")
    ⟨⟨.file (configText setupDone), by decide +kernel⟩, rfl⟩ (by decide +kernel)
  exact absurd same (by decide +kernel)

/-- The marker cannot be written, and the undo can. -/
theorem activation_all_or_nothing_full_disk :
    AllOrNothing setupJson ⟨"c", "d"⟩ fullDisk beforeSetup setupDone (.activate "a")
      ((SwitchRequest.activate "a").run setupJson ⟨"c", "d"⟩ fullDisk beforeSetup setupDone) :=
  activation_all_or_nothing setupJson ⟨"c", "d"⟩ fullDisk beforeSetup setupDone (.activate "a")
    ⟨⟨.file (configText setupDone), by decide +kernel⟩, rfl⟩

end Sample

end Runtimes
end RocmCli
