import RocmCli.Runtimes.Prune

namespace RocmCli
namespace Runtimes

open Text Runs

/-!
# Pruning while others run

A prune is safe as long as the config that it holds stays the config on disk.
Nothing keeps it so: the hold check reads the registry and the marker again,
but not the config.
-/

/-! ## Removals -/

section Removals

variable {json : Json} {paths : AppPaths} {machine : Machine} {disk : Disk}
  {config : RocmCliConfig}

theorem withoutKey_of_not_matches {runtimeKey : String} {reference : Option String}
    (notMatches : matchesIgnoreCase reference runtimeKey = false) :
    withoutKey runtimeKey reference = reference := by
  unfold matchesIgnoreCase at notMatches
  unfold withoutKey
  rcases reference with _ | key
  · rfl
  · rw [Option.any_some] at notMatches
    rw [Option.filter_some, notMatches]
    rfl

theorem withoutKey_of_matches {runtimeKey : String} {reference : Option String}
    (doesMatch : matchesIgnoreCase reference runtimeKey = true) :
    withoutKey runtimeKey reference = none := by
  unfold matchesIgnoreCase at doesMatch
  unfold withoutKey
  rcases reference with _ | key
  · rfl
  · rw [Option.any_some] at doesMatch
    rw [Option.filter_some, doesMatch]
    rfl

/-- Forgetting a runtime that the config does not speak of changes nothing. -/
theorem forgetRuntime_of_not_mentions {plan : RuntimeUninstallPlan}
    (silent : mentionsRuntime machine plan config = false) :
    forgetRuntime machine plan config = config := by
  unfold mentionsRuntime at silent
  simp only [Bool.or_eq_false_iff] at silent
  rcases silent with ⟨⟨⟨active, previous⟩, default⟩, setup⟩
  unfold forgetRuntime
  rw [default, setup, withoutKey_of_not_matches active, withoutKey_of_not_matches previous]
  rfl

/-- A removal leaves the config file and, when it succeeds, the config in
memory alone, or writes what remains after forgetting the runtime that it took
out of the registry. -/
theorem uninstallRuntime_config (json : Json) (paths : AppPaths) (machine : Machine) (disk : Disk)
    (config : RocmCliConfig) (selector : String) :
    let outcome := uninstallRuntime json paths machine disk config selector
    (outcome.disk.config = disk.config ∧
      forall result, outcome.result = .ok result -> outcome.config = config) ∨
    exists plan, planRuntimeUninstall paths machine disk config selector = .ok plan ∧
      (forgetRuntime machine plan config).save json paths machine.saveConfig =
        .ok outcome.disk.config ∧
      outcome.config = forgetRuntime machine plan config ∧
      outcome.disk.registry = disk.registry.filter (·.runtimeKey != plan.manifest.runtimeKey) := by
  unfold uninstallRuntime
  dsimp only
  rcases planned : planRuntimeUninstall paths machine disk config selector with error | plan
  · exact Or.inl ⟨rfl, fun _ ok => (nomatch ok)⟩
  · dsimp only [applyRuntimeUninstall]
    split
    next => exact Or.inl ⟨rfl, fun _ ok => (nomatch ok)⟩
    next =>
      dsimp only [unregisterRuntime]
      split
      next => exact Or.inl ⟨rfl, fun _ ok => (nomatch ok)⟩
      next =>
        by_cases mentions : mentionsRuntime machine plan config = true
        · rw [if_pos mentions]
          rcases saving : (forgetRuntime machine plan config).save json paths machine.saveConfig with
            error | file
          · exact Or.inl ⟨rfl, fun _ ok => (nomatch ok)⟩
          · right
            dsimp only
            split <;> exact ⟨plan, rfl, saving, rfl, rfl⟩
        · rw [if_neg mentions]
          left
          have same := forgetRuntime_of_not_mentions (Bool.eq_false_iff.mpr mentions)
          dsimp only
          split <;> exact ⟨rfl, fun _ _ => same⟩

theorem onlyForgets_forgetRuntime {plan : RuntimeUninstallPlan}
    {manifests : List InstalledRuntimeManifest}
    (clears : plan.clearsDefaultRuntime =
      clearsDefaultRuntime config manifests plan.manifest plan.wasActive) :
    OnlyForgets machine plan.manifest config (forgetRuntime machine plan config) := by
  have reference : forall value : Option String,
      withoutKey plan.manifest.runtimeKey value = value ∨
        matchesIgnoreCase value plan.manifest.runtimeKey = true ∧
          withoutKey plan.manifest.runtimeKey value = none := by
    intro value
    by_cases doesMatch : matchesIgnoreCase value plan.manifest.runtimeKey = true
    · exact Or.inr ⟨doesMatch, withoutKey_of_matches doesMatch⟩
    · exact Or.inl (withoutKey_of_not_matches (by simpa using doesMatch))
  refine ⟨reference _, reference _, ?_, ?_⟩
  · unfold forgetRuntime
    dsimp only
    by_cases cleared : plan.clearsDefaultRuntime = true
    · rw [if_pos cleared]
      rw [clears] at cleared
      unfold clearsDefaultRuntime at cleared
      exact Or.inr ⟨(Bool.and_eq_true_iff.mp cleared).1, rfl⟩
    · rw [if_neg cleared]
      exact Or.inl rfl
  · unfold forgetRuntime
    dsimp only
    by_cases isSetup : isSetupRuntime machine config plan.manifest = true
    · rw [if_pos isSetup, if_pos isSetup]
      exact Or.inr ⟨isSetup, rfl, rfl⟩
    · rw [if_neg isSetup, if_neg isSetup]
      exact Or.inl ⟨rfl, rfl⟩

theorem load_congr {first second : Disk} (same : first.config = second.config) :
    RocmCliConfig.load json paths first = RocmCliConfig.load json paths second := by
  unfold RocmCliConfig.load
  rw [same]

/-- After a removal that succeeds, the config on disk is the one in memory, if
it was so before. -/
theorem load_uninstallRuntime {selector : String} {result : RuntimeUninstallResult}
    (loaded : RocmCliConfig.load json paths disk = .ok config)
    (succeeded : (uninstallRuntime json paths machine disk config selector).result = .ok result) :
    RocmCliConfig.load json paths (uninstallRuntime json paths machine disk config selector).disk =
      .ok (uninstallRuntime json paths machine disk config selector).config := by
  rcases uninstallRuntime_config json paths machine disk config selector with
    ⟨unchanged, sameConfig⟩ | ⟨plan, _, saved, isConfig, _⟩
  · rw [sameConfig result succeeded, ← loaded]
    exact load_congr unchanged
  · rw [isConfig]
    exact load_of_save saved (uninstallRuntime json paths machine disk config selector).disk

end Removals

/-! ## Undisturbed runs -/

section Invariant

variable (json : Json) (paths : AppPaths)

/-- What the check of an entry was given is what is on disk, or is covered by
the config. -/
def ChecksDisk (disk : Disk) : PrunePhase -> Prop
  | .reloaded _ entry _ manifests =>
      manifests = sortManifestsNewestInstallFirst disk.registry ∧
        exists manifest, manifest ∈ disk.registry ∧ manifest.runtimeKey = entry
  | .markerRead config entry _ manifests marker =>
      manifests = sortManifestsNewestInstallFirst disk.registry ∧
        (exists manifest, manifest ∈ disk.registry ∧ manifest.runtimeKey = entry) ∧
        forall onDisk, readActiveRuntimeMarker json disk = some onDisk -> marker = some onDisk ∨
          config.activeRuntimeKey = some onDisk.runtimeKey ∧
            config.previousRuntimeKey = onDisk.previousRuntimeKey
  | .started | .loaded _ | .planned _ _ | .atEntry _ _ _ | .passed _ _ _ | .done => True

/-- A prune holds the config that is on disk. -/
structure HoldsDisk (state : PruneState) : Prop where
  held : forall config, state.phase.held = some config ->
    RocmCliConfig.load json paths state.disk = .ok config
  checks : ChecksDisk json state.disk state.phase

variable {json paths} {disk : Disk} {phase : PrunePhase}

theorem holdsDisk_nextEntry {config : RocmCliConfig} {rest : List String}
    (loaded : RocmCliConfig.load json paths disk = .ok config) :
    HoldsDisk json paths ⟨disk, nextEntry config rest⟩ := by
  cases rest with
  | nil => exact ⟨fun _ none => (nomatch none), trivial⟩
  | cons entry rest => exact ⟨fun _ same => Option.some.inj same ▸ loaded, trivial⟩

theorem holdsDisk_done : HoldsDisk json paths ⟨disk, .done⟩ :=
  ⟨fun _ none => (nomatch none), trivial⟩

/-- Another process leaves what a check was given as it is on disk. -/
theorem checksDisk_other {other : Disk} (holds : HoldsDisk json paths ⟨disk, phase⟩)
    (markerMatches : MarkerMatches json paths disk other)
    (undisturbed : Undisturbed json paths ⟨disk, phase⟩ (.other other)) :
    ChecksDisk json other phase := by
  rcases undisturbed with ⟨sameConfig, sameRegistry⟩
  cases phase with
  | reloaded config entry rest manifests =>
      have registry : other.registry = disk.registry := sameRegistry rfl
      unfold ChecksDisk
      rw [registry]
      exact holds.checks
  | markerRead config entry rest manifests marker =>
      have registry : other.registry = disk.registry := sameRegistry rfl
      rcases holds.checks with ⟨isSorted, registered, covered⟩
      unfold ChecksDisk
      rw [registry]
      refine ⟨isSorted, registered, fun onDisk isMarker => ?_⟩
      rcases markerMatches with unchanged | matchesConfig
      · apply covered
        unfold readActiveRuntimeMarker at isMarker ⊢
        rwa [unchanged] at isMarker
      · right
        have loaded : RocmCliConfig.load json paths other = .ok config :=
          (sameConfig (by exact Option.some_ne_none config)).trans (holds.held config rfl)
        exact matchesConfig config onDisk loaded isMarker
  | started | loaded | planned | atEntry | passed | done => trivial

theorem holdsDisk_step (state : PruneState) (action : PruneAction)
    (holds : HoldsDisk json paths state)
    (allowed : Promised json paths state action ∧ Undisturbed json paths state action) :
    HoldsDisk json paths (pruneStep json paths state action) := by
  rcases state with ⟨disk, phase⟩
  cases action with
  | load =>
      cases phase with
      | started =>
          unfold pruneStep
          dsimp only
          rcases loaded : RocmCliConfig.load json paths disk with error | config
          · exact holdsDisk_done
          · exact ⟨fun _ same => Option.some.inj same ▸ loaded, trivial⟩
      | _ => exact holds
  | plan remove =>
      cases phase with
      | loaded config =>
          have onDisk := holds.held config rfl
          unfold pruneStep
          dsimp only
          split
          · exact holdsDisk_done
          · exact ⟨fun _ same => Option.some.inj same ▸ onDisk, trivial⟩
      | _ => exact holds
  | answer approved =>
      cases phase with
      | planned config remove =>
          have onDisk := holds.held config rfl
          unfold pruneStep
          dsimp only
          split
          · exact holdsDisk_nextEntry onDisk
          · exact holdsDisk_done
      | _ => exact holds
  | reload machine =>
      cases phase with
      | atEntry config entry rest =>
          have onDisk := holds.held config rfl
          have registered := allowed.2 config entry rest rfl
          unfold pruneStep
          dsimp only
          rcases read : loadRuntimeManifests machine disk with error | manifests
          · exact holdsDisk_done
          · have isSorted := loadRuntimeManifests_ok read
            exact ⟨fun _ same => Option.some.inj same ▸ onDisk, isSorted, registered⟩
      | _ => exact holds
  | readMarker =>
      cases phase with
      | reloaded config entry rest manifests =>
          have onDisk := holds.held config rfl
          rcases holds.checks with ⟨isSorted, registered⟩
          exact ⟨fun _ same => Option.some.inj same ▸ onDisk, isSorted, registered,
            fun _ isMarker => Or.inl isMarker⟩
      | _ => exact holds
  | check =>
      cases phase with
      | markerRead config entry rest manifests marker =>
          have onDisk := holds.held config rfl
          unfold pruneStep
          dsimp only
          split
          · exact holdsDisk_nextEntry onDisk
          · exact ⟨fun _ same => Option.some.inj same ▸ onDisk, trivial⟩
      | _ => exact holds
  | uninstall machine =>
      cases phase with
      | passed config entry rest =>
          have onDisk := holds.held config rfl
          unfold pruneStep
          dsimp only
          rcases ends : (uninstallRuntime json paths machine disk config entry).result with
            error | result
          · exact holdsDisk_done
          · exact holdsDisk_nextEntry (load_uninstallRuntime onDisk ends)
      | _ => exact holds
  | other after =>
      have checks := checksDisk_other holds allowed.1 allowed.2
      refine ⟨fun config isHeld => ?_, checks⟩
      have wasHeld : phase.held = some config := isHeld
      have same := allowed.2.1 (by rw [wasHeld]; exact Option.some_ne_none config)
      exact same.trans (holds.held config wasHeld)

theorem unconditionalHold_eq_none {manifest : InstalledRuntimeManifest} {inputs : RetentionInputs}
    {defaultKey : Option String} (free : unconditionalHold manifest inputs defaultKey = none) :
    matchesIgnoreCase inputs.activeRuntimeKey manifest.runtimeKey = false ∧
      matchesIgnoreCase inputs.previousRuntimeKey manifest.runtimeKey = false ∧
      matchesIgnoreCase defaultKey manifest.runtimeKey = false ∧
      inputs.markerRuntimeKeys.any (eqIgnoreAsciiCase · manifest.runtimeKey) = false := by
  unfold unconditionalHold at free
  dsimp only at free
  split_ifs at free with active previous isDefault marker
  exact ⟨by simpa using active, by simpa using previous, by simpa using isDefault,
    by simpa using marker⟩

theorem notInUse_of_holdOf {config : RocmCliConfig} {marker : Option ActiveRuntimeMarker}
    {entry : String} (loaded : RocmCliConfig.load json paths disk = .ok config)
    (registered : exists manifest, manifest ∈ disk.registry ∧ manifest.runtimeKey = entry)
    (covered : forall onDisk, readActiveRuntimeMarker json disk = some onDisk ->
      marker = some onDisk ∨ config.activeRuntimeKey = some onDisk.runtimeKey ∧
        config.previousRuntimeKey = onDisk.previousRuntimeKey)
    (free : holdOf config (sortManifestsNewestInstallFirst disk.registry) marker entry = none) :
    NotInUse json paths disk entry config := by
  rcases registered with ⟨manifest, member, sameKey⟩
  rcases found : (sortManifestsNewestInstallFirst disk.registry).find? (·.runtimeKey == entry) with
    _ | first
  · have absent := List.find?_eq_none.mp found manifest (mem_sortManifests.mpr member)
    exact absurd (beq_iff_eq.mpr sameKey) absent
  · have firstKey : first.runtimeKey = entry := by simpa using List.find?_some found
    unfold holdOf at free
    dsimp only at free
    rw [found] at free
    rcases unconditionalHold_eq_none free with ⟨active, previous, isDefault, marked⟩
    rw [firstKey] at active previous isDefault marked
    refine ⟨loaded, active, previous, isDefault, fun onDisk isMarker => ?_⟩
    rcases covered onDisk isMarker with wasRead | ⟨isActive, isPrevious⟩
    · rw [wasRead] at marked
      have names := Bool.or_eq_false_iff.mp (List.any_cons.symm.trans marked)
      refine ⟨names.1, ?_⟩
      rcases isPrevious : onDisk.previousRuntimeKey with _ | previousKey
      · rfl
      · rw [isPrevious] at names
        simpa [matchesIgnoreCase] using names.2
    · change matchesIgnoreCase config.activeRuntimeKey entry = false at active
      change matchesIgnoreCase config.previousRuntimeKey entry = false at previous
      rw [isActive] at active
      rw [isPrevious] at previous
      exact ⟨active, previous⟩

theorem prunesSafely_of_holdsDisk {state : PruneState} (holds : HoldsDisk json paths state) :
    PrunesSafely json paths state := by
  rcases state with ⟨disk, phase⟩
  refine ⟨?check, ?write⟩
  case check =>
    intro config entry rest manifests marker atCheck passes
    cases atCheck
    rcases holds.checks with ⟨isSorted, registered, covered⟩
    have free : holdOf config manifests marker entry = none := by
      unfold pruneStep at passes
      dsimp only at passes
      rcases held : holdOf config manifests marker entry with _ | reason
      · rfl
      · rw [held] at passes
        cases rest <;> exact (nomatch passes)
    rw [isSorted] at free
    exact ⟨config, notInUse_of_holdOf (holds.held config rfl) registered covered free⟩
  case write =>
    intro machine config entry rest atUninstall wrote
    cases atUninstall
    have loaded := holds.held config rfl
    unfold pruneStep at wrote ⊢
    dsimp only at wrote ⊢
    rcases uninstallRuntime_config json paths machine disk config entry with
      ⟨unchanged, _⟩ | ⟨plan, planned, saved, _, registry⟩
    · exact absurd unchanged wrote
    · rcases planRuntimeUninstall_ok planned with ⟨selected, _, clears⟩
      rw [registry]
      refine ⟨plan.manifest, config, forgetRuntime machine plan config, ?_, ?_, loaded, ?_,
        onlyForgets_forgetRuntime clears⟩
      · exact mem_sortManifests.mp (selectRuntimeManifest_ok selected).1
      · intro member
        simpa using (List.mem_filter.mp member).2
      · exact load_of_save saved (uninstallRuntime json paths machine disk config entry).disk

/-- Pruning is safe at every state of a run in which nobody else changes the
config once it was loaded. -/
theorem undisturbed_prune_safe {disk : Disk} {actions : List PruneAction}
    (allowed : Guarded (pruneStep json paths)
      (fun state action => Promised json paths state action ∧ Undisturbed json paths state action)
      ⟨disk, .started⟩ actions) :
    PrunesSafely json paths (finalState (pruneStep json paths) ⟨disk, .started⟩ actions) := by
  have start : HoldsDisk json paths ⟨disk, .started⟩ := ⟨fun _ none => (nomatch none), trivial⟩
  exact prunesSafely_of_holdsDisk (invariant_of_step holdsDisk_step start allowed)

end Invariant

/-! ## What other processes do -/

section Others

variable (json : Json) (paths : AppPaths)

/-- Set the default runtime id, which also takes the marker away. -/
def setDefaultRuntime (disk : Disk) (runtimeId : String) : Disk :=
  match RocmCliConfig.load json paths disk with
  | .error _ => disk
  | .ok config =>
    let config := { config with
      defaultRuntimeId := some runtimeId, activeRuntimeKey := none, previousRuntimeKey := none }
    match config.save json paths none with
    | .error _ => disk
    | .ok file => { disk with config := file, marker := .absent }

variable {json paths} {disk : Disk}

theorem markerMatches_setDefaultRuntime {before : Disk} (sameMarker : disk.marker = before.marker)
    (runtimeId : String) :
    MarkerMatches json paths before (setDefaultRuntime json paths disk runtimeId) := by
  unfold setDefaultRuntime
  split
  · exact Or.inl sameMarker
  · dsimp only
    split
    · exact Or.inl sameMarker
    · exact Or.inr fun _ _ _ none => (nomatch none)

end Others

/-! ## A default set while the prune waits -/

section Disturbed

/-- `new` is active, and the setup was made with `old`. -/
def configBefore : RocmCliConfig where
  defaultRuntimeId := some "i2"
  activeRuntimeKey := some "new"
  previousRuntimeKey := none
  onboardingDismissed := true
  setup := ⟨true, some "r/old", none⟩

def configWithDefault : RocmCliConfig :=
  { configBefore with defaultRuntimeId := some "i1", activeRuntimeKey := none }

def configAfter : RocmCliConfig :=
  { configBefore with onboardingDismissed := false, setup := ⟨false, none, none⟩ }

def pruneJson : Json :=
  .ofDocuments [configBefore, configWithDefault, configAfter] [] (by decide +kernel) (by decide)

def prunePaths : AppPaths := ⟨"c", "d"⟩

def oldRuntime : InstalledRuntimeManifest := tarballRuntime "old" "i1" 1

def pruneDisk : Disk :=
  ⟨[oldRuntime, tarballRuntime "new" "i2" 2], .file (configText configBefore), .absent⟩

def pruneMachine : Machine :=
  { Machine.sound 0 with localManifest := fun _ => .ok (some oldRuntime) }

def disturbedRun : List PruneAction :=
  [.load, .plan ["old"], .other (setDefaultRuntime pruneJson prunePaths pruneDisk "i1"),
    .answer true, .reload pruneMachine, .readMarker]

/-- While the prune waits for an answer, another process makes `old` the
default runtime.  The prune removes it all the same, and the config it writes
back has the earlier default. -/
theorem prune_removes_the_default :
    let start : PruneState := ⟨pruneDisk, .started⟩
    let state := finalState (pruneStep pruneJson prunePaths) start disturbedRun
    let checked := pruneStep pruneJson prunePaths state .check
    let removed := pruneStep pruneJson prunePaths checked (.uninstall pruneMachine)
    Guarded (pruneStep pruneJson prunePaths) (Promised pruneJson prunePaths) start disturbedRun ∧
    RocmCliConfig.load pruneJson prunePaths state.disk = .ok configWithDefault ∧
    resolvedDefaultRuntimeKey (sortManifestsNewestInstallFirst state.disk.registry)
      (.fromConfig configWithDefault none) = some "old" ∧
    checked.phase = .passed configBefore "old" [] ∧
    removed.disk.registry = [tarballRuntime "new" "i2" 2] ∧
    RocmCliConfig.load pruneJson prunePaths removed.disk = .ok configAfter ∧
    ¬ PrunesSafely pruneJson prunePaths state := by
  have loaded : RocmCliConfig.load pruneJson prunePaths
      (finalState (pruneStep pruneJson prunePaths) ⟨pruneDisk, .started⟩ disturbedRun).disk =
        .ok configWithDefault := by decide +kernel
  have isDefault : resolvedDefaultRuntimeKey (sortManifestsNewestInstallFirst
      (finalState (pruneStep pruneJson prunePaths) ⟨pruneDisk, .started⟩ disturbedRun).disk.registry)
      (.fromConfig configWithDefault none) = some "old" := by decide +kernel
  have passes : (pruneStep pruneJson prunePaths
      (finalState (pruneStep pruneJson prunePaths) ⟨pruneDisk, .started⟩ disturbedRun)
      .check).phase = .passed configBefore "old" [] := by decide +kernel
  refine ⟨⟨trivial, trivial, markerMatches_setDefaultRuntime (by decide +kernel) "i1", trivial, trivial, trivial,
    trivial⟩, loaded, isDefault, passes, by decide +kernel, by decide +kernel, fun safe => ?_⟩
  rcases safe.check configBefore "old" [] (sortManifestsNewestInstallFirst pruneDisk.registry) none
    (by decide +kernel) passes with ⟨current, notInUse⟩
  have isCurrent := Except.ok.inj (notInUse.loaded.symm.trans loaded)
  have free := notInUse.default
  rw [isCurrent, isDefault] at free
  exact absurd free (by decide)

/-- Left alone, the same prune is safe. -/
theorem undisturbed_prune_of_old :
    PrunesSafely pruneJson prunePaths (finalState (pruneStep pruneJson prunePaths)
      ⟨pruneDisk, .started⟩ [.load, .plan ["old"], .answer true, .reload pruneMachine,
        .readMarker, .check, .uninstall pruneMachine]) := by
  apply undisturbed_prune_safe
  have atOld : (pruneStep pruneJson prunePaths (pruneStep pruneJson prunePaths
      (pruneStep pruneJson prunePaths ⟨pruneDisk, .started⟩ .load) (.plan ["old"]))
      (.answer true)).phase = .atEntry configBefore "old" [] := by
    decide +kernel
  refine ⟨⟨trivial, trivial⟩, ⟨trivial, trivial⟩, ⟨trivial, trivial⟩, ⟨trivial, ?_⟩,
    ⟨trivial, trivial⟩, ⟨trivial, trivial⟩, ⟨trivial, trivial⟩, trivial⟩
  intro config entry rest isEntry
  have same := atOld.symm.trans isEntry
  cases same
  exact ⟨oldRuntime, by decide +kernel, rfl⟩

end Disturbed

end Runtimes
end RocmCli
