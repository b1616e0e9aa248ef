import RocmCli.Vllm.Attribution
import RocmCli.Vllm.TorchAlignment

namespace RocmCli
namespace Vllm

open Files (FilePath)

/-!
# Torch comes to rest

The engine decides from what `uv` prints whether torch is a defect; the command
line decides from the metadata and the running interpreter whether it stays.
Each has to leave alone what the other produces, or the two package sources
take turns on every run.

An install leaves the pinned version.  Settling leaves torch alone or leaves
the SDK's build of the pinned release.  Both are found in order by both sides,
so torch has come to rest after one round.
-/

/-- A version: a text that is one word, without a backtick or a comma. -/
structure TorchVersion where
  text : Line
  nonempty : text ≠ []
  oneWord : forall character, character ∈ text -> Text.isWhitespace character = false
  noBacktick : '`' ∉ text
  noComma : ',' ∉ text

def lineStart : Line := "The package `vllm` requires `torch==".toList

def lineMiddle : Line := "`, but `".toList

def lineEnd : Line := "` is installed".toList

def lineAbsent : Line := "`, but it's not installed".toList

/-- What `uv pip check` prints about the torch vLLM requires. -/
def torchLine (pinned : Line) (installed : Option Line) : Line :=
  match installed with
  | some version => lineStart ++ pinned ++ (lineMiddle ++ version ++ lineEnd)
  | none => lineStart ++ pinned ++ lineAbsent

/-- The only registered runtime, and the machine around it.  Its torch is the
state. -/
structure TorchSetting where
  registry : Registry
  manifest : InstalledRuntimeManifest
  only : registry.manifests.map Prod.snd = [manifest]
  /-- The id is one that the command line hands out: it names the runtime. -/
  named : runtimeMatches manifest.asEngineReads manifest.runtimeId = true
  python : FilePath
  recorded : manifest.pythonExecutable = some python
  inside : manifest.installRoot <+: python
  isFile : FilePath -> Bool
  present : isFile python = true
  hasVllm : (vllmCommandFromPython isFile python).isSome = true
  pathFolders : List FilePath
  canonicalize : FilePath -> Option FilePath
  /-- vLLM requires exactly this version of torch. -/
  pinned : TorchVersion
  /-- Which versions meet the requirement. -/
  meets : TorchVersion -> Bool
  meetsItself : meets pinned = true
  /-- What else `uv` prints is not about a requirement of vLLM. -/
  others : Option TorchVersion -> List Line
  unrelated : forall torch line violation, line ∈ others torch ->
    parseViolation line = some violation ->
      eqIgnoreAsciiCase violation.requiring engineName = false
  device : Option TorchVersion -> RuntimeDeviceCheck
  reports : forall torch count version, device torch = .usable count version ->
    torch.map TorchVersion.text = some version
  /-- What the SDK's index has under a version. -/
  published : Line -> Except ErrorChain TorchVersion
  exact' : forall wanted version, published wanted = .ok version -> version.text = wanted
  torchAlignmentDisabled : Bool
  hostGpu : HostGpu
  outcome : FilePath -> VllmInstallOutcome
  probeVllmVersion : Option TorchVersion -> Option Line
  runtimeWarnings : VllmRuntime -> List Line

namespace TorchSetting

variable (setting : TorchSetting)

def meets' (torch : Option TorchVersion) : Bool := torch.any setting.meets

/-- A run of `uv pip check`. -/
def check (torch : Option TorchVersion) : Except ErrorChain (List DependencyViolation) :=
  let violated := if setting.meets' torch then []
    else [torchLine setting.pinned.text (torch.map TorchVersion.text)]
  let others := setting.others torch
  checkDependencies (setting.meets' torch && (parseDependencyViolations others).isEmpty)
    (violated ++ others)

def engineHost : EngineHost (Option TorchVersion) where
  isFile := fun _ => setting.isFile
  pathFolders := setting.pathFolders
  checkDependencies := fun torch _ => setting.check torch
  probeVllmVersion := fun torch _ => setting.probeVllmVersion torch
  installVllmWithUv := fun _ python _ _ => (some setting.pinned, .ok (setting.outcome python))
  runtimeWarnings := setting.runtimeWarnings
  torchAlignmentDisabled := setting.torchAlignmentDisabled

def settleHost : SettleHost (Option TorchVersion) where
  canonicalize := setting.canonicalize
  probeTorchAlignment := fun torch _ _ =>
    .ok ⟨torch.map TorchVersion.text, some ("torch==".toList ++ setting.pinned.text)⟩
  runtimeDeviceCheck := fun torch _ _ => setting.device torch
  checkDependencies := fun torch _ => setting.check torch
  installPinnedPackage := fun torch _ _ _ requirement =>
    match setting.published (requirement.drop "torch==".length) with
    | .ok version => (some version, .ok ())
    | .error error => (torch, .error error)
  torchAlignmentDisabled := setting.torchAlignmentDisabled
  hostGpu := setting.hostGpu

/-- An install request for a text that names the runtime. -/
structure Request where
  selector : Line
  names : runtimeMatches setting.manifest.asEngineReads selector = true

/-- The engine's part of a round. -/
def install (request : setting.Request) (reinstall : Bool) (torch : Option TorchVersion) :
    InstallRun (Option TorchVersion) :=
  installResponse setting.engineHost setting.registry torch ⟨request.selector, reinstall⟩

/-- One install and the settlement of its answer. -/
def round (request : setting.Request) (reinstall : Bool) (torch : Option TorchVersion) :
    Option TorchVersion :=
  let run := setting.install request reinstall torch
  match run.result with
  | .error _ => run.after
  | .ok response =>
      (settleEngineInstall setting.settleHost setting.registry run.after engineName
        request.selector response).after

/-- The build of torch that belongs to the SDK. -/
def sdkBuild : Option Line := sdkTorchBuildFromManifest setting.manifest.asEngineReads

/-- Torch is the SDK's build of the pinned release. -/
def IsSdkTorch (torch : Option TorchVersion) : Prop :=
  exists build, setting.sdkBuild = some build ∧
    torch.map TorchVersion.text = some (sdkTorch setting.pinned.text build)

/-! ## What the registry answers -/

theorem installed_eq : setting.registry.installed = [setting.manifest] := by
  rw [Registry.installed, setting.only]
  rfl

theorem load_eq {runtimeId : Line}
    (names : runtimeMatches setting.manifest.asEngineReads runtimeId = true) :
    loadRuntimeManifests setting.registry runtimeId = [setting.manifest.asEngineReads] := by
  rcases entries : setting.registry.manifests with _ | ⟨entry, _ | ⟨second, rest⟩⟩
  · have only := setting.only
    rw [entries] at only
    cases only
  · have only := setting.only
    rw [entries] at only
    have same : entry.2 = setting.manifest := (List.cons.inj only).1
    rw [loadRuntimeManifests, entries]
    simp only [List.map_cons, List.map_nil, same, List.filter_cons, names, if_true,
      List.filter_nil]
    rfl
  · have only := setting.only
    rw [entries] at only
    cases (List.cons.inj only).2

theorem recordedBuild_eq :
    recordedSdkTorchBuild setting.registry setting.manifest.runtimeId = setting.sdkBuild := by
  rw [recordedSdkTorchBuild, setting.load_eq setting.named]
  rfl

theorem owner_eq :
    runtimeKeyOwningPython setting.canonicalize setting.registry.installed setting.python =
      some setting.manifest.runtimeKey := by
  have first : forall path, path ∈ bothForms setting.canonicalize path := by
    intro path
    unfold bothForms
    split
    · split <;> exact List.mem_cons_self
    · exact List.mem_cons_self
  have owns : ((bothForms setting.canonicalize setting.manifest.installRoot).any fun root =>
      (bothForms setting.canonicalize setting.python).any fun python =>
        root.isPrefixOf python) = true := by
    apply List.any_eq_true.mpr
    refine ⟨_, first _, List.any_eq_true.mpr ⟨_, first _, ?_⟩⟩
    exact List.isPrefixOf_iff_prefix.mpr setting.inside
  rw [installed_eq, runtimeKeyOwningPython]
  simp only [List.filter_cons, owns, if_true, List.filter_nil]
  rfl

theorem sdkBuild_for_key :
    sdkTorchBuildForKey setting.registry setting.manifest.runtimeKey = setting.sdkBuild := by
  have same : eqIgnoreAsciiCase setting.manifest.runtimeKey setting.manifest.runtimeKey = true :=
    beq_self_eq_true _
  rw [sdkTorchBuildForKey, installed_eq, runtimeManifestForSelector]
  simp only [List.find?_cons, same]
  rfl

/-! ## What the line says -/

theorem splitOnce_mark {mark : Char} {front : Line} (free : mark ∉ front) (back : Line) :
    splitOnce [mark] (front ++ mark :: back) = some (front, back) := by
  induction front with
  | nil =>
      rw [List.nil_append, splitOnce, if_pos (by simp [List.isPrefixOf])]
      rfl
  | cons first front ih =>
      rw [List.mem_cons, not_or] at free
      have apart : ¬ [mark].isPrefixOf (first :: (front ++ mark :: back)) = true := by
        simp only [List.isPrefixOf, Bool.and_true, beq_iff_eq]
        exact free.1
      rw [List.cons_append, splitOnce, if_neg apart, ih free.2, Option.map_some]

theorem trim_ends {first last : Char} (middle : Line)
    (firstKept : Text.isWhitespace first = false) (lastKept : Text.isWhitespace last = false) :
    trim (first :: (middle ++ [last])) = first :: (middle ++ [last]) := by
  have kept : ¬ Text.isWhitespace first = true := Bool.eq_false_iff.mp firstKept
  have keptLast : ¬ Text.isWhitespace last = true := Bool.eq_false_iff.mp lastKept
  rw [trim, List.dropWhile_cons_of_neg kept]
  have reversed : (first :: (middle ++ [last])).reverse = last :: (middle.reverse ++ [first]) := by
    simp
  rw [reversed, List.dropWhile_cons_of_neg keptLast, ← reversed, List.reverse_reverse]

theorem trim_between {front back : Line} {first last : Char} (middle : Line)
    (starts : front.head? = some first) (ends : back.getLast? = some last)
    (firstKept : Text.isWhitespace first = false) (lastKept : Text.isWhitespace last = false) :
    trim (front ++ middle ++ back) = front ++ middle ++ back := by
  rcases List.head?_eq_some_iff.mp starts with ⟨front', rfl⟩
  rcases List.getLast?_eq_some_iff.mp ends with ⟨back', rfl⟩
  have grouped : first :: front' ++ middle ++ (back' ++ [last]) =
      first :: ((front' ++ middle ++ back') ++ [last]) := by
    simp only [List.cons_append, List.append_assoc]
  rw [grouped]
  exact trim_ends _ firstKept lastKept

theorem trim_version (version : TorchVersion) : trim version.text = version.text := by
  rcases text : version.text with _ | ⟨first, rest⟩
  · exact absurd text version.nonempty
  · have firstKept : Text.isWhitespace first = false :=
      version.oneWord first (by rw [text]; exact List.mem_cons_self)
    rcases List.eq_nil_or_concat rest with rfl | ⟨middle, last, rfl⟩
    · rw [trim, List.dropWhile_cons_of_neg (Bool.eq_false_iff.mp firstKept)]
      exact congrArg List.reverse (List.dropWhile_cons_of_neg (Bool.eq_false_iff.mp firstKept))
    · have lastKept : Text.isWhitespace last = false :=
        version.oneWord last (by rw [text]; simp)
      rw [List.concat_eq_append]
      exact trim_ends middle firstKept lastKept

theorem pinned_of_requirement (version : TorchVersion) :
    requirementPinnedVersion ("torch==".toList ++ version.text) = some version.text := by
  have split : splitOnce "==".toList ("torch==".toList ++ version.text) =
      some ("torch".toList, version.text) := rfl
  have full : version.text.isEmpty = false := List.isEmpty_eq_false_iff.mpr version.nonempty
  have single : version.text.contains ',' = false := by
    rw [List.contains_eq_mem, decide_eq_false_iff_not]
    exact version.noComma
  simp only [requirementPinnedVersion, split, trim_version, full, single, Bool.or_self,
    Bool.false_eq_true, if_false]

theorem parse_torchLine (pinned : TorchVersion) (torch : Option TorchVersion) :
    parseViolation (torchLine pinned.text (torch.map TorchVersion.text)) =
      some ⟨engineName, torchLine pinned.text (torch.map TorchVersion.text)⟩ := by
  have trimmed : trim (torchLine pinned.text (torch.map TorchVersion.text)) =
      torchLine pinned.text (torch.map TorchVersion.text) := by
    cases torch with
    | none => exact @trim_between _ _ 'T' 'd' pinned.text rfl rfl rfl rfl
    | some version =>
        have grouped : torchLine pinned.text (some version.text) =
            lineStart ++ (pinned.text ++ (lineMiddle ++ version.text)) ++ lineEnd := by
          rw [torchLine]
          simp only [List.append_assoc]
        rw [Option.map_some, grouped]
        exact @trim_between _ _ 'T' 'd' _ rfl rfl rfl rfl
  unfold parseViolation
  rw [trimmed]
  cases torch <;> rfl

theorem subject_torchLine (pinned : TorchVersion) (torch : Option TorchVersion) :
    violationSubject (torchLine pinned.text (torch.map TorchVersion.text)) =
      some ⟨torchPackage, some pinned.text, torch.map TorchVersion.text⟩ := by
  have free : '`' ∉ "torch==".toList ++ pinned.text := by
    rw [List.mem_append, not_or]
    exact ⟨by decide, pinned.noBacktick⟩
  have package : ("torch==".toList ++ pinned.text).takeWhile isNameCharacter = torchPackage := rfl
  have full : torchPackage.isEmpty = false := rfl
  cases torch with
  | none =>
      have line : splitOnce " requires `".toList (torchLine pinned.text none) =
          some ("The package `vllm`".toList,
            "torch==".toList ++ pinned.text ++ lineAbsent) := rfl
      have spec : splitOnce ['`'] ("torch==".toList ++ pinned.text ++ lineAbsent) =
            some ("torch==".toList ++ pinned.text, ", but it's not installed".toList) :=
        splitOnce_mark free _
      have absent : splitOnce ", but `".toList ", but it's not installed".toList = none := by decide
      simp only [violationSubject, Option.map_none, line, spec, package, full,
        Bool.false_eq_true, if_false, absent, pinned_of_requirement]
  | some version =>
      have line : splitOnce " requires `".toList (torchLine pinned.text (some version.text)) =
          some ("The package `vllm`".toList, "torch==".toList ++ pinned.text ++
            (lineMiddle ++ version.text ++ lineEnd)) := rfl
      have spec : splitOnce ['`'] ("torch==".toList ++ pinned.text ++
          (lineMiddle ++ version.text ++ lineEnd)) =
            some ("torch==".toList ++ pinned.text, ", but `".toList ++ (version.text ++ lineEnd)) :=
        splitOnce_mark free _
      have present : splitOnce ", but `".toList
          (", but `".toList ++ (version.text ++ lineEnd)) = some ([], version.text ++ lineEnd) := rfl
      have installed : splitOnce ['`'] (version.text ++ lineEnd) =
          some (version.text, " is installed".toList) := splitOnce_mark version.noBacktick _
      simp only [violationSubject, Option.map_some, line, spec, package, full,
        Bool.false_eq_true, if_false, present, installed, pinned_of_requirement]

/-! ## The engine's part -/

/-- Torch is a defect to the engine. -/
def needsRepair (torch : Option TorchVersion) : Bool :=
  !setting.meets' torch &&
    !isIntendedTorchDivergence (torchLine setting.pinned.text (torch.map TorchVersion.text))
      setting.sdkBuild setting.torchAlignmentDisabled

/-- The check always runs, and finds the torch requirement when it is not met. -/
theorem check_finds (torch : Option TorchVersion) :
    exists violations, setting.check torch = .ok violations ∧
      violationsRequiring violations engineName =
        if setting.meets' torch then []
        else [⟨engineName, torchLine setting.pinned.text (torch.map TorchVersion.text)⟩] := by
  have unrelated : violationsRequiring (parseDependencyViolations (setting.others torch))
      engineName = [] := by
    apply List.filter_eq_nil_iff.mpr
    intro violation member
    rcases List.mem_filterMap.mp member with ⟨line, printed, parsed⟩
    exact Bool.eq_false_iff.mp (setting.unrelated torch line violation printed parsed)
  unfold check
  by_cases met : setting.meets' torch = true
  · simp only [met, if_true, Bool.true_and, List.nil_append]
    rcases others : parseDependencyViolations (setting.others torch) with _ | ⟨first, rest⟩
    · refine ⟨[], ?_, rfl⟩
      simp only [checkDependencies, List.isEmpty_nil, if_true]
    · refine ⟨first :: rest, ?_, ?_⟩
      · simp only [checkDependencies, others, List.isEmpty_cons, Bool.false_eq_true, if_false]
      · rw [← others]
        exact unrelated
  · have parsed : parseDependencyViolations
        ([torchLine setting.pinned.text (torch.map TorchVersion.text)] ++ setting.others torch) =
          ⟨engineName, torchLine setting.pinned.text (torch.map TorchVersion.text)⟩ ::
            parseDependencyViolations (setting.others torch) := by
      rw [parseDependencyViolations, List.singleton_append,
        List.filterMap_cons_some (parse_torchLine setting.pinned torch)]
      rfl
    have isEngine : eqIgnoreAsciiCase engineName engineName = true := beq_self_eq_true _
    rw [Bool.not_eq_true] at met
    simp only [met, Bool.false_eq_true, if_false, Bool.false_and, checkDependencies, parsed,
      List.isEmpty_cons]
    refine ⟨_, rfl, ?_⟩
    rw [violationsRequiring] at unrelated
    rw [violationsRequiring, List.filter_cons]
    simp only [isEngine, if_true, unrelated]

variable {torch : Option TorchVersion}

theorem repair_needed {violations : List DependencyViolation}
    (owned : violationsRequiring violations engineName =
      if setting.meets' torch then []
      else [⟨engineName, torchLine setting.pinned.text (torch.map TorchVersion.text)⟩]) :
    (repairFromViolations violations setting.sdkBuild setting.torchAlignmentDisabled).needed =
      setting.needsRepair torch := by
  rw [repairFromViolations_needed, owned, needsRepair]
  by_cases met : setting.meets' torch = true
  · rw [if_pos met, met]
    rfl
  · rw [if_neg met]
    rw [Bool.not_eq_true] at met
    rw [List.any_cons, List.any_nil, Bool.or_false, met, Bool.not_false, Bool.true_and]

/-- The runtime is found for every text that names it. -/
theorem found (torch : Option TorchVersion) {runtimeId : Line}
    (names : runtimeMatches setting.manifest.asEngineReads runtimeId = true) :
    exists runtime, runtime.runtimeId = setting.manifest.runtimeId ∧
      runtime.pythonExecutable = some setting.python ∧ runtimeIsManaged runtime = true ∧
      resolveVllmRuntime setting.engineHost setting.registry torch runtimeId = .ok runtime := by
  have recorded : setting.manifest.asEngineReads.pythonExecutable = some setting.python :=
    setting.recorded
  have read : exists candidate,
      managedRuntimeCandidate setting.isFile setting.manifest.asEngineReads = some candidate ∧
        candidate.pythonExecutable = setting.python ∧
        candidate.runtimeId = setting.manifest.runtimeId := by
    unfold managedRuntimeCandidate
    simp only [recorded, setting.present, Bool.not_true, Bool.false_eq_true, if_false]
    exact ⟨_, rfl, rfl, rfl⟩
  rcases read with ⟨candidate, read, python, id⟩
  have held : firstHolding setting.registry (setting.engineHost.isFile torch) runtimeId =
      some candidate := by
    have isFile : setting.engineHost.isFile torch = setting.isFile := rfl
    rw [firstHolding, collectManagedRuntimeCandidates, setting.load_eq names, isFile,
      List.filterMap_cons_some read, List.filterMap_nil]
    apply List.find?_cons_of_pos
    rw [python]
    exact setting.hasVllm
  rcases resolve_of_holding setting.engineHost torch held with ⟨runtime, foundFor, resolved⟩
  exact ⟨runtime, foundFor.runtimeId.trans id, foundFor.python.trans (congrArg some python),
    foundFor.managed, resolved⟩

/-- The torch an install leaves. -/
def torchAfterInstall (reinstall : Bool) (torch : Option TorchVersion) : Option TorchVersion :=
  if reinstall || setting.needsRepair torch then some setting.pinned else torch

/-- What an install of this runtime answers and does. -/
structure Installed (reinstall : Bool) (torch : Option TorchVersion)
    (run : InstallRun (Option TorchVersion)) : Prop where
  after : run.after = setting.torchAfterInstall reinstall torch
  answer : exists response, run.result = .ok response ∧
    response.pythonExecutable = setting.python ∧ response.managedEnv = true
  installs : (exists action, action ∈ run.actions ∧ action.isInstall = true) ->
    (reinstall || setting.needsRepair torch) = true

theorem assess_spec (torch : Option TorchVersion) {runtime : VllmRuntime}
    (id : runtime.runtimeId = setting.manifest.runtimeId)
    (python : runtime.pythonExecutable = some setting.python)
    (managed : runtimeIsManaged runtime = true) :
    (assessRuntimeRepair setting.engineHost setting.registry torch runtime).2.needed =
        setting.needsRepair torch ∧
      forall action,
        action ∈ (assessRuntimeRepair setting.engineHost setting.registry torch runtime).1 ->
          action.isInstall = false := by
  rcases setting.check_finds torch with ⟨violations, checked, owned⟩
  have finds : setting.engineHost.checkDependencies torch setting.python = .ok violations := checked
  unfold assessRuntimeRepair
  rw [managed, python, id, setting.recordedBuild_eq]
  simp only [Bool.not_true, Bool.false_eq_true, if_false, finds]
  refine ⟨setting.repair_needed owned, fun action member => ?_⟩
  rcases List.mem_cons.mp member with assessed | judged
  · rw [assessed]
    rfl
  · rw [List.mem_singleton.mp judged]
    rfl

theorem install_spec (request : setting.Request) (reinstall : Bool) (torch : Option TorchVersion) :
    setting.Installed reinstall torch (setting.install request reinstall torch) := by
  rcases setting.found torch request.names with ⟨runtime, id, python, managed, resolved⟩
  rcases setting.assess_spec torch id python managed with ⟨needed, assessed⟩
  have target : assessedPythonForRepair runtime =
      some ⟨setting.manifest.runtimeId, setting.python, runtime.rocmSdkVersion⟩ := by
    rw [assessedPythonForRepair, python, id, Option.map_some]
  unfold install
  simp only [installResponse, resolved, needed, target, Option.some_or]
  by_cases due : (reinstall || setting.needsRepair torch) = true
  · rcases setting.found (some setting.pinned) setting.named with
      ⟨again, _, pythonAgain, managedAgain, resolvedAgain⟩
    have installed : setting.engineHost.installVllmWithUv torch setting.python reinstall
        runtime.rocmSdkVersion = (some setting.pinned, .ok (setting.outcome setting.python)) := rfl
    simp only [due, if_true, installInto, installed, resolvedAgain]
    refine ⟨?_, ⟨_, rfl, ?_, managedAgain⟩, fun _ => due⟩
    · rw [torchAfterInstall, if_pos due]
    · rw [installResponseFor, pythonAgain, Option.getD_some]
  · rw [Bool.not_eq_true] at due
    simp only [due, Bool.false_eq_true, if_false]
    refine ⟨?_, ⟨_, rfl, ?_, managed⟩, ?_⟩
    · rw [torchAfterInstall, due, if_neg Bool.false_ne_true]
    · rw [installResponseFor, python, Option.getD_some]
    · rintro ⟨action, member, isInstall⟩
      exact absurd isInstall (Bool.eq_false_iff.mp (assessed action member))

/-! ## The command line's part -/

def requirement : Line := "torch==".toList ++ setting.pinned.text

/-- The torch a realignment leaves. -/
def torchAfterAligning (torch : Option TorchVersion) : Option TorchVersion :=
  (alignRuntimeTorch setting.settleHost torch setting.python setting.manifest.indexUrl
    setting.sdkBuild engineName
    (.ok ⟨torch.map TorchVersion.text, some setting.requirement⟩)).1

/-- The torch settling leaves. -/
def torchAfterSettling (torch : Option TorchVersion) : Option TorchVersion :=
  match classifyRetainedTorch setting.sdkBuild (setting.device torch)
      (some setting.requirement) with
  | .realign => setting.torchAfterAligning torch
  | .engineBuild _ | .sdkBuild _ => torch

theorem settle_spec (torch : Option TorchVersion) (selector : Line) {response : InstallResponse}
    (python : response.pythonExecutable = setting.python) (managed : response.managedEnv = true) :
    (settleEngineInstall setting.settleHost setting.registry torch engineName selector
      response).after = setting.torchAfterSettling torch := by
  have settles : settlesRuntimeTorch engineName response.managedEnv = true := by
    rw [managed]
    decide
  have indexUrl : runtimeIndexUrlForKey setting.registry setting.manifest.runtimeKey =
      setting.manifest.indexUrl := by
    have same : eqIgnoreAsciiCase setting.manifest.runtimeKey setting.manifest.runtimeKey = true :=
      beq_self_eq_true _
    rw [runtimeIndexUrlForKey, installed_eq, runtimeManifestForSelector]
    simp only [List.find?_cons, same]
    rfl
  have canonicalize : setting.settleHost.canonicalize = setting.canonicalize := rfl
  unfold settleEngineInstall torchAfterSettling torchAfterAligning
  rw [settles]
  simp only [Bool.not_true, Bool.false_eq_true, if_false, python, canonicalize,
    setting.owner_eq, Option.getD_some, setting.sdkBuild_for_key, indexUrl]
  have probed : forall library, setting.settleHost.runtimeDeviceCheck torch setting.python library =
      setting.device torch := fun _ => rfl
  have metadata : setting.settleHost.probeTorchAlignment torch setting.python engineName =
      .ok ⟨torch.map TorchVersion.text, some setting.requirement⟩ := rfl
  simp only [probed, metadata]
  rcases classifyRetainedTorch setting.sdkBuild (setting.device torch)
    (some setting.requirement) <;> rfl

/-- A realignment installs the SDK's build of the pinned release, or nothing. -/
theorem align_spec (torch : Option TorchVersion) :
    setting.torchAfterAligning torch = torch ∨
      (setting.torchAlignmentDisabled = false ∧ ¬ setting.IsSdkTorch torch ∧
        setting.IsSdkTorch (setting.torchAfterAligning torch)) := by
  have pinned : requirementPinnedVersion setting.requirement = some setting.pinned.text :=
    pinned_of_requirement setting.pinned
  rcases build : setting.sdkBuild with _ | sdkBuild
  · left
    simp only [torchAfterAligning, alignRuntimeTorch, planTorchAlignment, build]
  by_cases aligned : (torch.map TorchVersion.text).getD [] = sdkTorch setting.pinned.text sdkBuild
  · left
    simp only [torchAfterAligning, alignRuntimeTorch, planTorchAlignment, build, pinned, aligned,
      if_true]
  have apart : ¬ setting.IsSdkTorch torch := by
    rintro ⟨other, same, isSdk⟩
    rw [build] at same
    cases same
    apply aligned
    rw [isSdk, Option.getD_some]
  rcases disabled : setting.torchAlignmentDisabled
  · rcases indexUrl : setting.manifest.indexUrl with _ | url
    · left
      have mayInstall : setting.settleHost.torchAlignmentDisabled = false := disabled
      simp only [torchAfterAligning, alignRuntimeTorch, planTorchAlignment, build, pinned, aligned,
        if_false, mayInstall, Bool.false_eq_true, indexUrl]
    · have mayInstall : setting.settleHost.torchAlignmentDisabled = false := disabled
      have pinnedInstall : setting.settleHost.installPinnedPackage torch setting.python url
          torchPackage ("torch==".toList ++ sdkTorch setting.pinned.text sdkBuild) =
            match setting.published (sdkTorch setting.pinned.text sdkBuild) with
            | .ok version => (some version, .ok ())
            | .error error => (torch, .error error) := rfl
      rcases published : setting.published (sdkTorch setting.pinned.text sdkBuild) with
        error | version
      · left
        rw [published] at pinnedInstall
        simp only [torchAfterAligning, alignRuntimeTorch, planTorchAlignment, build, pinned,
          aligned, if_false, mayInstall, Bool.false_eq_true, indexUrl, pinnedInstall]
        split <;> rfl
      · right
        rw [published] at pinnedInstall
        refine ⟨rfl, apart, sdkBuild, build, ?_⟩
        simp only [torchAfterAligning, alignRuntimeTorch, planTorchAlignment, build, pinned,
          aligned, if_false, mayInstall, Bool.false_eq_true, indexUrl, pinnedInstall,
          Option.map_some]
        exact congrArg some (setting.exact' _ _ published)
  · left
    have optedOut : setting.settleHost.torchAlignmentDisabled = true := disabled
    simp only [torchAfterAligning, alignRuntimeTorch, planTorchAlignment, build, pinned, aligned,
      if_false, optedOut, if_true]

/-- What settling leaves is what it found, or the SDK's build of the pinned
release, installed in place of something else. -/
theorem settling_spec (torch : Option TorchVersion) :
    setting.torchAfterSettling torch = torch ∨
      (setting.torchAlignmentDisabled = false ∧ ¬ setting.IsSdkTorch torch ∧
        setting.IsSdkTorch (setting.torchAfterSettling torch)) := by
  unfold torchAfterSettling
  split
  · exact setting.align_spec torch
  · exact Or.inl rfl
  · exact Or.inl rfl

/-- The SDK's build of the pinned release is left alone. -/
theorem settling_sdkTorch (isSdk : setting.IsSdkTorch torch) :
    setting.torchAfterSettling torch = torch := by
  rcases setting.settling_spec torch with same | ⟨_, apart, _⟩
  · exact same
  · exact absurd isSdk apart

theorem settling_settled (torch : Option TorchVersion) :
    setting.torchAfterSettling (setting.torchAfterSettling torch) =
      setting.torchAfterSettling torch := by
  rcases setting.settling_spec torch with same | ⟨_, _, isSdk⟩
  · rw [same, same]
  · exact setting.settling_sdkTorch isSdk

/-- A torch that ran a kernel stays, if it is the pinned version or the SDK's
build of its release. -/
theorem settling_keeps {count : Nat} {version : Line}
    (ran : setting.device torch = .usable count version)
    (intended : torch.map TorchVersion.text = some setting.pinned.text ∨
      setting.IsSdkTorch torch) : setting.torchAfterSettling torch = torch := by
  rcases intended with isPinned | isSdk
  · have pinned : requirementPinnedVersion setting.requirement = some setting.pinned.text :=
      pinned_of_requirement setting.pinned
    have reported := setting.reports torch count version ran
    rw [isPinned] at reported
    have retained : classifyRetainedTorch setting.sdkBuild (setting.device torch)
        (some setting.requirement) = .engineBuild version := by
      rw [ran, classifyRetainedTorch]
      simp only [Option.bind_some, pinned, Option.some.inj reported, if_true]
    rw [torchAfterSettling, retained]
  · exact setting.settling_sdkTorch isSdk

/-! ## Each side leaves alone what the other produces -/

/-- A release has no build in it. -/
theorem release_free (version : Line) : '+' ∉ (splitLocalVersion version).1 := by
  unfold splitLocalVersion
  induction version with
  | nil => simp [splitOnce]
  | cons first rest ih =>
      rw [splitOnce]
      by_cases mark : '+' = first
      · have here : ['+'].isPrefixOf (first :: rest) = true := by
          simp only [List.isPrefixOf, Bool.and_true, beq_iff_eq]
          exact mark
        rw [if_pos here]
        exact List.not_mem_nil
      · have apart : ¬ ['+'].isPrefixOf (first :: rest) = true := by
          simp only [List.isPrefixOf, Bool.and_true, beq_iff_eq]
          exact mark
        rw [if_neg apart]
        rcases split : splitOnce ['+'] rest with _ | ⟨front, back⟩
        · rw [split] at ih
          simp only [Option.map_none, List.mem_cons, not_or]
          exact ⟨mark, ih⟩
        · rw [split] at ih
          simp only [Option.map_some, List.mem_cons, not_or]
          exact ⟨mark, ih⟩

theorem splitLocal_sdkTorch (pinned build : Line) :
    splitLocalVersion (sdkTorch pinned build) = ((splitLocalVersion pinned).1, some build) := by
  rw [sdkTorch, splitLocalVersion, splitOnce_mark (release_free pinned) build]

theorem pinned_needs_no_repair : setting.needsRepair (some setting.pinned) = false := by
  have met : setting.meets' (some setting.pinned) = true := setting.meetsItself
  rw [needsRepair, met]
  rfl

theorem sdkTorch_needs_no_repair (isSdk : setting.IsSdkTorch torch) :
    setting.needsRepair torch = false := by
  rcases isSdk with ⟨build, recorded, isSdk⟩
  have isTorch : eqIgnoreAsciiCase torchPackage torchPackage = true := beq_self_eq_true _
  have intended : isIntendedTorchDivergence
      (torchLine setting.pinned.text (torch.map TorchVersion.text)) setting.sdkBuild
        setting.torchAlignmentDisabled = true := by
    rw [isIntendedTorchDivergence, subject_torchLine]
    simp only [isTorch, Bool.not_true, Bool.false_eq_true, if_false, recorded, isSdk,
      splitLocal_sdkTorch, beq_self_eq_true, Bool.and_self, ite_self]
  rw [needsRepair, intended, Bool.not_true, Bool.and_false]

/-- The user's torch is not a defect. -/
theorem opted_out_needs_no_repair (optedOut : setting.torchAlignmentDisabled = true)
    (torch : Option TorchVersion) : setting.needsRepair torch = false := by
  have isTorch : eqIgnoreAsciiCase torchPackage torchPackage = true := beq_self_eq_true _
  have intended : isIntendedTorchDivergence
      (torchLine setting.pinned.text (torch.map TorchVersion.text)) setting.sdkBuild
        setting.torchAlignmentDisabled = true := by
    rw [isIntendedTorchDivergence, subject_torchLine]
    simp only [isTorch, Bool.not_true, Bool.false_eq_true, if_false, optedOut, if_true]
  rw [needsRepair, intended, Bool.not_true, Bool.and_false]

/-- Torch has come to rest: it is no defect to the engine, and settling leaves
it alone. -/
structure AtRest (torch : Option TorchVersion) : Prop where
  sound : setting.needsRepair torch = false
  settled : setting.torchAfterSettling torch = torch

theorem round_eq (request : setting.Request) (reinstall : Bool) (torch : Option TorchVersion) :
    setting.round request reinstall torch =
      setting.torchAfterSettling (setting.torchAfterInstall reinstall torch) := by
  have installed := setting.install_spec request reinstall torch
  rcases installed.answer with ⟨response, answered, python, managed⟩
  unfold round
  simp only [answered]
  rw [setting.settle_spec _ _ python managed, installed.after]

/-- One round brings torch to rest. -/
theorem atRest_round (request : setting.Request) (reinstall : Bool)
    (torch : Option TorchVersion) : setting.AtRest (setting.round request reinstall torch) := by
  have sound : setting.needsRepair (setting.torchAfterInstall reinstall torch) = false := by
    unfold torchAfterInstall
    split
    · exact setting.pinned_needs_no_repair
    · next kept =>
        rw [Bool.or_eq_true, not_or] at kept
        exact Bool.eq_false_iff.mpr kept.2
  rw [round_eq]
  refine ⟨?_, setting.settling_settled _⟩
  rcases setting.settling_spec (setting.torchAfterInstall reinstall torch) with
    same | ⟨_, _, isSdk⟩
  · rw [same]
    exact sound
  · exact setting.sdkTorch_needs_no_repair isSdk

/-- A round without a forced reinstall keeps torch at rest. -/
theorem round_of_atRest (rest : setting.AtRest torch) (request : setting.Request) :
    setting.round request false torch = torch := by
  have kept : setting.torchAfterInstall false torch = torch := by
    rw [torchAfterInstall, rest.sound]
    rfl
  rw [round_eq, kept, rest.settled]

/-- The torch after a series of rounds without a forced reinstall. -/
def rounds (torch : Option TorchVersion) (requests : List setting.Request) :
    Option TorchVersion :=
  requests.foldl (fun torch request => setting.round request false torch) torch

theorem rounds_of_atRest (rest : setting.AtRest torch) (requests : List setting.Request) :
    setting.rounds torch requests = torch := by
  induction requests with
  | nil => rfl
  | cons request requests ih =>
      rw [rounds, List.foldl_cons, setting.round_of_atRest rest request]
      exact ih

end TorchSetting

/-- Settling torch reaches a fixed point.  After one round, rounds without a
forced reinstall leave torch alone and install nothing; two forced reinstalls
end alike; a torch that ran a kernel and is one of the two intended builds is
never replaced; and with the opt-out settling never replaces torch, nor does a
round that is not told to reinstall. -/
theorem torch_settlement_fixed (setting : TorchSetting) (request : setting.Request)
    (torch : Option TorchVersion) :
    (forall (reinstall : Bool) (requests : List setting.Request),
      setting.rounds (setting.round request reinstall torch) requests =
          setting.round request reinstall torch ∧
        forall next action,
          action ∈ (setting.install next false
            (setting.rounds (setting.round request reinstall torch) requests)).actions ->
          action.isInstall = false) ∧
      setting.round request true (setting.round request true torch) =
        setting.round request true torch ∧
      (forall count version, setting.device torch = .usable count version ->
        torch.map TorchVersion.text = some setting.pinned.text ∨ setting.IsSdkTorch torch ->
        forall response : InstallResponse, response.pythonExecutable = setting.python ->
          response.managedEnv = true ->
          (settleEngineInstall setting.settleHost setting.registry torch engineName
            request.selector response).after = torch) ∧
      (setting.torchAlignmentDisabled = true ->
        setting.round request false torch = torch ∧
          forall response : InstallResponse, response.pythonExecutable = setting.python ->
            response.managedEnv = true ->
            (settleEngineInstall setting.settleHost setting.registry torch engineName
              request.selector response).after = torch) := by
  refine ⟨fun reinstall requests => ?_, ?_, ?_, fun optedOut => ?_⟩
  · have rest := setting.atRest_round request reinstall torch
    have stays := setting.rounds_of_atRest rest requests
    refine ⟨stays, fun next action member => ?_⟩
    rw [stays] at member
    by_contra installs
    rw [Bool.not_eq_false] at installs
    have due := (setting.install_spec next false _).installs ⟨action, member, installs⟩
    rw [Bool.false_or, rest.sound] at due
    cases due
  · rw [setting.round_eq, setting.round_eq]
    rfl
  · intro count version ran intended response python managed
    rw [setting.settle_spec torch _ python managed]
    exact setting.settling_keeps ran intended
  · have leaves : setting.torchAfterSettling torch = torch := by
      rcases setting.settling_spec torch with same | ⟨aligned, _, _⟩
      · exact same
      · cases optedOut.symm.trans aligned
    refine ⟨?_, fun response python managed => ?_⟩
    · have kept : setting.torchAfterInstall false torch = torch := by
        rw [TorchSetting.torchAfterInstall, setting.opted_out_needs_no_repair optedOut]
        rfl
      rw [setting.round_eq, kept, leaves]
    · rw [setting.settle_spec torch _ python managed, leaves]

/-! ## A runtime whose engine pins another build -/

def sampleVersion (text : Line) (nonempty : text ≠ [])
    (word : (text.all fun character =>
      !Text.isWhitespace character && character != '`' && character != ',') = true) :
    TorchVersion where
  text := text
  nonempty := nonempty
  oneWord := by
    intro character member
    have kept := List.all_eq_true.mp word character member
    simp only [Bool.and_eq_true, Bool.not_eq_true', bne_iff_ne] at kept
    exact kept.1.1
  noBacktick := by
    intro member
    have kept := List.all_eq_true.mp word _ member
    simp at kept
  noComma := by
    intro member
    have kept := List.all_eq_true.mp word _ member
    simp at kept

def samplePinned : TorchVersion := sampleVersion "2.11.0+git1".toList (by decide) (by decide)

def sampleSdkTorch : TorchVersion :=
  sampleVersion "2.11.0+rocm7.13.0".toList (by decide) (by decide)

def sampleManifest : InstalledRuntimeManifest :=
  ⟨"gfx-7.13.0".toList, "gfx".toList, "7.13.0".toList, ["sdk".toList], some "index".toList,
    some ["sdk".toList, "bin".toList, "python".toList], none, none, 1⟩

/-- Only the SDK's build runs a kernel, and the SDK's index has just that. -/
def sampleSetting : TorchSetting where
  registry := ⟨[(["gfx.json".toList], sampleManifest)], by decide⟩
  manifest := sampleManifest
  only := rfl
  named := by decide
  python := ["sdk".toList, "bin".toList, "python".toList]
  recorded := rfl
  inside := by decide
  isFile := fun _ => true
  present := rfl
  hasVllm := by decide
  pathFolders := []
  canonicalize := fun _ => none
  pinned := samplePinned
  meets := fun version => version.text == samplePinned.text
  meetsItself := beq_self_eq_true _
  others := fun _ => []
  unrelated := nofun
  device := fun torch =>
    match torch with
    | some version =>
        if version.text = sampleSdkTorch.text then .usable 1 version.text
        else .noDevices version.text "7.0".toList
    | none => .notVerified "torch did not import".toList
  reports := by
    intro torch count version ran
    cases torch with
    | none => cases ran
    | some installed =>
        by_cases isSdk : installed.text = sampleSdkTorch.text
        · simp only [if_pos isSdk] at ran
          cases ran
          rfl
        · simp only [if_neg isSdk] at ran
          cases ran
  published := fun wanted =>
    if wanted = sampleSdkTorch.text then .ok sampleSdkTorch
    else .error (ErrorChain.ofMessage "no solution found")
  exact' := by
    intro wanted version published
    by_cases isSdk : wanted = sampleSdkTorch.text
    · rw [if_pos isSdk] at published
      cases published
      exact isSdk.symm
    · rw [if_neg isSdk] at published
      cases published
  torchAlignmentDisabled := false
  hostGpu := .detected
  outcome := fun _ => ⟨[], []⟩
  probeVllmVersion := fun _ => none
  runtimeWarnings := fun _ => []

def sampleRequest : sampleSetting.Request := ⟨"gfx".toList, by decide⟩

theorem sample_comes_to_rest :
    sampleSetting.rounds (sampleSetting.round sampleRequest true none) [sampleRequest] =
      sampleSetting.round sampleRequest true none :=
  ((torch_settlement_fixed sampleSetting sampleRequest none).1 true [sampleRequest]).1

end Vllm
end RocmCli
