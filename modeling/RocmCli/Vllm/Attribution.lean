import RocmCli.Vllm.Install

namespace RocmCli
namespace Vllm

open Files (FilePath)

/-!
# Which runtime an install acts on

The command line names a runtime by its exact key.  The engine reads that key
as the beginning of a key or an id, and once it has picked a candidate it goes
on with the id that the candidate shares with its siblings: to look up the
build of the SDK's torch, and to find the runtime again after the install.

An install acts on the runtime that was asked for exactly when that runtime is
first in line each time.
-/

/-- A runtime as its manifest registers it, with an interpreter that is there
and lies in its own install root. -/
structure ManagedRuntime (registry : Registry) (isFile : FilePath -> Bool) where
  manifest : InstalledRuntimeManifest
  registered : manifest ∈ registry.manifests.map Prod.snd
  python : FilePath
  recorded : manifest.pythonExecutable = some python
  present : isFile python = true
  inside : manifest.installRoot <+: python

/-- How the parts of an install outside the engine turn out. -/
structure InstallOutcomes where
  check : FilePath -> Except ErrorChain (List DependencyViolation)
  install : FilePath -> Bool -> Option Line -> Except ErrorChain VllmInstallOutcome
  version : FilePath -> Option Line
  warnings : VllmRuntime -> List Line
  torchAlignmentDisabled : Bool

/-- The files once vLLM is installed beside an interpreter. -/
def withVllm (files : FilePath -> Bool) (python : FilePath) : FilePath -> Bool :=
  fun path => files path || path == python.dropLast ++ ["vllm".toList]

/-- A machine whose state is the files that are there. -/
def InstallOutcomes.host (outcomes : InstallOutcomes) (folders : List FilePath) :
    EngineHost (FilePath -> Bool) where
  isFile := fun files => files
  pathFolders := folders
  checkDependencies := fun _ => outcomes.check
  probeVllmVersion := fun _ => outcomes.version
  installVllmWithUv := fun files python reinstall rocmSdkVersion =>
    match outcomes.install python reinstall rocmSdkVersion with
    | .ok outcome => (withVllm files python, .ok outcome)
    | .error error => (files, .error error)
  runtimeWarnings := outcomes.warnings
  torchAlignmentDisabled := outcomes.torchAlignmentDisabled

@[simp] theorem host_isFile (outcomes : InstallOutcomes) (folders : List FilePath)
    (files : FilePath -> Bool) : (outcomes.host folders).isFile files = files := rfl

/-- An environment without defects, and an install that succeeds. -/
def InstallOutcomes.sound : InstallOutcomes where
  check := fun _ => .ok []
  install := fun _ _ _ => .ok ⟨[], []⟩
  version := fun _ => none
  warnings := fun _ => []
  torchAlignmentDisabled := false

section Attribution

variable (registry : Registry) (canonicalize : FilePath -> Option FilePath)
  (folders : List FilePath) {files : FilePath -> Bool} (requested : ManagedRuntime registry files)

/-! ## Acting on a runtime -/

def EngineAction.On : EngineAction -> Prop
  | .assess python => python = requested.python
  | .judgeBy build => build = sdkTorchBuildFromManifest requested.manifest.asEngineReads
  | .install python _ rocmSdkVersion =>
      python = requested.python ∧
        rocmSdkVersion = rocmSdkVersionFromManifest requested.manifest.asEngineReads

/-- An interpreter belongs to the requested runtime, to the command line as
well: it settles the torch of the runtime whose root owns it. -/
def Settles : Prop :=
  runtimeKeyOwningPython canonicalize registry.installed requested.python =
    some requested.manifest.runtimeKey

/-- An answer names the requested runtime. -/
structure Names (response : InstallResponse) : Prop where
  python : response.pythonExecutable = requested.python
  settled : response.managedEnv = true ->
    runtimeKeyOwningPython canonicalize registry.installed response.pythonExecutable =
      some requested.manifest.runtimeKey

/-- Everything a run does, and its answer, is about the requested runtime. -/
structure ActsOn (run : InstallRun (FilePath -> Bool)) : Prop where
  actions : forall action, action ∈ run.actions -> action.On registry requested
  answer : forall response, run.result = .ok response ->
    Names registry canonicalize requested response

/-- A request for the runtime's key acts on it, whatever the check finds and
however the install goes. -/
def AlwaysActsOn : Prop :=
  forall (outcomes : InstallOutcomes) (reinstall : Bool),
    ActsOn registry canonicalize requested
      (installResponse (outcomes.host folders) registry files
        ⟨requested.manifest.runtimeKey, reinstall⟩)

/-! ## Being first in line -/

/-- The first candidate for an id that has vLLM beside its interpreter. -/
def firstHolding (isFile : FilePath -> Bool) (runtimeId : Line) : Option ManagedRuntimeCandidate :=
  (collectManagedRuntimeCandidates isFile registry runtimeId).find? fun candidate =>
    (vllmCommandFromPython isFile candidate.pythonExecutable).isSome

/-- The candidate an install for an id goes into. -/
def installTarget (isFile : FilePath -> Bool) (runtimeId : Line) :
    Option ManagedRuntimeCandidate :=
  (firstHolding registry isFile runtimeId).or
    (collectManagedRuntimeCandidates isFile registry runtimeId).head?

/-- Among the files, an id stands for the requested runtime: it is the first
candidate that has vLLM, or there is none and no other vLLM on `PATH`. -/
def StandsFor (isFile : FilePath -> Bool) (runtimeId : Line) : Prop :=
  match firstHolding registry isFile runtimeId with
  | some candidate =>
      candidate.pythonExecutable = requested.python ∧ Settles registry canonicalize requested
  | none =>
      forall command, findCommandOnPath isFile folders "vllm".toList = some command ->
        command = requested.python

/-- The requested runtime is first in line for its key, and for the id that
the candidate picked for its key goes on under. -/
structure FirstInLine : Prop where
  byKey : StandsFor registry canonicalize folders requested files requested.manifest.runtimeKey
  build : forall candidate,
    firstHolding registry files requested.manifest.runtimeKey = some candidate ->
      recordedSdkTorchBuild registry candidate.runtimeId =
        sdkTorchBuildFromManifest requested.manifest.asEngineReads
  target : forall candidate,
    installTarget registry files requested.manifest.runtimeKey = some candidate ->
      candidate.pythonExecutable = requested.python ∧
        candidate.rocmSdkVersion = rocmSdkVersionFromManifest requested.manifest.asEngineReads ∧
        StandsFor registry canonicalize folders requested
          (withVllm files candidate.pythonExecutable) candidate.runtimeId

end Attribution

/-! ## What resolution finds -/

section Resolution

variable {S : Type u} (host : EngineHost S) (state : S) {registry : Registry} {runtimeId : Line}

theorem findSome_runtime {candidates : List ManagedRuntimeCandidate} :
    candidates.findSome? (runtimeFromPython host state) =
      (candidates.find? fun candidate =>
        (vllmCommandFromPython (host.isFile state) candidate.pythonExecutable).isSome).bind
          (runtimeFromPython host state) := by
  induction candidates with
  | nil => rfl
  | cons candidate rest ih =>
      rw [List.findSome?_cons, List.find?_cons]
      rcases command : vllmCommandFromPython (host.isFile state) candidate.pythonExecutable with
        _ | beside
      · have unfound : runtimeFromPython host state candidate = none := by
          simp only [runtimeFromPython, command]
        simp only [unfound, Option.isSome_none]
        exact ih
      · rcases found : runtimeFromPython host state candidate with _ | runtime
        · simp only [runtimeFromPython, command, reduceCtorEq] at found
        · simp only [Option.isSome_some, Option.bind_some, found]

theorem resolveManaged_eq :
    resolveManagedRuntime host registry state runtimeId =
      (firstHolding registry (host.isFile state) runtimeId).bind (runtimeFromPython host state) :=
  findSome_runtime host state

/-- What is found for a candidate carries its interpreter, its id and its SDK. -/
structure FoundFor (candidate : ManagedRuntimeCandidate) (runtime : VllmRuntime) : Prop where
  runtimeId : runtime.runtimeId = candidate.runtimeId
  python : runtime.pythonExecutable = some candidate.pythonExecutable
  rocmSdkVersion : runtime.rocmSdkVersion = candidate.rocmSdkVersion
  managed : runtimeIsManaged runtime = true

theorem source_managed {isFile : FilePath -> Bool} {manifest : TheRockRuntimeManifest}
    {candidate : ManagedRuntimeCandidate}
    (read : managedRuntimeCandidate isFile manifest = some candidate) :
    managedSource.isPrefixOf candidate.source = true := by
  unfold managedRuntimeCandidate at read
  split at read
  · cases read
  · split at read
    · cases read
    · cases read
      apply List.isPrefixOf_iff_prefix.mpr
      split
      · exact List.prefix_refl _
      · exact List.prefix_append _ _

theorem resolve_of_holding {candidate : ManagedRuntimeCandidate}
    (first : firstHolding registry (host.isFile state) runtimeId = some candidate) :
    exists runtime, FoundFor candidate runtime ∧
      resolveVllmRuntime host registry state runtimeId = .ok runtime := by
  have held := List.find?_some first
  rcases Option.isSome_iff_exists.mp held with ⟨command, beside⟩
  rcases List.mem_filterMap.mp (List.mem_of_find?_eq_some first) with ⟨manifest, _, read⟩
  have resolved : resolveManagedRuntime host registry state runtimeId =
      runtimeFromPython host state candidate := by
    rw [resolveManaged_eq, first, Option.bind_some]
  rcases found : runtimeFromPython host state candidate with _ | runtime
  · simp only [runtimeFromPython, beside, reduceCtorEq] at found
  · refine ⟨runtime, ?_, by rw [resolveVllmRuntime, resolved, found]⟩
    simp only [runtimeFromPython, beside, Option.some.injEq] at found
    cases found
    exact ⟨rfl, rfl, rfl, source_managed read⟩

theorem resolve_of_path {command : FilePath}
    (none' : firstHolding registry (host.isFile state) runtimeId = none)
    (onPath : findCommandOnPath (host.isFile state) host.pathFolders "vllm".toList =
      some command) :
    exists runtime, runtime.pythonExecutable = none ∧ runtime.command = command ∧
      runtimeIsManaged runtime = false ∧
      resolveVllmRuntime host registry state runtimeId = .ok runtime := by
  rw [resolveVllmRuntime, resolveManaged_eq, none', Option.bind_none]
  simp only [onPath]
  exact ⟨_, rfl, rfl, rfl, rfl⟩

theorem resolve_fails (none' : firstHolding registry (host.isFile state) runtimeId = none)
    (nowhere : findCommandOnPath (host.isFile state) host.pathFolders "vllm".toList = none) :
    exists error, resolveVllmRuntime host registry state runtimeId = .error error := by
  rw [resolveVllmRuntime, resolveManaged_eq, none', Option.bind_none]
  simp only [nowhere]
  exact ⟨_, rfl⟩

end Resolution

/-- What an id resolves to names the requested runtime exactly when the id
stands for it. -/
theorem names_iff_standsFor {registry : Registry} (outcomes : InstallOutcomes)
    (folders : List FilePath) (canonicalize : FilePath -> Option FilePath)
    {asked : FilePath -> Bool} (requested : ManagedRuntime registry asked) (repair : RepairAssessment)
    (outcome : VllmInstallOutcome) {files : FilePath -> Bool} {runtimeId : Line} :
    (forall runtime,
      resolveVllmRuntime (outcomes.host folders) registry files runtimeId = .ok runtime ->
        Names registry canonicalize requested
          (installResponseFor (outcomes.host folders) runtime repair outcome)) ↔
      StandsFor registry canonicalize folders requested files runtimeId := by
  unfold StandsFor
  rcases first : firstHolding registry files runtimeId with _ | candidate
  · rcases onPath : findCommandOnPath files folders "vllm".toList with _ | command
    · rcases resolve_fails (outcomes.host folders) files first onPath with ⟨error, fails⟩
      constructor
      · intro _ command impossible
        cases impossible
      · intro _ runtime resolved
        cases fails.symm.trans resolved
    · rcases resolve_of_path (outcomes.host folders) files first onPath with
        ⟨runtime, noPython, isCommand, unmanaged, resolved⟩
      have answered : (installResponseFor (outcomes.host folders) runtime repair
          outcome).pythonExecutable = command := by
        rw [installResponseFor, noPython, Option.getD_none, isCommand]
      constructor
      · intro names other same
        cases same
        exact answered.symm.trans (names runtime resolved).python
      · intro same other resolvedOther
        cases resolved.symm.trans resolvedOther
        refine ⟨answered.trans (same command rfl), fun managed => ?_⟩
        cases unmanaged.symm.trans managed
  · rcases resolve_of_holding (outcomes.host folders) files first with ⟨runtime, found, resolved⟩
    have answered : (installResponseFor (outcomes.host folders) runtime repair
        outcome).pythonExecutable = candidate.pythonExecutable := by
      rw [installResponseFor, found.python, Option.getD_some]
    constructor
    · intro names
      have named := names runtime resolved
      have same := answered.symm.trans named.python
      have settled := named.settled found.managed
      rw [named.python] at settled
      exact ⟨same, settled⟩
    · rintro ⟨same, settles⟩ other resolvedOther
      cases resolved.symm.trans resolvedOther
      refine ⟨answered.trans same, fun _ => ?_⟩
      rw [answered, same]
      exact settles

/-! ## Being first is enough -/

section Enough

variable {registry : Registry} {canonicalize : FilePath -> Option FilePath}
  {folders : List FilePath} {files : FilePath -> Bool} {requested : ManagedRuntime registry files}

theorem installInto_acts (outcomes : InstallOutcomes) (reinstall : Bool) (repair : RepairAssessment)
    {managed : ManagedRuntimePython} (python : managed.pythonExecutable = requested.python)
    (version : managed.rocmSdkVersion =
      rocmSdkVersionFromManifest requested.manifest.asEngineReads)
    (stands : StandsFor registry canonicalize folders requested
      (withVllm files managed.pythonExecutable) managed.runtimeId) :
    ActsOn registry canonicalize requested
      (installInto (outcomes.host folders) registry files reinstall repair managed) := by
  have installed : EngineAction.On registry requested
      (.install managed.pythonExecutable reinstall managed.rocmSdkVersion) := ⟨python, version⟩
  unfold installInto
  rcases went : outcomes.install managed.pythonExecutable reinstall managed.rocmSdkVersion with
    error | outcome
  · simp only [InstallOutcomes.host, went]
    refine ⟨fun action member => ?_, fun response impossible => nomatch impossible⟩
    cases List.mem_singleton.mp member
    exact installed
  · have after : (outcomes.host folders).installVllmWithUv files managed.pythonExecutable
        reinstall managed.rocmSdkVersion =
          (withVllm files managed.pythonExecutable, .ok outcome) := by
      simp only [InstallOutcomes.host, went]
    have names := (names_iff_standsFor outcomes folders canonicalize requested repair outcome).mpr
      stands
    rcases resolved : resolveVllmRuntime (outcomes.host folders) registry
        (withVllm files managed.pythonExecutable) managed.runtimeId with error | runtime
    · simp only [after, resolved]
      refine ⟨fun action member => ?_, fun response impossible => nomatch impossible⟩
      cases List.mem_singleton.mp member
      exact installed
    · simp only [after, resolved]
      refine ⟨fun action member => ?_, fun response answered => ?_⟩
      · cases List.mem_singleton.mp member
        exact installed
      · cases answered
        exact names runtime resolved

/-- What is found first is assessed as the requested runtime. -/
theorem assess_acts (outcomes : InstallOutcomes) {candidate : ManagedRuntimeCandidate}
    {runtime : VllmRuntime} (found : FoundFor candidate runtime)
    (python : candidate.pythonExecutable = requested.python)
    (build : recordedSdkTorchBuild registry candidate.runtimeId =
      sdkTorchBuildFromManifest requested.manifest.asEngineReads) {action : EngineAction}
    (member : action ∈ (assessRuntimeRepair (outcomes.host folders) registry files runtime).1) :
    action.On registry requested := by
  unfold assessRuntimeRepair at member
  rw [found.managed, found.python, found.runtimeId] at member
  simp only [Bool.not_true, Bool.false_eq_true, if_false] at member
  split at member
  · cases List.mem_singleton.mp member
    exact python
  · rcases List.mem_cons.mp member with assessed | judged
    · cases assessed
      exact python
    · cases List.mem_singleton.mp judged
      exact build

theorem assess_external (outcomes : InstallOutcomes) {runtime : VllmRuntime}
    (unmanaged : runtimeIsManaged runtime = false) :
    assessRuntimeRepair (outcomes.host folders) registry files runtime = ([], .default) := by
  rw [assessRuntimeRepair, unmanaged]
  rfl

/-- The environment an install without an assessed one goes into. -/
theorem targetPython_of_unheld {runtimeId : Line}
    (none' : firstHolding registry files runtimeId = none) :
    resolveManagedRuntimePython files registry runtimeId =
      (installTarget registry files runtimeId).map fun candidate =>
        ⟨candidate.runtimeId, candidate.pythonExecutable, candidate.rocmSdkVersion⟩ := by
  rw [installTarget, none', Option.none_or]
  rfl

/-- An install into the target of a request acts on the requested runtime. -/
theorem intoTarget_acts (first : FirstInLine registry canonicalize folders requested)
    (outcomes : InstallOutcomes) (reinstall : Bool) (repair : RepairAssessment)
    {candidate : ManagedRuntimeCandidate}
    (isTarget : installTarget registry files requested.manifest.runtimeKey = some candidate) :
    ActsOn registry canonicalize requested
      (installInto (outcomes.host folders) registry files reinstall repair
        ⟨candidate.runtimeId, candidate.pythonExecutable, candidate.rocmSdkVersion⟩) := by
  rcases first.target candidate isTarget with ⟨python, version, stands⟩
  exact installInto_acts outcomes reinstall repair python version stands

theorem acts_of_error {actions : List EngineAction} {after : FilePath -> Bool} {error : ErrorChain}
    (on : forall action, action ∈ actions -> action.On registry requested) :
    ActsOn registry canonicalize requested ⟨actions, after, .error error⟩ :=
  ⟨on, nofun⟩

theorem acts_of_firstInLine (first : FirstInLine registry canonicalize folders requested) :
    AlwaysActsOn registry canonicalize folders requested := by
  intro outcomes reinstall
  have names := fun repair outcome => (names_iff_standsFor outcomes folders canonicalize requested
    repair outcome).mpr first.byKey
  rcases held : firstHolding registry files requested.manifest.runtimeKey with _ | candidate
  · have unassessed : forall repair installed,
        installed = (resolveManagedRuntimePython files registry requested.manifest.runtimeKey).elim
          ⟨[], files, .error (notManaged files registry requested.manifest.runtimeKey)⟩
          (installInto (outcomes.host folders) registry files reinstall repair) ->
        ActsOn registry canonicalize requested installed := by
      rintro repair _ rfl
      rw [targetPython_of_unheld held]
      rcases isTarget : installTarget registry files requested.manifest.runtimeKey with _ | candidate
      · exact acts_of_error (by rintro _ ⟨⟩)
      · exact intoTarget_acts first outcomes reinstall repair isTarget
    rcases onPath : findCommandOnPath files folders "vllm".toList with _ | command
    · rcases resolve_fails (outcomes.host folders) files held onPath with ⟨error, fails⟩
      simp only [installResponse, fails]
      refine unassessed .default _ ?_
      rw [host_isFile]
      cases resolveManagedRuntimePython files registry requested.manifest.runtimeKey <;> rfl
    · rcases resolve_of_path (outcomes.host folders) files held onPath with
        ⟨runtime, noPython, _, unmanaged, resolved⟩
      have noAssessed : assessedPythonForRepair runtime = none := by
        rw [assessedPythonForRepair, noPython, Option.map_none]
      simp only [installResponse, resolved, assess_external outcomes unmanaged, noAssessed,
        Option.none_or]
      split
      · have acts := unassessed .default
        rcases into : resolveManagedRuntimePython files registry
            requested.manifest.runtimeKey with _ | managed
        · rw [into] at acts
          simp only [host_isFile, into]
          exact acts _ rfl
        · rw [into] at acts
          simp only [host_isFile, into, List.nil_append]
          exact acts _ rfl
      · refine ⟨by rintro _ ⟨⟩, fun response answered => ?_⟩
        cases answered
        exact names _ _ runtime resolved
  · rcases resolve_of_holding (outcomes.host folders) files held with ⟨runtime, found, resolved⟩
    have isTarget : installTarget registry files requested.manifest.runtimeKey = some candidate := by
      rw [installTarget, held, Option.some_or]
    have assessed : forall action, action ∈
        (assessRuntimeRepair (outcomes.host folders) registry files runtime).1 ->
          EngineAction.On registry requested action := fun action =>
      assess_acts outcomes found (first.target candidate isTarget).1 (first.build candidate held)
    have isAssessed : assessedPythonForRepair runtime = some
        ⟨candidate.runtimeId, candidate.pythonExecutable, candidate.rocmSdkVersion⟩ := by
      rw [assessedPythonForRepair, found.python, found.runtimeId, found.rocmSdkVersion,
        Option.map_some]
    simp only [installResponse, resolved, isAssessed, Option.some_or]
    split
    · have into := intoTarget_acts first outcomes reinstall
        (assessRuntimeRepair (outcomes.host folders) registry files runtime).2 isTarget
      refine ⟨fun action member => ?_, into.answer⟩
      rcases List.mem_append.mp member with before | after
      · exact assessed action before
      · exact into.actions action after
    · refine ⟨assessed, fun response answered => ?_⟩
      cases answered
      exact names _ _ runtime resolved

end Enough

/-! ## Being first is needed -/

section Needed

variable {registry : Registry} {canonicalize : FilePath -> Option FilePath}
  {folders : List FilePath} {files : FilePath -> Bool} {requested : ManagedRuntime registry files}
  {candidate : ManagedRuntimeCandidate}

theorem needs_no_repair (registry : Registry) (files : FilePath -> Bool) (runtime : VllmRuntime) :
    (assessRuntimeRepair (InstallOutcomes.sound.host folders) registry files runtime).2 =
      .default := by
  unfold assessRuntimeRepair
  split
  · rfl
  · split
    · rfl
    · exact repairFromViolations_nil (recordedSdkTorchBuild registry runtime.runtimeId) false

theorem standsFor_key_of_acts (acts : AlwaysActsOn registry canonicalize folders requested) :
    StandsFor registry canonicalize folders requested files requested.manifest.runtimeKey := by
  apply (names_iff_standsFor InstallOutcomes.sound folders canonicalize requested .default
    ⟨[], []⟩).mp
  intro runtime resolved
  have run := acts InstallOutcomes.sound false
  simp only [installResponse, resolved, needs_no_repair, RepairAssessment.default,
    Bool.or_self, Bool.false_eq_true, if_false] at run
  exact run.answer _ rfl

/-- A sound environment is judged by the build looked up for it. -/
theorem judges {runtime : VllmRuntime}
    (found : FoundFor candidate runtime) :
    EngineAction.judgeBy (recordedSdkTorchBuild registry candidate.runtimeId) ∈
      (assessRuntimeRepair (InstallOutcomes.sound.host folders) registry files runtime).1 := by
  unfold assessRuntimeRepair
  rw [found.managed, found.python, found.runtimeId]
  exact List.mem_cons_of_mem _ List.mem_cons_self

theorem build_of_acts (acts : AlwaysActsOn registry canonicalize folders requested)
    (held : firstHolding registry files requested.manifest.runtimeKey = some candidate) :
    recordedSdkTorchBuild registry candidate.runtimeId =
      sdkTorchBuildFromManifest requested.manifest.asEngineReads := by
  rcases resolve_of_holding (InstallOutcomes.sound.host folders) files held with ⟨runtime, found, resolved⟩
  have run := acts InstallOutcomes.sound false
  simp only [installResponse, resolved, needs_no_repair, RepairAssessment.default,
    Bool.or_self, Bool.false_eq_true, if_false] at run
  exact run.actions _ (judges found)

/-- A forced reinstall goes into the target of the request. -/
theorem reinstall_into_target
    (isTarget : installTarget registry files requested.manifest.runtimeKey = some candidate) :
    exists before repair,
      installResponse (InstallOutcomes.sound.host folders) registry files
          ⟨requested.manifest.runtimeKey, true⟩ =
        let run := installInto (InstallOutcomes.sound.host folders) registry files true repair
          ⟨candidate.runtimeId, candidate.pythonExecutable, candidate.rocmSdkVersion⟩
        { run with actions := before ++ run.actions } := by
  rcases held : firstHolding registry files requested.manifest.runtimeKey with _ | first
  · have into := targetPython_of_unheld held
    rw [isTarget, Option.map_some] at into
    rcases onPath : findCommandOnPath files folders "vllm".toList with _ | command
    · rcases resolve_fails (InstallOutcomes.sound.host folders) files held onPath with ⟨error, fails⟩
      refine ⟨[], .default, ?_⟩
      simp only [installResponse, fails, host_isFile, into, List.nil_append]
    · rcases resolve_of_path (InstallOutcomes.sound.host folders) files held onPath with
        ⟨runtime, noPython, _, unmanaged, resolved⟩
      have noAssessed : assessedPythonForRepair runtime = none := by
        rw [assessedPythonForRepair, noPython, Option.map_none]
      refine ⟨[], .default, ?_⟩
      simp only [installResponse, resolved, assess_external InstallOutcomes.sound unmanaged,
        noAssessed, Option.none_or, Bool.true_or, if_true, host_isFile, into]
  · rcases resolve_of_holding (InstallOutcomes.sound.host folders) files held with ⟨runtime, found, resolved⟩
    have same : first = candidate := by
      rw [installTarget, held, Option.some_or] at isTarget
      exact Option.some.inj isTarget
    have isAssessed : assessedPythonForRepair runtime = some
        ⟨candidate.runtimeId, candidate.pythonExecutable, candidate.rocmSdkVersion⟩ := by
      rw [assessedPythonForRepair, found.python, found.runtimeId, found.rocmSdkVersion,
        Option.map_some, same]
    refine ⟨(assessRuntimeRepair (InstallOutcomes.sound.host folders) registry files runtime).1,
      (assessRuntimeRepair (InstallOutcomes.sound.host folders) registry files runtime).2, ?_⟩
    simp only [installResponse, resolved, isAssessed, Option.some_or, Bool.true_or, if_true]

theorem target_of_acts (acts : AlwaysActsOn registry canonicalize folders requested)
    (isTarget : installTarget registry files requested.manifest.runtimeKey = some candidate) :
    candidate.pythonExecutable = requested.python ∧
      candidate.rocmSdkVersion = rocmSdkVersionFromManifest requested.manifest.asEngineReads ∧
      StandsFor registry canonicalize folders requested
        (withVllm files candidate.pythonExecutable) candidate.runtimeId := by
  have run := acts InstallOutcomes.sound true
  rcases @reinstall_into_target _ folders _ _ _ isTarget with ⟨before, repair, same⟩
  rw [same] at run
  have installed : EngineAction.On registry requested
      (.install candidate.pythonExecutable true candidate.rocmSdkVersion) := by
    apply run.actions
    apply List.mem_append_right
    unfold installInto
    simp only [InstallOutcomes.host, InstallOutcomes.sound]
    split <;> exact List.mem_singleton_self _
  refine ⟨installed.1, installed.2, ?_⟩
  apply (names_iff_standsFor InstallOutcomes.sound folders canonicalize requested repair
    ⟨[], []⟩).mp
  intro runtime resolved
  have after : (InstallOutcomes.sound.host folders).installVllmWithUv files
      candidate.pythonExecutable true candidate.rocmSdkVersion =
        (withVllm files candidate.pythonExecutable, .ok ⟨[], []⟩) := rfl
  have answer := run.answer
  simp only [installInto, after, resolved] at answer
  exact answer _ rfl

end Needed

/-- An install for a runtime's key acts on that runtime, whatever the check
finds and however the install goes, exactly when the runtime is first in line
for its key, and for the id the engine goes on with. -/
theorem acts_on_requested_iff (registry : Registry) (canonicalize : FilePath -> Option FilePath)
    (folders : List FilePath) {files : FilePath -> Bool}
    (requested : ManagedRuntime registry files) :
    AlwaysActsOn registry canonicalize folders requested ↔
      FirstInLine registry canonicalize folders requested :=
  ⟨fun acts => ⟨standsFor_key_of_acts acts, fun _ => build_of_acts acts,
    fun _ => target_of_acts acts⟩, acts_of_firstInLine⟩

/-! ## A sibling installed later -/

/-- Two versions of one channel and family, side by side, both with vLLM. -/
def siblings : Registry where
  manifests :=
    [(["old.json".toList],
      ⟨"gfx-7.2".toList, "gfx".toList, "7.2".toList, ["old".toList], none,
        some ["old".toList, "bin".toList, "python".toList], none, none, 1⟩),
     (["new.json".toList],
      ⟨"gfx-7.3".toList, "gfx".toList, "7.3".toList, ["new".toList], none,
        some ["new".toList, "bin".toList, "python".toList], none, none, 2⟩)]
  distinct := by decide

def siblingFiles (path : FilePath) : Bool :=
  path.dropLast == ["old".toList, "bin".toList] || path.dropLast == ["new".toList, "bin".toList]

/-- The older of the two. -/
def olderSibling : ManagedRuntime siblings siblingFiles where
  manifest :=
    ⟨"gfx-7.2".toList, "gfx".toList, "7.2".toList, ["old".toList], none,
      some ["old".toList, "bin".toList, "python".toList], none, none, 1⟩
  registered := by decide
  python := ["old".toList, "bin".toList, "python".toList]
  recorded := rfl
  present := by decide
  inside := by decide

/-- The newer of the two. -/
def newerSibling : ManagedRuntime siblings siblingFiles where
  manifest :=
    ⟨"gfx-7.3".toList, "gfx".toList, "7.3".toList, ["new".toList], none,
      some ["new".toList, "bin".toList, "python".toList], none, none, 2⟩
  registered := by decide
  python := ["new".toList, "bin".toList, "python".toList]
  recorded := rfl
  present := by decide
  inside := by decide

/-- The older sibling is asked for by its own key, vLLM is installed into it
again, and the answer names the newer one's interpreter. -/
theorem older_sibling_fails : ¬ AlwaysActsOn siblings some [] olderSibling := by
  intro acts
  have run := acts InstallOutcomes.sound true
  have answered : (installResponse (InstallOutcomes.sound.host []) siblings siblingFiles
      ⟨"gfx-7.2".toList, true⟩).result.toOption.map InstallResponse.pythonExecutable =
        some newerSibling.python := by
    decide
  rcases result : (installResponse (InstallOutcomes.sound.host []) siblings siblingFiles
    ⟨"gfx-7.2".toList, true⟩).result with error | response
  · rw [result] at answered
    cases answered
  · rw [result] at answered
    have named := (run.answer response result).python
    exact absurd ((Option.some.inj answered).symm.trans named) (by decide)

/-- The newer sibling is first in line for its key and for the shared id. -/
theorem newer_sibling_acts : AlwaysActsOn siblings some [] newerSibling := by
  have stands : forall isFile runtimeId,
      (firstHolding siblings isFile runtimeId).map ManagedRuntimeCandidate.pythonExecutable =
        some newerSibling.python -> StandsFor siblings some [] newerSibling isFile runtimeId := by
    intro isFile runtimeId held
    unfold StandsFor
    rcases found : firstHolding siblings isFile runtimeId with _ | candidate
    · rw [found] at held
      cases held
    · rw [found] at held
      have settles : runtimeKeyOwningPython some siblings.installed newerSibling.python =
          some newerSibling.manifest.runtimeKey := by decide
      exact ⟨Option.some.inj held, settles⟩
  have builds : (firstHolding siblings siblingFiles "gfx-7.3".toList).map (fun candidate =>
      recordedSdkTorchBuild siblings candidate.runtimeId) =
        some (sdkTorchBuildFromManifest newerSibling.manifest.asEngineReads) := by decide
  have targets : (installTarget siblings siblingFiles "gfx-7.3".toList).map (fun candidate =>
      (candidate.pythonExecutable, candidate.rocmSdkVersion, candidate.runtimeId)) =
        some (newerSibling.python,
          rocmSdkVersionFromManifest newerSibling.manifest.asEngineReads, "gfx".toList) := by decide
  refine (acts_on_requested_iff siblings some [] newerSibling).mpr
    ⟨stands _ _ (by decide), fun candidate isFirst => ?_, fun candidate isTarget => ?_⟩
  · have first : firstHolding siblings siblingFiles "gfx-7.3".toList = some candidate := isFirst
    rw [first] at builds
    exact Option.some.inj builds
  · have target : installTarget siblings siblingFiles "gfx-7.3".toList = some candidate := isTarget
    rw [target] at targets
    rcases Prod.mk.inj (Option.some.inj targets) with ⟨isPython, others⟩
    rcases Prod.mk.inj others with ⟨isVersion, isId⟩
    refine ⟨isPython, isVersion, ?_⟩
    rw [isPython, isId]
    exact stands _ _ (by decide)

end Vllm
end RocmCli
