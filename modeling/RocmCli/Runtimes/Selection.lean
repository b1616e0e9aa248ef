import RocmCli.Support.Runs
import RocmCli.Runtimes.Uninstall

namespace RocmCli
namespace Runtimes

open Runs Text

/-!
# Which runtime is selected

A state is the disk and the config a process holds, and a step is a call of
one of the three operations on it, with the machine it meets.  The active and
the previous key are compared in four ways: exactly, by the newest match up to
letter case, by the only match up to letter case, and by the marker up to
letter case.  `Unmistaken` says of a call that these agree for the keys it
touches.
-/

structure RuntimeState where
  disk : Disk
  config : RocmCliConfig

inductive RuntimeOperation where
  | activate (runtimeKey : String)
  | rollback
  | uninstall (runtimeKey : String)
  deriving DecidableEq, Repr

structure RuntimeCall where
  machine : Machine
  operation : RuntimeOperation

def Outcome.state {R : Type} (outcome : Outcome R) : RuntimeState :=
  ⟨outcome.disk, outcome.config⟩

/-- The key a marker names. -/
def markerKeyOf (json : Json) : PathState -> Option String
  | .file bytes => (json.marker.fromSlice bytes).toOption.map (·.runtimeKey)
  | .absent | .lockedFile _ _ | .other _ => none

namespace RuntimeState

/-- The registered runtimes in the order every lookup meets them. -/
def manifests (state : RuntimeState) : List InstalledRuntimeManifest :=
  sortManifestsNewestInstallFirst state.disk.registry

def markerKey (json : Json) (state : RuntimeState) : Option String :=
  markerKeyOf json state.disk.marker

end RuntimeState

section Calls

variable (json : Json) (paths : AppPaths)

/-- The state after a call. -/
def perform (state : RuntimeState) (call : RuntimeCall) : RuntimeState :=
  match call.operation with
  | .activate runtimeKey =>
      (activateRuntime json paths call.machine state.disk state.config runtimeKey).state
  | .rollback => (rollbackRuntime json paths call.machine state.disk state.config).state
  | .uninstall runtimeKey =>
      (uninstallRuntime json paths call.machine state.disk state.config runtimeKey).state

def succeeds (state : RuntimeState) (call : RuntimeCall) : Bool :=
  match call.operation with
  | .activate runtimeKey =>
      (activateRuntime json paths call.machine state.disk state.config runtimeKey).result.isOk
  | .rollback => (rollbackRuntime json paths call.machine state.disk state.config).result.isOk
  | .uninstall runtimeKey =>
      (uninstallRuntime json paths call.machine state.disk state.config runtimeKey).result.isOk

end Calls

/-! ## What is claimed of a state and of a call -/

/-- Keys are distinct, the active runtime is registered, it is not its own
rollback target, and the marker names it. -/
structure Consistent (json : Json) (state : RuntimeState) : Prop where
  distinct : DistinctKeys state.disk.registry
  registered : forall active, state.config.activeRuntimeKey = some active ->
    Registered state.manifests active
  different : forall active, state.config.activeRuntimeKey = some active ->
    state.config.previousRuntimeKey ≠ some active
  marker : state.markerKey json = state.config.activeRuntimeKey

/-- A switch leaves the registry alone and names the runtime asked for. -/
structure Activated (before : RuntimeState) (runtimeKey : String) (after : RuntimeState) :
    Prop where
  active : after.config.activeRuntimeKey = some runtimeKey
  again : before.config.activeRuntimeKey = some runtimeKey ->
    after.config.previousRuntimeKey = before.config.previousRuntimeKey
  switched : forall active, before.config.activeRuntimeKey = some active -> active ≠ runtimeKey ->
    after.config.previousRuntimeKey = some active
  registry : after.disk.registry = before.disk.registry

/-- A rollback swaps the active and the previous key. -/
structure RolledBack (before after : RuntimeState) : Prop where
  swapped : forall active previous, before.config.activeRuntimeKey = some active ->
    before.config.previousRuntimeKey = some previous -> Registered before.manifests previous ->
    previous ≠ active ->
      after.config.activeRuntimeKey = some previous ∧
        after.config.previousRuntimeKey = some active
  registry : after.disk.registry = before.disk.registry

/-- The default runtime id is this runtime's, up to letter case. -/
def DefaultNames (state : RuntimeState) (manifest : InstalledRuntimeManifest) : Prop :=
  state.config.defaultRuntimeId.any (eqIgnoreAsciiCase · manifest.runtimeId) = true

/-- A removal drops the runtime and what refers to it, and nothing else. -/
structure Uninstalled (json : Json) (before : RuntimeState) (runtimeKey : String)
    (after : RuntimeState) : Prop where
  registry : after.disk.registry =
    before.disk.registry.filter fun manifest => manifest.runtimeKey != runtimeKey
  active : after.config.activeRuntimeKey =
    before.config.activeRuntimeKey.filter (· != runtimeKey)
  previous : after.config.previousRuntimeKey =
    before.config.previousRuntimeKey.filter (· != runtimeKey)
  marker : after.disk.marker =
    if before.markerKey json = some runtimeKey then .absent else before.disk.marker
  /-- The default id goes only with the active runtime it names, or with the
  last runtime it names. -/
  default : after.config.defaultRuntimeId = before.config.defaultRuntimeId ∨
    after.config.defaultRuntimeId = none ∧
      (exists manifest, manifest ∈ before.manifests ∧ manifest.runtimeKey = runtimeKey ∧
        DefaultNames before manifest) ∧
      (before.config.activeRuntimeKey = some runtimeKey ∨
        forall other, other ∈ before.manifests -> other.runtimeKey ≠ runtimeKey ->
          ¬ DefaultNames before other)

def OperationKeeps (json : Json) (before : RuntimeState) (operation : RuntimeOperation)
    (after : RuntimeState) : Prop :=
  match operation with
  | .activate runtimeKey => Activated before runtimeKey after
  | .rollback => RolledBack before after
  | .uninstall runtimeKey => Uninstalled json before runtimeKey after

/-! ## When lookups cannot be mistaken -/

/-- The default runtime id alone names this runtime. -/
def DefaultNamesOnly (state : RuntimeState) (runtimeKey : String) : Prop :=
  exists runtimeId, state.config.defaultRuntimeId = some runtimeId ∧
    forall other, other ∈ state.manifests ->
      (eqIgnoreAsciiCase other.runtimeId runtimeId = true ↔ other.runtimeKey = runtimeKey)

/-- A reference that is this key up to letter case is this key. -/
def SameLetters (reference : Option String) (runtimeKey : String) : Prop :=
  forall key, reference = some key -> eqIgnoreAsciiCase key runtimeKey = true -> key = runtimeKey

def Unmistaken (state : RuntimeState) : RuntimeOperation -> Prop
  | .activate runtimeKey =>
      NamesItself state.manifests runtimeKey ∧
        (forall active, state.config.activeRuntimeKey = some active ->
          NewestOfItsName state.manifests active) ∧
        (state.config.activeRuntimeKey = none ->
          state.config.previousRuntimeKey = some runtimeKey ->
            ¬ DefaultNamesOnly state runtimeKey)
  | .rollback =>
      forall active previous, state.config.activeRuntimeKey = some active ->
        state.config.previousRuntimeKey = some previous ->
        Registered state.manifests previous ->
          NewestOfItsName state.manifests active ∧ NamesItself state.manifests previous
  | .uninstall runtimeKey =>
      NamesItself state.manifests runtimeKey ∧
        SameLetters state.config.activeRuntimeKey runtimeKey ∧
        SameLetters state.config.previousRuntimeKey runtimeKey

/-- The key an activation or a removal is asked for is registered as it is
typed. -/
def ExactKey (state : RuntimeState) : RuntimeOperation -> Prop
  | .activate runtimeKey | .uninstall runtimeKey => Registered state.manifests runtimeKey
  | .rollback => True

structure Allowed (json : Json) (paths : AppPaths) (state : RuntimeState) (call : RuntimeCall) :
    Prop where
  succeeded : succeeds json paths state call = true
  exactKey : ExactKey state call.operation
  unmistaken : Unmistaken state call.operation

/-! ## One call -/

section Steps

variable {json : Json} {paths : AppPaths} {state : RuntimeState} {machine : Machine}

theorem isOk_elim {R : Type} {result : Except ErrorChain R} (succeeded : result.isOk = true) :
    exists value, result = .ok value := by
  cases result with
  | error error => cases succeeded
  | ok value => exact ⟨value, rfl⟩

/-- Where the lookup of the active key is not mistaken, the runtime in use is
the active one. -/
theorem current_key (consistent : Consistent json state) {active : String}
    (isActive : state.config.activeRuntimeKey = some active)
    (newest : NewestOfItsName state.manifests active) :
    exists manifest, currentRuntimeManifest state.config state.manifests = some manifest ∧
      manifest.runtimeKey = active := by
  rcases currentRuntimeManifest_of_active isActive (consistent.registered active isActive) with
    ⟨manifest, current, -, exactly⟩
  exact ⟨manifest, current, exactly newest⟩

/-- What a switch that succeeds does to the state. -/
structure Switched (json : Json) (before : RuntimeState) (plan : SwitchPlan)
    (after : RuntimeState) : Prop where
  config : after.config = plan.switched before.config
  registry : after.disk.registry = before.disk.registry
  marker : after.markerKey json = some plan.manifest.runtimeKey

theorem runSwitch_switched {decided : Except ErrorChain SwitchPlan} (succeeded :
      (runSwitch json paths machine state.disk state.config decided).result.isOk = true) :
    exists plan, decided = .ok plan ∧
      Switched json state plan
        (runSwitch json paths machine state.disk state.config decided).state := by
  rcases isOk_elim succeeded with ⟨result, isOk⟩
  rcases runSwitch_ok isOk with ⟨plan, file, marker, isPlan, -, wrote, ended⟩
  rcases writeActiveRuntimeMarker_ok wrote with ⟨bytes, written, isFile⟩
  refine ⟨plan, isPlan, ?_⟩
  rw [ended]
  refine ⟨rfl, rfl, ?_⟩
  simp only [RuntimeState.markerKey, markerKeyOf, Outcome.state, isFile,
    json.marker.roundTrip _ _ written]
  rfl

/-- A switch to a registered runtime that is not its own rollback target keeps
the state consistent. -/
theorem Switched.consistent {plan : SwitchPlan} {after : RuntimeState}
    (switched : Switched json state plan after) (consistent : Consistent json state)
    (member : plan.manifest ∈ state.manifests)
    (different : plan.previousRuntimeKey ≠ some plan.manifest.runtimeKey) :
    Consistent json after where
  distinct := by
    rw [switched.registry]
    exact consistent.distinct
  registered := by
    intro active isActive
    rw [switched.config] at isActive
    rw [RuntimeState.manifests, switched.registry]
    exact ⟨plan.manifest, member, Option.some.inj isActive⟩
  different := by
    intro active isActive
    rw [switched.config] at isActive ⊢
    rw [← isActive]
    exact different
  marker := by
    rw [switched.marker, switched.config]
    rfl

variable {runtimeKey : String}

theorem activate_keeps (consistent : Consistent json state)
    (succeeded : (activateRuntime json paths machine state.disk state.config
      runtimeKey).result.isOk = true) (registered : Registered state.manifests runtimeKey)
    (unmistaken : Unmistaken state (.activate runtimeKey)) :
    Activated state runtimeKey
        (activateRuntime json paths machine state.disk state.config runtimeKey).state ∧
      Consistent json
        (activateRuntime json paths machine state.disk state.config runtimeKey).state := by
  rcases unmistaken with ⟨names, newest, notDefault⟩
  rcases runSwitch_switched succeeded with ⟨plan, isPlan, switched⟩
  rcases planActivation_ok isPlan with ⟨decided, left⟩
  have exactly : plan.manifest.runtimeKey = runtimeKey :=
    selectRuntimeManifest_exact registered names decided.selected
  have member : plan.manifest ∈ state.manifests := (selectRuntimeManifest_ok decided.selected).1
  change plan.previousRuntimeKey = leftBehind state.config state.manifests plan.manifest at left
  have previousIs : (activateRuntime json paths machine state.disk state.config
      runtimeKey).state.config.previousRuntimeKey = plan.previousRuntimeKey := by
    rw [activateRuntime, switched.config]
    rfl
  have again : state.config.activeRuntimeKey = some runtimeKey ->
      plan.previousRuntimeKey = state.config.previousRuntimeKey := by
    intro isActive
    rcases current_key consistent isActive (newest _ isActive) with ⟨manifest, current, sameKey⟩
    rw [left, leftBehind, current]
    simp [sameKey, exactly]
  have switches : forall active, state.config.activeRuntimeKey = some active ->
      active ≠ runtimeKey -> plan.previousRuntimeKey = some active := by
    intro active isActive other
    rcases current_key consistent isActive (newest _ isActive) with ⟨manifest, current, sameKey⟩
    rw [left, leftBehind, current]
    simp [sameKey, exactly, other]
  refine ⟨⟨?_, ?_, ?_, switched.registry⟩, switched.consistent consistent member ?_⟩
  · rw [activateRuntime, switched.config, ← exactly]
    rfl
  · intro isActive
    rw [previousIs, again isActive]
  · intro active isActive other
    rw [previousIs, switches active isActive other]
  · rw [exactly]
    cases isActive : state.config.activeRuntimeKey with
    | some active =>
        by_cases same : active = runtimeKey
        · rw [again (same ▸ isActive)]
          exact consistent.different runtimeKey (same ▸ isActive)
        · rw [switches active isActive same]
          simpa using same
    | none =>
        -- Only the default id can make a runtime count as the one in use.
        rw [left, leftBehind]
        cases current : currentRuntimeManifest state.config state.manifests with
        | none => simp
        | some manifest =>
            by_cases same : manifest.runtimeKey = runtimeKey
            · simp only [Option.any_some, same, exactly, beq_self_eq_true, if_true]
              intro isPrevious
              rcases currentRuntimeManifest_of_default isActive current with
                ⟨runtimeId, default, onlyOne⟩
              apply notDefault isActive isPrevious
              refine ⟨runtimeId, default, fun other otherMember => ?_⟩
              rw [onlyOne other otherMember]
              refine ⟨fun equal => equal ▸ same, fun sameKey => ?_⟩
              exact (distinctKeys_sort.mpr consistent.distinct).same otherMember
                (currentRuntimeManifest_mem current) (sameKey.trans same.symm)
            · simp [exactly, same]

theorem rollback_keeps (consistent : Consistent json state)
    (succeeded : (rollbackRuntime json paths machine state.disk state.config).result.isOk = true)
    (unmistaken : Unmistaken state .rollback) :
    RolledBack state (rollbackRuntime json paths machine state.disk state.config).state ∧
      Consistent json (rollbackRuntime json paths machine state.disk state.config).state := by
  rcases runSwitch_switched succeeded with ⟨plan, isPlan, switched⟩
  rcases planRollback_ok isPlan with ⟨previousKey, recorded, decided, newPrevious⟩
  have member : plan.manifest ∈ state.manifests := (selectRuntimeManifest_ok decided.selected).1
  refine ⟨⟨?_, switched.registry⟩, switched.consistent consistent member ?_⟩
  · intro active previous isActive isPrevious registered other
    have sameKey : previousKey = previous := Option.some.inj (recorded.symm.trans isPrevious)
    rcases unmistaken active previous isActive isPrevious registered with ⟨newest, names⟩
    rcases current_key consistent isActive newest with ⟨manifest, current, currentIs⟩
    have exactly : plan.manifest.runtimeKey = previous :=
      selectRuntimeManifest_exact registered names (sameKey ▸ decided.selected)
    have newPreviousIs : plan.previousRuntimeKey = some active := by
      change currentRuntimeManifest state.config
        (sortManifestsNewestInstallFirst state.disk.registry) = some manifest at current
      rw [newPrevious, current]
      simp [currentIs, exactly, Ne.symm other]
    rw [rollbackRuntime, switched.config, ← exactly, ← newPreviousIs]
    exact ⟨rfl, rfl⟩
  · rw [newPrevious]
    intro same
    have kept := (Option.filter_eq_some_iff.mp same).2
    simp at kept

theorem withoutKey_eq {reference : Option String} (same : SameLetters reference runtimeKey) :
    withoutKey runtimeKey reference = reference.filter (· != runtimeKey) := by
  cases reference with
  | none => rfl
  | some key =>
      by_cases equal : key = runtimeKey
      · simp [withoutKey, Option.filter, equal, eqIgnoreAsciiCase_refl]
      · have differs : eqIgnoreAsciiCase key runtimeKey = false := by
          apply Bool.eq_false_iff.mpr
          intro sameLetters
          exact equal (same key rfl sameLetters)
        simp [withoutKey, Option.filter, differs, equal]

/-- The marker goes exactly when it names the runtime. -/
theorem removeMarkerOf_ok {marker : PathState}
    (same : SameLetters (state.markerKey json) runtimeKey)
    (removed : removeMarkerOf json paths machine state.disk runtimeKey = .ok marker) :
    marker = if state.markerKey json = some runtimeKey then .absent else state.disk.marker := by
  simp only [removeMarkerOf, bind_ok] at removed
  rcases removed with ⟨named, isNamed, removed⟩
  have namedIff : named = true ↔ state.markerKey json = some runtimeKey := by
    unfold RuntimeState.markerKey markerKeyOf at same ⊢
    cases at' : state.disk.marker with
    | absent | other error =>
        simp only [activeRuntimeMarkerMatches, at'] at isNamed
        simp [← Except.ok.inj isNamed]
    | lockedFile bytes error => simp [activeRuntimeMarkerMatches, at'] at isNamed
    | file bytes =>
        simp only [activeRuntimeMarkerMatches, at', bind_ok, withContext_ok] at isNamed
        rcases isNamed with ⟨active, parsed, isNamed⟩
        rw [← Except.ok.inj isNamed]
        simp only [at', parsed, Except.toOption, Option.map_some] at same ⊢
        constructor
        · intro sameLetters
          rw [same active.runtimeKey rfl sameLetters]
        · intro equal
          rw [Option.some.inj equal, eqIgnoreAsciiCase_refl]
  cases named with
  | true =>
      rw [if_pos (namedIff.mp rfl)]
      rw [if_pos rfl] at removed
      split at removed
      · cases removed
      · exact (Except.ok.inj removed).symm
  | false =>
      rw [if_neg (fun names => Bool.false_ne_true (namedIff.mpr names))]
      rw [if_neg Bool.false_ne_true] at removed
      exact (Except.ok.inj removed).symm

/-- When the default id is cleared, it named the runtime, and the runtime was
active or the last with this id. -/
theorem clearsDefault_cases {manifest : InstalledRuntimeManifest}
    (registered : forall active, state.config.activeRuntimeKey = some active ->
      Registered state.manifests active)
    (same : SameLetters state.config.activeRuntimeKey runtimeKey)
    (exactly : manifest.runtimeKey = runtimeKey)
    (cleared : clearsDefaultRuntime state.config state.manifests manifest
      ((currentRuntimeManifest state.config state.manifests).any
        (·.runtimeKey == manifest.runtimeKey)) = true) :
    DefaultNames state manifest ∧
      (state.config.activeRuntimeKey = some runtimeKey ∨
        forall other, other ∈ state.manifests -> other.runtimeKey ≠ runtimeKey ->
          ¬ DefaultNames state other) := by
  simp only [clearsDefaultRuntime, Bool.and_eq_true, Bool.or_eq_true] at cleared
  rcases cleared with ⟨names, wasActive | last⟩
  · refine ⟨names, ?_⟩
    rcases (Option.any_eq_true _ _).mp wasActive with ⟨current, isCurrent, sameKey⟩
    have currentKey : current.runtimeKey = runtimeKey := by
      rw [← exactly]
      exact beq_iff_eq.mp sameKey
    cases isActive : state.config.activeRuntimeKey with
    | some active =>
        rcases currentRuntimeManifest_of_active isActive (registered active isActive) with
          ⟨found, isFound, sameLetters, -⟩
        have foundIs : found = current := Option.some.inj (isFound.symm.trans isCurrent)
        rw [foundIs, currentKey] at sameLetters
        exact Or.inl (congrArg some
          (same active isActive (eqIgnoreAsciiCase_symm sameLetters)))
    | none =>
        rcases currentRuntimeManifest_of_default isActive isCurrent with
          ⟨runtimeId, default, onlyOne⟩
        refine Or.inr fun other otherMember different namesOther => ?_
        rw [DefaultNames, default, Option.any_some] at namesOther
        have isOther := (onlyOne other otherMember).mp (eqIgnoreAsciiCase_symm namesOther)
        exact different (isOther ▸ currentKey)
  · refine ⟨names, Or.inr fun other otherMember different namesOther => ?_⟩
    rcases (Option.any_eq_true _ _).mp names with ⟨runtimeId, default, namesOne⟩
    rw [DefaultNames, default, Option.any_some] at namesOther
    simp only [Bool.not_eq_true', List.any_eq_false, Bool.and_eq_true, not_and] at last
    apply last other otherMember
    · simpa [exactly] using different
    · exact eqIgnoreAsciiCase_trans (eqIgnoreAsciiCase_symm namesOther) namesOne

theorem uninstall_keeps (consistent : Consistent json state)
    (succeeded : (uninstallRuntime json paths machine state.disk state.config
      runtimeKey).result.isOk = true) (registered : Registered state.manifests runtimeKey)
    (unmistaken : Unmistaken state (.uninstall runtimeKey)) :
    Uninstalled json state runtimeKey
        (uninstallRuntime json paths machine state.disk state.config runtimeKey).state ∧
      Consistent json
        (uninstallRuntime json paths machine state.disk state.config runtimeKey).state := by
  rcases unmistaken with ⟨names, sameActive, samePrevious⟩
  rcases isOk_elim succeeded with ⟨result, isOk⟩
  rcases uninstallRuntime_ok isOk with ⟨plan, file, marker, planned, removed, ended⟩
  rcases planRuntimeUninstall_ok planned with ⟨selected, wasActive, clears⟩
  have exactly : plan.manifest.runtimeKey = runtimeKey :=
    selectRuntimeManifest_exact registered names selected
  have member : plan.manifest ∈ state.manifests := (selectRuntimeManifest_ok selected).1
  rw [exactly] at removed
  have markerIs := removeMarkerOf_ok (consistent.marker ▸ sameActive) removed
  rw [ended, exactly]
  have activeIs : withoutKey runtimeKey state.config.activeRuntimeKey =
      state.config.activeRuntimeKey.filter (· != runtimeKey) := withoutKey_eq sameActive
  have previousIs : withoutKey runtimeKey state.config.previousRuntimeKey =
      state.config.previousRuntimeKey.filter (· != runtimeKey) := withoutKey_eq samePrevious
  refine ⟨⟨rfl, ?_, ?_, markerIs, ?_⟩, ⟨consistent.distinct.filter _, ?_, ?_, ?_⟩⟩
  · simp only [Outcome.state, forgetRuntime, exactly, activeIs]
  · simp only [Outcome.state, forgetRuntime, exactly, previousIs]
  · simp only [Outcome.state, forgetRuntime]
    split
    next cleared =>
      rw [clears, wasActive] at cleared
      rcases clearsDefault_cases consistent.registered sameActive exactly cleared with
        ⟨namesIt, last⟩
      exact Or.inr ⟨rfl, ⟨plan.manifest, member, exactly, namesIt⟩, last⟩
    next => exact Or.inl rfl
  · intro active isActive
    simp only [Outcome.state, forgetRuntime, exactly, activeIs, Option.filter_eq_some_iff,
      bne_iff_ne] at isActive
    rcases consistent.registered active isActive.1 with ⟨manifest, manifestMember, sameKey⟩
    refine ⟨manifest, ?_, sameKey⟩
    rw [RuntimeState.manifests, Outcome.state, mem_sortManifests, List.mem_filter]
    exact ⟨mem_sortManifests.mp manifestMember, by simpa [sameKey] using isActive.2⟩
  · intro active isActive
    simp only [Outcome.state, forgetRuntime, exactly, activeIs, previousIs,
      Option.filter_eq_some_iff, bne_iff_ne, ne_eq] at isActive ⊢
    exact fun isPrevious => consistent.different active isActive.1 isPrevious.1
  · change markerKeyOf json marker =
      withoutKey plan.manifest.runtimeKey state.config.activeRuntimeKey
    rw [exactly, activeIs, ← consistent.marker, markerIs]
    by_cases named : state.markerKey json = some runtimeKey
    · rw [if_pos named, named]
      simp [markerKeyOf, Option.filter]
    · rw [if_neg named]
      change state.markerKey json = _
      cases isKey : state.markerKey json with
      | none => rfl
      | some key =>
          rw [isKey, Option.some.injEq] at named
          simp [Option.filter, named]

theorem perform_keeps (consistent : Consistent json state) {call : RuntimeCall}
    (allowed : Allowed json paths state call) :
    OperationKeeps json state call.operation (perform json paths state call) ∧
      Consistent json (perform json paths state call) := by
  rcases allowed with ⟨succeeded, exactKey, unmistaken⟩
  rcases call with ⟨machine, activated | _ | removed⟩
  · exact activate_keeps consistent succeeded exactKey unmistaken
  · exact rollback_keeps consistent succeeded unmistaken
  · exact uninstall_keeps consistent succeeded exactKey unmistaken

end Steps

/-! ## Runs -/

section Run

variable (json : Json) (paths : AppPaths)

/-- What holds along a run: after each call, and after two rollbacks. -/
structure RunKeeps (start : RuntimeState) (calls : List RuntimeCall) : Prop where
  each : forall first (call : RuntimeCall) rest, calls = first ++ call :: rest ->
    OperationKeeps json (finalState (perform json paths) start first) call.operation
        (finalState (perform json paths) start (first ++ [call])) ∧
      Consistent json (finalState (perform json paths) start (first ++ [call]))
  twice : forall first (one other : RuntimeCall) rest active previous,
    calls = first ++ one :: other :: rest ->
    one.operation = .rollback -> other.operation = .rollback ->
    (finalState (perform json paths) start first).config.activeRuntimeKey = some active ->
    (finalState (perform json paths) start first).config.previousRuntimeKey = some previous ->
    Registered (finalState (perform json paths) start first).manifests previous ->
    previous ≠ active ->
      (finalState (perform json paths) start (first ++ [one, other])).config.activeRuntimeKey =
          some active ∧
        (finalState (perform json paths) start (first ++ [one, other])).config.previousRuntimeKey =
          some previous

theorem consistent_after {start : RuntimeState} (consistent : Consistent json start)
    {calls : List RuntimeCall}
    (allowed : Guarded (perform json paths) (Allowed json paths) start calls) :
    Consistent json (finalState (perform json paths) start calls) := by
  have preserved : forall state call, Consistent json state -> Allowed json paths state call ->
      Consistent json (perform json paths state call) :=
    fun _ _ holds isAllowed => (perform_keeps holds isAllowed).2
  exact invariant_of_step preserved consistent allowed

theorem step_of_run {start : RuntimeState} (consistent : Consistent json start)
    {first rest : List RuntimeCall} {call : RuntimeCall}
    (allowed : Guarded (perform json paths) (Allowed json paths) start (first ++ call :: rest)) :
    OperationKeeps json (finalState (perform json paths) start first) call.operation
        (finalState (perform json paths) start (first ++ [call])) ∧
      Consistent json (finalState (perform json paths) start (first ++ [call])) := by
  rw [guarded_append] at allowed
  rw [finalState_append]
  exact perform_keeps (consistent_after json paths consistent allowed.1) allowed.2.1

/-- Along every run of successful calls none of which can be mistaken about
the keys it touches, the active and the previous runtime, the registry and the
marker change as the operations say. -/
theorem runtime_selection (start : RuntimeState) (consistent : Consistent json start)
    (calls : List RuntimeCall)
    (allowed : Guarded (perform json paths) (Allowed json paths) start calls) :
    RunKeeps json paths start calls where
  each := by
    rintro first call rest rfl
    exact step_of_run json paths consistent allowed
  twice := by
    rintro first one other rest active previous rfl isRollback isRollbackToo isActive isPrevious
      registered different
    have before : Consistent json (finalState (perform json paths) start first) :=
      consistent_after json paths consistent ((guarded_append _ _ _).mp allowed).1
    have firstStep := (step_of_run json paths consistent allowed).1
    rw [isRollback] at firstStep
    rcases firstStep.swapped active previous isActive isPrevious registered different with
      ⟨nowActive, nowPrevious⟩
    have stillRegistered : Registered
        (finalState (perform json paths) start (first ++ [one])).manifests active := by
      rw [RuntimeState.manifests, firstStep.registry]
      exact before.registered active isActive
    have regrouped : first ++ one :: other :: rest = (first ++ [one]) ++ other :: rest := by simp
    rw [regrouped] at allowed
    have secondStep := (step_of_run json paths consistent allowed).1
    rw [isRollbackToo] at secondStep
    have back := secondStep.swapped previous active nowActive nowPrevious stillRegistered
      (Ne.symm different)
    rwa [List.append_assoc] at back

end Run

/-! ## Runtimes whose keys differ only in letter case -/

section Sample

def selected (runtimeId active : String) (previous : Option String) : RocmCliConfig :=
  { RocmCliConfig.default with
    defaultRuntimeId := some runtimeId
    activeRuntimeKey := some active
    previousRuntimeKey := previous }

def markerOf (runtimeId runtimeKey : String) (previous : Option (String × String)) :
    ActiveRuntimeMarker :=
  ⟨runtimeId, runtimeKey, runtimeManifestPath ⟨"c", "d"⟩ runtimeKey, "r/" ++ runtimeKey,
    previous.map Prod.fst, previous.map Prod.snd, 7⟩

/-- The library on the files of the two samples. -/
def sampleJson : Json :=
  .ofDocuments
    [selected "i1" "abc" none, selected "i2" "b" (some "abc"), selected "i1" "abc" (some "b"),
      RocmCliConfig.default]
    [markerOf "i1" "abc" none, markerOf "i2" "b" (some ("i1", "abc")),
      markerOf "i1" "abc" (some ("i2", "b"))]
    (by decide +kernel) (by decide +kernel)

/-- `abc` is active, and `ABC` was installed after it. -/
def twins : RuntimeState where
  disk := ⟨[tarballRuntime "abc" "i1" 1, tarballRuntime "ABC" "i1" 2],
    .file (configText (selected "i1" "abc" none)), .file (markerText (markerOf "i1" "abc" none))⟩
  config := selected "i1" "abc" none

instance (manifests : List InstalledRuntimeManifest) (key : String) :
    Decidable (Registered manifests key) :=
  inferInstanceAs (Decidable (exists manifest, manifest ∈ manifests ∧ manifest.runtimeKey = key))

/-- An active key that is registered and is not its own rollback target, and
that the marker names, is all that consistency asks. -/
theorem consistent_of_active {json : Json} {state : RuntimeState} {active : String}
    (isActive : state.config.activeRuntimeKey = some active)
    (distinct : DistinctKeys state.disk.registry) (registered : Registered state.manifests active)
    (different : state.config.previousRuntimeKey ≠ some active)
    (marker : state.markerKey json = some active) : Consistent json state where
  distinct := distinct
  registered := by
    intro other isOther
    rwa [← Option.some.inj (isActive.symm.trans isOther)]
  different := by
    intro other isOther
    rwa [← Option.some.inj (isActive.symm.trans isOther)]
  marker := marker.trans isActive.symm

/-- A rollback is not mistaken when the lookups of the two recorded keys are
not. -/
theorem unmistaken_rollback {state : RuntimeState} {active previous : String}
    (isActive : state.config.activeRuntimeKey = some active)
    (isPrevious : state.config.previousRuntimeKey = some previous)
    (newest : NewestOfItsName state.manifests active)
    (names : NamesItself state.manifests previous) : Unmistaken state .rollback := by
  intro other otherPrevious isOther isOtherPrevious _
  rw [← Option.some.inj (isActive.symm.trans isOther),
    ← Option.some.inj (isPrevious.symm.trans isOtherPrevious)]
  exact ⟨newest, names⟩

instance (manifests : List InstalledRuntimeManifest) (key : String) :
    Decidable (NewestOfItsName manifests key) :=
  decidable_of_iff ((manifests.find? fun manifest =>
      eqIgnoreAsciiCase manifest.runtimeKey key).all (·.runtimeKey == key) = true)
    (by simp [NewestOfItsName, Option.all_eq_true])

instance (manifests : List InstalledRuntimeManifest) (key : String) :
    Decidable (NamesItself manifests key) := inferInstanceAs (Decidable (_ ∨ _))

instance (reference : Option String) (runtimeKey : String) :
    Decidable (SameLetters reference runtimeKey) :=
  decidable_of_iff (reference.all (fun key =>
      decide (eqIgnoreAsciiCase key runtimeKey = true -> key = runtimeKey)) = true)
    (by simp only [SameLetters, Option.all_eq_true, decide_eq_true_eq])

/-- Removing `ABC` by its exact key clears the active key, which is `abc`. -/
theorem uninstall_forgets_a_case_twin :
    ¬ forall (json : Json) (paths : AppPaths) (start : RuntimeState) (call : RuntimeCall),
      Consistent json start -> succeeds json paths start call = true ->
        ExactKey start call.operation ->
          OperationKeeps json start call.operation (perform json paths start call) := by
  intro always
  have consistent : Consistent sampleJson twins :=
    consistent_of_active rfl (by decide +kernel) (by decide +kernel) (by decide) (by decide +kernel)
  have registered : Registered twins.manifests "ABC" := by decide
  have kept := (always sampleJson ⟨"c", "d"⟩ twins ⟨Machine.sound 7, .uninstall "ABC"⟩ consistent
    (by decide +kernel) registered).active
  exact absurd kept (by decide +kernel)

/-- `abc` is active after `b`, and both are installed. -/
def afterSwitch : RuntimeState where
  disk := ⟨[tarballRuntime "abc" "i1" 1, tarballRuntime "b" "i2" 2],
    .file (configText (selected "i1" "abc" (some "b"))),
    .file (markerText (markerOf "i1" "abc" (some ("i2", "b"))))⟩
  config := selected "i1" "abc" (some "b")

/-- Two rollbacks, and then the other runtime is removed. -/
theorem runtime_selection_back_and_forth :
    RunKeeps sampleJson ⟨"c", "d"⟩ afterSwitch
      [⟨Machine.sound 7, .rollback⟩, ⟨Machine.sound 7, .rollback⟩,
        ⟨Machine.sound 7, .uninstall "b"⟩] := by
  have consistent : Consistent sampleJson afterSwitch :=
    consistent_of_active rfl (by decide +kernel) (by decide +kernel) (by decide) (by decide +kernel)
  apply runtime_selection sampleJson ⟨"c", "d"⟩ afterSwitch consistent
  refine ⟨⟨by decide, trivial, ?_⟩, ⟨by decide, trivial, ?_⟩,
    ⟨by decide +kernel, ?_, ?_⟩, trivial⟩
  · exact unmistaken_rollback rfl rfl (by decide) (by decide)
  · have isActive : (perform sampleJson ⟨"c", "d"⟩ afterSwitch
        ⟨Machine.sound 7, .rollback⟩).config.activeRuntimeKey = some "b" := by decide
    have isPrevious : (perform sampleJson ⟨"c", "d"⟩ afterSwitch
        ⟨Machine.sound 7, .rollback⟩).config.previousRuntimeKey = some "abc" := by decide
    exact unmistaken_rollback isActive isPrevious (by decide) (by decide)
  · change Registered _ "b"
    decide
  · refine ⟨?_, ?_, ?_⟩ <;> decide

end Sample

end Runtimes
end RocmCli
