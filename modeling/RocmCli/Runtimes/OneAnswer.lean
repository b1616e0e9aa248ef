import RocmCli.Runtimes.ManagedRuntime

namespace RocmCli
namespace Runtimes

open Text Listings

/-!
# One answer to which runtime is active

The answers of the core library are taken from a folder listing.  The sort of
the records and the candidates of the probe do not depend on the order of the
listing; the search for the active key and the newest family do, and the search
takes a record by its id as well as by its key.
-/

/-! ## Answers -/

/-- What the core library says about the active runtime. -/
structure ActiveRuntime where
  environment : Option ManagedRuntimeEnvironment
  version : Option String
  channel : Option String
  interpreter : Option FrameworkInterpreter
  deriving DecidableEq, Repr

def ActiveRuntime.absent : ActiveRuntime := ⟨none, none, none, none⟩

def activeRuntime (host : RuntimeHost) (config : RocmCliConfig) (listing : List RegistryFile) :
    ActiveRuntime :=
  ⟨activeManagedTherockEnvironment host config listing, activeManagedTherockVersion config listing,
    activeManagedTherockChannel config listing,
    activeManagedFrameworkInterpreter host config listing⟩

/-- What a record says about its runtime. -/
def describe (host : RuntimeHost) (record : TheRockFamilyManifest) : ActiveRuntime :=
  ⟨some (managedTherockEnvironmentFromRecord host record), record.version, record.channel,
    (managedTherockPythonExecutable host record).map fun python =>
      ⟨python, (managedTherockEnvironmentFromRecord host record).libraryEntries⟩⟩

/-- What the file of a runtime says about it. -/
def describeFile (host : RuntimeHost) (file : RegistryFile) : ActiveRuntime :=
  (file.family.map (describe host)).getD .absent

/-- Every answer is the one of the runtime, or absent. -/
structure ActiveRuntime.Within (answer runtime : ActiveRuntime) : Prop where
  environment : answer.environment = none ∨ answer.environment = runtime.environment
  version : answer.version = none ∨ answer.version = runtime.version
  channel : answer.channel = none ∨ answer.channel = runtime.channel
  interpreter : answer.interpreter = none ∨ answer.interpreter = runtime.interpreter

/-- The same folders of engines, listed in some order, each in some order. -/
def SameEngines (engines others : List (List RegistryFile)) : Prop :=
  exists between, engines.Perm between ∧ List.Forall₂ List.Perm between others

/-- The active key is the key of exactly one registered runtime. -/
structure OnlyNamed (config : RocmCliConfig) (registry : RegistryFolder) (file : RegistryFile)
    (manifest : InstalledRuntimeManifest) (activeKey : String) : Prop where
  active : config.activeRuntimeKey = some activeKey
  listed : file ∈ registry.files
  installed : installedOf file = some manifest
  named : eqIgnoreAsciiCase manifest.runtimeKey activeKey = true
  only : forall other otherManifest, other ∈ registry.files ->
    installedOf other = some otherManifest ->
      eqIgnoreAsciiCase otherManifest.runtimeKey activeKey = true -> other = file

/-- The answers are the same in every order of the listings, and they are about
the runtime that the active key names. -/
structure OneAnswer (host : RuntimeHost) (config : RocmCliConfig) (registry : RegistryFolder)
    (engines : List (List RegistryFile)) : Prop where
  active : forall listing, listing.Perm registry.files ->
    activeRuntime host config listing = activeRuntime host config registry.files
  family : forall listing others, listing.Perm registry.files -> SameEngines engines others ->
    detectManagedTherockFamily listing others = detectManagedTherockFamily registry.files engines
  candidates : forall listing, listing.Perm registry.files ->
    managedTherockSdkProbeCandidates listing = managedTherockSdkProbeCandidates registry.files
  agrees : forall file manifest activeKey, OnlyNamed config registry file manifest activeKey ->
    forall listing, listing.Perm registry.files ->
      (activeRuntime host config listing).Within (describeFile host file) ∧
        currentRuntimeManifest config (installedRuntimes listing) = some manifest ∧
        forall entry, (resolveEngineSelection config entry none none).runtimeId = some activeKey

/-! ## When there is one -/

/-- The record is taken by an active key, in some order of the listing. -/
def Taken (registry : RegistryFolder) (activeKey : String) (entry : NamedRecord) : Prop :=
  entry ∈ managedTherockEnvironmentRecords registry.files ∧
    (matchesActive activeKey entry.2 = true ∨
      ((forall other, other ∈ managedTherockEnvironmentRecords registry.files ->
          matchesActive activeKey other.2 = false) ∧
        forall other, other ∈ managedTherockEnvironmentRecords registry.files ->
          installOrder entry ≤ installOrder other))

/-- The families that the files name, those of the engines apart. -/
def registryFamilies (registry : RegistryFolder) : List (Nat × String) :=
  registry.files.filterMap familyOf

def engineFamilies (engines : List (List RegistryFile)) : List (Nat × String) :=
  engines.flatten.filterMap familyOf

/-- The family is among the newest.  A newest family of an engine goes before
those of the registry. -/
def Deciding (registry : RegistryFolder) (engines : List (List RegistryFile))
    (entry : Nat × String) : Prop :=
  IsLatest (registryFamilies registry ++ engineFamilies engines) entry ∧
    (entry ∈ engineFamilies engines ∨
      forall other, other ∈ engineFamilies engines -> other.1 < entry.1)

structure Unambiguous (host : RuntimeHost) (config : RocmCliConfig) (registry : RegistryFolder)
    (engines : List (List RegistryFile)) : Prop where
  /-- The records that the active key matches say the same. -/
  matching : forall activeKey left right, config.activeRuntimeKey = some activeKey ->
    left ∈ managedTherockEnvironmentRecords registry.files ->
      right ∈ managedTherockEnvironmentRecords registry.files ->
        matchesActive activeKey left.2 = true -> matchesActive activeKey right.2 = true ->
          describe host left.2 = describe host right.2
  /-- The newest families are one. -/
  newest : forall left right, Deciding registry engines left -> Deciding registry engines right ->
    left.2 = right.2
  /-- What is taken by a key that names one runtime is about that runtime. -/
  named : forall file manifest activeKey entry,
    OnlyNamed config registry file manifest activeKey -> Taken registry activeKey entry ->
      (describe host entry.2).Within (describeFile host file)

/-! ## Families -/

theorem newerTherockFamily_eq (left right : Option (Nat × String)) :
    newerTherockFamily left right = later left right := by
  cases left <;> cases right <;> rfl

theorem newestTherockFamily_eq (listing : List RegistryFile) :
    newestTherockFamilyInManifestDir listing = latest (listing.filterMap familyOf) := by
  simp only [newestTherockFamilyInManifestDir, newerTherockFamily_eq]
  rfl

theorem newestInEngines_eq (engines : List (List RegistryFile)) :
    newestTherockFamilyInEngineManifests engines = latest (engineFamilies engines) := by
  have folded : forall start, engines.foldl (fun best manifests =>
      newerTherockFamily best (newestTherockFamilyInManifestDir manifests)) start =
        later start (latest (engineFamilies engines)) := by
    induction engines with
    | nil => exact fun start => (later_none start).symm
    | cons manifests rest ih =>
        intro start
        rw [List.foldl_cons, ih, newerTherockFamily_eq, newestTherockFamily_eq,
          later_assoc, ← latest_append, engineFamilies, engineFamilies, List.flatten_cons,
          List.filterMap_append]
  exact (folded none).trans (none_later _)

theorem detectManagedTherockFamily_eq (listing : List RegistryFile)
    (engines : List (List RegistryFile)) :
    detectManagedTherockFamily listing engines =
      (latest (listing.filterMap familyOf ++ engineFamilies engines)).map Prod.snd := by
  rw [detectManagedTherockFamily, newerTherockFamily_eq, newestTherockFamily_eq,
    newestInEngines_eq, latest_append]

theorem engineFamilies_perm {engines others : List (List RegistryFile)}
    (same : SameEngines engines others) :
    (engineFamilies engines).Perm (engineFamilies others) := by
  rcases same with ⟨between, perm, each⟩
  have inside : forall {lefts rights : List (List RegistryFile)},
      List.Forall₂ List.Perm lefts rights -> lefts.flatten.Perm rights.flatten := by
    intro lefts rights pairs
    induction pairs with
    | nil => exact List.Perm.refl _
    | cons first _ ih => exact first.append ih
  exact (perm.flatten.trans (inside each)).filterMap familyOf

theorem eachPerm_refl (engines : List (List RegistryFile)) :
    List.Forall₂ List.Perm engines engines :=
  List.forall₂_same.mpr fun manifests _ => List.Perm.refl manifests

theorem sameEngines_refl (engines : List (List RegistryFile)) : SameEngines engines engines :=
  ⟨engines, List.Perm.refl _, eachPerm_refl engines⟩

section Families

variable (registry : RegistryFolder) (engines : List (List RegistryFile))

/-- In every order, a deciding family is found. -/
theorem deciding_of_latest {listing : List RegistryFile} {others : List (List RegistryFile)}
    (perm : listing.Perm registry.files) (same : SameEngines engines others) {entry : Nat × String}
    (found : latest (listing.filterMap familyOf ++ engineFamilies others) = some entry) :
    Deciding registry engines entry := by
  have families := perm.filterMap familyOf
  have ofEngines := (engineFamilies_perm same).symm
  have all := families.append ofEngines
  rcases latest_append_cases found with ⟨isLatest, fromEngine | before⟩
  · exact ⟨⟨all.mem_iff.mp isLatest.1, fun other member =>
      isLatest.2 other (all.mem_iff.mpr member)⟩, Or.inl (ofEngines.mem_iff.mp fromEngine)⟩
  · exact ⟨⟨all.mem_iff.mp isLatest.1, fun other member =>
      isLatest.2 other (all.mem_iff.mpr member)⟩, Or.inr fun other member =>
        before other (ofEngines.mem_iff.mpr member)⟩

/-- Every deciding family is found, in some order. -/
theorem latest_of_deciding {entry : Nat × String} (deciding : Deciding registry engines entry) :
    exists (listing : List RegistryFile) (others : List (List RegistryFile)),
      listing.Perm registry.files ∧ SameEngines engines others ∧
      latest (listing.filterMap familyOf ++ engineFamilies others) = some entry := by
  rcases deciding with ⟨isLatest, fromEngine | before⟩
  · rcases List.mem_filterMap.mp fromEngine with ⟨file, member, isFamily⟩
    rcases List.mem_flatten.mp member with ⟨manifests, isEngine, isThere⟩
    rcases exists_last isThere with ⟨restFiles, filesPerm⟩
    rcases exists_last isEngine with ⟨rest, enginesPerm⟩
    have same : SameEngines engines (rest ++ [restFiles ++ [file]]) :=
      ⟨rest ++ [manifests], enginesPerm.symm,
        List.rel_append (eachPerm_refl rest) (List.Forall₂.cons filesPerm.symm .nil)⟩
    refine ⟨registry.files, _, List.Perm.refl _, same, ?_⟩
    have families : engineFamilies (rest ++ [restFiles ++ [file]]) =
        (rest.flatten ++ restFiles).filterMap familyOf ++ [entry] := by
      simp [engineFamilies, isFamily]
    rw [families, ← List.append_assoc]
    apply latest_concat
    intro other isOther
    refine isLatest.2 other (List.mem_append.mpr ?_)
    rcases List.mem_append.mp isOther with ofRegistry | ofEngine
    · exact Or.inl ofRegistry
    · refine Or.inr ((engineFamilies_perm same).mem_iff.mpr ?_)
      rw [families]
      exact List.mem_append_left _ ofEngine
  · have ofRegistry : entry ∈ registryFamilies registry := by
      rcases List.mem_append.mp isLatest.1 with ofRegistry | ofEngine
      · exact ofRegistry
      · exact absurd (before entry ofEngine) (lt_irrefl _)
    rcases List.mem_filterMap.mp ofRegistry with ⟨file, member, isFamily⟩
    rcases exists_last member with ⟨rest, perm⟩
    refine ⟨rest ++ [file], engines, perm, sameEngines_refl engines, ?_⟩
    have families : (rest ++ [file]).filterMap familyOf = rest.filterMap familyOf ++ [entry] := by
      simp [isFamily]
    have latestHere : latest (rest.filterMap familyOf ++ [entry]) = some entry := by
      apply latest_concat
      intro other isOther
      refine isLatest.2 other (List.mem_append_left _ ((perm.filterMap familyOf).mem_iff.mp ?_))
      rw [families]
      exact List.mem_append_left _ isOther
    rw [families, latest_append, latestHere]
    cases ofEngines : latest (engineFamilies engines) with
    | none => rfl
    | some best => exact if_pos (before best (isLatest_of_latest ofEngines).1)

theorem family_iff :
    (forall listing others, listing.Perm registry.files -> SameEngines engines others ->
        detectManagedTherockFamily listing others =
          detectManagedTherockFamily registry.files engines) ↔
      forall left right, Deciding registry engines left -> Deciding registry engines right ->
        left.2 = right.2 := by
  constructor
  · intro same left right leftDeciding rightDeciding
    rcases latest_of_deciding registry engines leftDeciding with
      ⟨leftListing, leftOthers, leftPerm, leftSame, isLeft⟩
    rcases latest_of_deciding registry engines rightDeciding with
      ⟨rightListing, rightOthers, rightPerm, rightSame, isRight⟩
    have both := (same _ _ leftPerm leftSame).trans (same _ _ rightPerm rightSame).symm
    rw [detectManagedTherockFamily_eq, detectManagedTherockFamily_eq, isLeft, isRight] at both
    exact Option.some.inj both
  · intro one listing others perm others'
    have all := (perm.filterMap familyOf).append (engineFamilies_perm others').symm
    rw [detectManagedTherockFamily_eq, detectManagedTherockFamily_eq]
    cases here : latest (listing.filterMap familyOf ++ engineFamilies others) with
    | none =>
        have empty := latest_eq_none.mp here
        rw [empty] at all
        rw [latest_eq_none.mpr all.symm.eq_nil]
    | some left =>
        cases there : latest (registry.files.filterMap familyOf ++ engineFamilies engines) with
        | none =>
            have empty := latest_eq_none.mp there
            rw [empty] at all
            rw [latest_eq_none.mpr all.eq_nil] at here
            cases here
        | some right =>
            exact congrArg some (one left right
              (deciding_of_latest registry engines perm others' here)
              (deciding_of_latest registry engines (List.Perm.refl _) (sameEngines_refl engines)
                there))

end Families

/-! ## The active record -/

theorem activeRuntime_eq (host : RuntimeHost) (config : RocmCliConfig)
    (listing : List RegistryFile) :
    activeRuntime host config listing =
      ((selectActiveManagedTherockRecord config listing).map (describe host)).getD .absent := by
  unfold activeRuntime activeManagedTherockEnvironment activeManagedTherockVersion
    activeManagedTherockChannel activeManagedFrameworkInterpreter
  cases selectActiveManagedTherockRecord config listing <;> rfl

/-- The record of a file bears its name. -/
theorem name_of_record {file : RegistryFile} {entry : NamedRecord}
    (isRecord : environmentRecordOf file = some entry ∨ readyRecordOf file = some entry) :
    entry.1 = file.name ∧ recordOf file = some entry.2 := by
  rcases isRecord with isRecord | isRecord
  all_goals
    rcases Option.bind_eq_some_iff.mp isRecord with ⟨record, isThere, accepted⟩
    split at accepted
    · cases accepted
      exact ⟨rfl, isThere⟩
    · cases accepted

/-- Names tell the records of a folder apart. -/
theorem records_apart (registry : RegistryFolder) (read : RegistryFile -> Option NamedRecord)
    (named : forall file entry, read file = some entry -> entry.1 = file.name)
    (left right : NamedRecord) (leftMember : left ∈ registry.files.filterMap read)
    (rightMember : right ∈ registry.files.filterMap read)
    (sameOrder : installOrder left = installOrder right) : left = right := by
  have sameName : left.1 = right.1 := congrArg (fun order => (ofLex (ofLex order).2).2) sameOrder
  rcases List.mem_filterMap.mp leftMember with ⟨leftFile, leftListed, isLeft⟩
  rcases List.mem_filterMap.mp rightMember with ⟨rightFile, rightListed, isRight⟩
  have sameFile : leftFile = rightFile := List.inj_on_of_nodup_map registry.distinct leftListed
    rightListed ((named leftFile left isLeft).symm.trans (sameName.trans
      (named rightFile right isRight)))
  rw [sameFile] at isLeft
  exact Option.some.inj (isLeft.symm.trans isRight)

section Active

variable (host : RuntimeHost) (config : RocmCliConfig) (registry : RegistryFolder)

/-- No record matches the active key, if there is one. -/
def NoneMatches : Prop :=
  forall activeKey, config.activeRuntimeKey = some activeKey ->
    forall entry, entry ∈ managedTherockEnvironmentRecords registry.files ->
      matchesActive activeKey entry.2 = false

/-- What is selected matches the active key, or is the newest of records none
of which does. -/
theorem selected_cases {listing : List RegistryFile} (perm : listing.Perm registry.files) :
    (exists activeKey entry, config.activeRuntimeKey = some activeKey ∧
        entry ∈ managedTherockEnvironmentRecords registry.files ∧
        matchesActive activeKey entry.2 = true ∧
        selectActiveManagedTherockRecord config listing = some entry.2) ∨
      (NoneMatches config registry ∧
        selectActiveManagedTherockRecord config listing =
          ((sortRecordsNewestInstallFirst
            (managedTherockEnvironmentRecords registry.files)).head?).map Prod.snd) := by
  have records : (managedTherockEnvironmentRecords listing).Perm
      (managedTherockEnvironmentRecords registry.files) := perm.filterMap environmentRecordOf
  have sorted : sortRecordsNewestInstallFirst (managedTherockEnvironmentRecords listing) =
      sortRecordsNewestInstallFirst (managedTherockEnvironmentRecords registry.files) := by
    refine (sortBy_congr installOrder records.symm ?_).symm
    exact records_apart registry environmentRecordOf fun file entry isRecord =>
      (name_of_record (Or.inl isRecord)).1
  unfold selectActiveManagedTherockRecord
  dsimp only
  rw [sorted]
  cases active : config.activeRuntimeKey with
  | none =>
      refine Or.inr ⟨fun activeKey isActive => ?_, rfl⟩
      rw [active] at isActive
      cases isActive
  | some activeKey =>
      cases found : (managedTherockEnvironmentRecords listing).find? fun entry =>
          matchesActive activeKey entry.2 with
      | some entry =>
          refine Or.inl ⟨activeKey, entry, rfl, records.mem_iff.mp (List.mem_of_find?_eq_some found),
            List.find?_some (p := fun entry : NamedRecord => matchesActive activeKey entry.2) found,
            ?_⟩
          simp only [Option.bind_some, found]
      | none =>
          refine Or.inr ⟨fun otherKey isActive entry member => ?_, ?_⟩
          · rw [active] at isActive
            cases isActive
            exact Bool.eq_false_iff.mpr
              (List.find?_eq_none.mp found entry (records.mem_iff.mpr member))
          · simp only [Option.bind_some, found]

/-- A record that matches comes first in some order, and is selected. -/
theorem selected_of_matching {activeKey : String} {entry : NamedRecord}
    (active : config.activeRuntimeKey = some activeKey)
    (member : entry ∈ managedTherockEnvironmentRecords registry.files)
    (isMatch : matchesActive activeKey entry.2 = true) :
    exists listing, listing.Perm registry.files ∧
      selectActiveManagedTherockRecord config listing = some entry.2 := by
  rcases List.mem_filterMap.mp member with ⟨file, listed, isRecord⟩
  rcases exists_first listed with ⟨rest, perm⟩
  refine ⟨file :: rest, perm, ?_⟩
  have first : managedTherockEnvironmentRecords (file :: rest) =
      entry :: managedTherockEnvironmentRecords rest := List.filterMap_cons_some isRecord
  unfold selectActiveManagedTherockRecord
  simp only [active, Option.bind_some, first, List.find?_cons, isMatch]

theorem active_iff :
    (forall listing, listing.Perm registry.files ->
        activeRuntime host config listing = activeRuntime host config registry.files) ↔
      forall activeKey left right, config.activeRuntimeKey = some activeKey ->
        left ∈ managedTherockEnvironmentRecords registry.files ->
          right ∈ managedTherockEnvironmentRecords registry.files ->
            matchesActive activeKey left.2 = true -> matchesActive activeKey right.2 = true ->
              describe host left.2 = describe host right.2 := by
  constructor
  · intro same activeKey left right active leftMember rightMember leftMatch rightMatch
    rcases selected_of_matching config registry active leftMember leftMatch with
      ⟨leftListing, leftPerm, isLeft⟩
    rcases selected_of_matching config registry active rightMember rightMatch with
      ⟨rightListing, rightPerm, isRight⟩
    have both := (same _ leftPerm).trans (same _ rightPerm).symm
    rw [activeRuntime_eq, activeRuntime_eq, isLeft, isRight] at both
    exact both
  · intro same listing perm
    rw [activeRuntime_eq, activeRuntime_eq]
    rcases selected_cases config registry perm with
      ⟨activeKey, left, active, leftMember, leftMatch, isLeft⟩ | ⟨none, isNewest⟩
    · rcases selected_cases config registry (List.Perm.refl _) with
        ⟨otherKey, right, otherActive, rightMember, rightMatch, isRight⟩ | ⟨none, _⟩
      · cases active.symm.trans otherActive
        rw [isLeft, isRight]
        exact same activeKey left right active leftMember rightMember leftMatch rightMatch
      · exact absurd leftMatch (by rw [none activeKey active left leftMember]; decide)
    · rcases selected_cases config registry (List.Perm.refl _) with
        ⟨activeKey, right, active, rightMember, rightMatch, _⟩ | ⟨_, isNewest'⟩
      · exact absurd rightMatch (by rw [none activeKey active right rightMember]; decide)
      · rw [isNewest, isNewest']

theorem candidates_perm {listing : List RegistryFile} (perm : listing.Perm registry.files) :
    managedTherockSdkProbeCandidates listing =
      managedTherockSdkProbeCandidates registry.files := by
  have records := perm.filterMap readyRecordOf
  have sorted : sortRecordsNewestInstallFirst (listing.filterMap readyRecordOf) =
      sortRecordsNewestInstallFirst (registry.files.filterMap readyRecordOf) := by
    refine (sortBy_congr installOrder records.symm ?_).symm
    exact records_apart registry readyRecordOf fun file entry isRecord =>
      (name_of_record (Or.inr isRecord)).1
  rw [managedTherockSdkProbeCandidates, managedTherockSdkProbeCandidates, sorted]

variable {config registry}

/-- The command line takes the runtime that the key names. -/
theorem current_of_onlyNamed {file : RegistryFile} {manifest : InstalledRuntimeManifest}
    {activeKey : String} (only : OnlyNamed config registry file manifest activeKey)
    {listing : List RegistryFile} (perm : listing.Perm registry.files) :
    currentRuntimeManifest config (installedRuntimes listing) = some manifest := by
  have isThere : manifest ∈ installedRuntimes listing :=
    mem_sortManifests.mpr (List.mem_filterMap.mpr
      ⟨file, perm.mem_iff.mpr only.listed, only.installed⟩)
  unfold currentRuntimeManifest
  rw [only.active, Option.bind_some]
  cases found : (installedRuntimes listing).find? fun other =>
      eqIgnoreAsciiCase other.runtimeKey activeKey with
  | none => exact absurd only.named (List.find?_eq_none.mp found manifest isThere)
  | some other =>
      rcases List.mem_filterMap.mp (mem_sortManifests.mp (List.mem_of_find?_eq_some found)) with
        ⟨otherFile, listed, isInstalled⟩
      have isFile := only.only otherFile other (perm.mem_iff.mp listed) isInstalled
        (List.find?_some (p := fun other : InstalledRuntimeManifest =>
          eqIgnoreAsciiCase other.runtimeKey activeKey) found)
      rw [isFile, only.installed] at isInstalled
      exact isInstalled.symm

theorem within_absent (runtime : ActiveRuntime) : ActiveRuntime.absent.Within runtime :=
  ⟨Or.inl rfl, Or.inl rfl, Or.inl rfl, Or.inl rfl⟩

/-- What the core library says is about what is taken. -/
theorem within_iff {activeKey : String} (active : config.activeRuntimeKey = some activeKey)
    (runtime : ActiveRuntime) :
    (forall listing, listing.Perm registry.files ->
        (activeRuntime host config listing).Within runtime) ↔
      forall entry, Taken registry activeKey entry -> (describe host entry.2).Within runtime := by
  have apart := records_apart registry environmentRecordOf fun file entry isRecord =>
    (name_of_record (Or.inl isRecord)).1
  constructor
  · rintro within entry ⟨member, isMatch | ⟨none, isFirst⟩⟩
    · rcases selected_of_matching config registry active member isMatch with
        ⟨listing, perm, isSelected⟩
      have about := within listing perm
      rw [activeRuntime_eq, isSelected] at about
      exact about
    · have about := within registry.files (List.Perm.refl _)
      rw [activeRuntime_eq] at about
      rcases selected_cases config registry (List.Perm.refl _) with
        ⟨otherKey, other, otherActive, otherMember, otherMatch, _⟩ | ⟨_, isNewest⟩
      · cases active.symm.trans otherActive
        exact absurd otherMatch (by rw [none other otherMember]; decide)
      · have isHead : (sortRecordsNewestInstallFirst
            (managedTherockEnvironmentRecords registry.files)).head? = some entry :=
          head_of_isFirst installOrder apart ⟨member, isFirst⟩
        rw [isNewest, isHead] at about
        exact about
  · intro taken listing perm
    rw [activeRuntime_eq]
    rcases selected_cases config registry perm with
      ⟨otherKey, entry, otherActive, member, isMatch, isSelected⟩ | ⟨none, isNewest⟩
    · cases active.symm.trans otherActive
      rw [isSelected]
      exact taken entry ⟨member, Or.inl isMatch⟩
    · rw [isNewest]
      cases head : (sortRecordsNewestInstallFirst
          (managedTherockEnvironmentRecords registry.files)).head? with
      | none => exact within_absent runtime
      | some entry =>
          have isFirst := head_sortBy installOrder head
          exact taken entry ⟨isFirst.1, Or.inr ⟨none activeKey active, isFirst.2⟩⟩

end Active

/-! ## Every registry -/

/-- There is one answer to which runtime is active if and only if the records
that the active key matches say the same, the newest families are one, and what
is taken by a key that names one runtime is about that runtime. -/
theorem one_answer_iff (host : RuntimeHost) (config : RocmCliConfig) (registry : RegistryFolder)
    (engines : List (List RegistryFile)) :
    OneAnswer host config registry engines ↔ Unambiguous host config registry engines := by
  constructor
  · intro answer
    refine ⟨(active_iff host config registry).mp answer.active,
      (family_iff registry engines).mp answer.family, ?_⟩
    intro file manifest activeKey entry only taken
    exact (within_iff host only.active _).mp
      (fun listing perm => (answer.agrees file manifest activeKey only listing perm).1) entry taken
  · intro unambiguous
    refine ⟨(active_iff host config registry).mpr unambiguous.matching,
      (family_iff registry engines).mpr unambiguous.newest,
      fun listing perm => candidates_perm registry perm, ?_⟩
    intro file manifest activeKey only listing perm
    refine ⟨(within_iff host only.active _).mpr
      (fun entry => unambiguous.named file manifest activeKey entry only) listing perm,
      current_of_onlyNamed only perm, fun entry => ?_⟩
    simp only [resolveEngineSelection, only.active]

/-! ## Two builds under one id -/

def bareHost : RuntimeHost where
  platform := .linux
  separator := .slash
  files := ⟨fun _ => false, fun _ => false, fun _ => false, fun _ => .ok false, fun _ _ => false⟩
  join := fun base child => base ++ "/" ++ child
  samePath := fun left right => left == right

def nightly (name key version : String) : RegistryFile where
  name := name.toList
  family := some ⟨some key, some "therock-nightly:gfx1151", some "gfx1151", none, some "nightly",
    some version, some ⟨true, some "/opt/rocm", some "/opt/rocm/bin", [], [], []⟩, some "/opt/rocm",
    none, some 1⟩
  installed := none
  sameNames := fun _ _ _ impossible => nomatch impossible

def twoNightlies : RegistryFolder :=
  ⟨[nightly "a.json" "nightly-a" "7.12", nightly "b.json" "nightly-b" "7.13"], by decide⟩

/-- An active key that is the id of two builds. -/
def activeById : RocmCliConfig :=
  { RocmCliConfig.default with activeRuntimeKey := some "therock-nightly:gfx1151" }

/-- The version depends on the order of the folder. -/
theorem shared_id_fails :
    ¬ forall (host : RuntimeHost) (config : RocmCliConfig) (registry : RegistryFolder)
      (engines : List (List RegistryFile)), OneAnswer host config registry engines := by
  intro holds
  have same := (holds bareHost activeById twoNightlies []).active twoNightlies.files.reverse
    (List.reverse_perm _)
  have versions := congrArg ActiveRuntime.version same
  have here : activeManagedTherockVersion activeById twoNightlies.files = some "7.12" := by decide
  have there : activeManagedTherockVersion activeById twoNightlies.files.reverse = some "7.13" := by
    decide
  have both := there.symm.trans (versions.trans here)
  exact absurd both (by decide)

end Runtimes
end RocmCli
