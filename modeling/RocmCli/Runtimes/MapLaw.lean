import RocmCli.Runtimes.RegistryMap

namespace RocmCli
namespace Runtimes

open Text Paths Files

/-!
# The map law of the registry

Registering a runtime keeps the registry a map when its key is one file name
and when the file of that name and the manifests with that key belong to each
other.  The key is stored as it is given, so neither is checked.
-/

section Law

variable (host : RegistryHost)

/-- The file of a key, directly inside the registry folder. -/
def entryPath (runtimeKey : String) : FilePath :=
  host.registryDir ++ [manifestFileName runtimeKey]

/-- A registered manifest as reading the registry returns it. -/
def asLoaded (manifest : InstalledRuntimeManifest) : InstalledRuntimeManifest :=
  normalizeHostPaths host (normalizeStoragePaths host manifest)

/-- The registry stays a map from keys to manifests across a registration. -/
structure KeepsMap (tree : FileTree) (manifest : InstalledRuntimeManifest)
    (overwrite : ManifestOverwrite) (registration : Registration) : Prop where
  /-- The key's file is written, and before it at most the install root's. -/
  writes : registration.result = .ok () ->
    exists front last, registration.written = front ++ [last] ∧
      FileTree.samePath host.rules last (entryPath host manifest.runtimeKey) ∧
      forall path, path ∈ front -> manifest.ownsInstallRoot = true ∧
        path = installRootFile host (normalizeStoragePaths host manifest)
  frame : registration.result = .ok () -> forall path,
    ¬ FileTree.samePath host.rules path (entryPath host manifest.runtimeKey) ->
    ¬ (manifest.ownsInstallRoot = true ∧ FileTree.samePath host.rules path
      (installRootFile host (normalizeStoragePaths host manifest))) ->
    registration.tree.file host.rules path = tree.file host.rules path
  update : registration.result = .ok () ->
    forall earlier, loadManifestFiles host tree = .ok earlier ->
      exists later, loadManifestFiles host registration.tree = .ok later ∧
        later.Perm (asLoaded host manifest ::
          earlier.filter (fun other => other.runtimeKey ≠ manifest.runtimeKey))
  refused : overwrite = .refuse ->
    forall found, tree.node host.rules (entryPath host manifest.runtimeKey) = some found ->
      registration.tree.node host.rules (entryPath host manifest.runtimeKey) = some found
  failed : forall error, registration.result = .error error ->
    forall earlier, loadManifestFiles host tree = .ok earlier ->
      exists later, loadManifestFiles host registration.tree = .ok later ∧
        forall runtimeKey, runtimeKey ∈ later.map (·.runtimeKey) ↔
          runtimeKey ∈ earlier.map (·.runtimeKey)

/-- An owned runtime is not installed in the registry folder itself. -/
def InstallRootApart (manifest : InstalledRuntimeManifest) : Prop :=
  manifest.ownsInstallRoot = true -> ¬ FileTree.samePath host.rules
    (installRootFile host (normalizeStoragePaths host manifest)).dropLast host.registryDir

/-- What stands at the path of a key is spelled so that a load reads it. -/
def EntryListed (tree : FileTree) (runtimeKey : String) : Prop :=
  forall entry, entry ∈ tree -> FileTree.samePath host.rules entry.1 (entryPath host runtimeKey) ->
    isListed host entry = true

/-- The manifests with a key are those in the file of the key. -/
def OwnEntry (tree : FileTree) (runtimeKey : String) : Prop :=
  forall entry, entry ∈ tree -> forall manifest, manifestOf host entry = some manifest ->
    (manifest.runtimeKey = runtimeKey ↔
      FileTree.samePath host.rules entry.1 (entryPath host runtimeKey))

end Law

/-! ## The write of the entry -/

section Entry

variable {host : RegistryHost}

theorem isListed_entryPath {runtimeKey : String} (nonempty : runtimeKey ≠ "") (found : Node) :
    isListed host (entryPath host runtimeKey, found) = true := by
  have positive : 0 < runtimeKey.toList.length := by
    apply List.length_pos_of_ne_nil
    intro empty
    exact nonempty (String.toList_eq_nil_iff.mp empty)
  have long : jsonExtension.length < (manifestFileName runtimeKey).length := by
    unfold manifestFileName
    rw [List.length_append]
    exact Nat.lt_add_of_pos_left positive
  have suffix : jsonExtension.isSuffixOf (manifestFileName runtimeKey) = true :=
    List.isSuffixOf_iff_suffix.mpr (List.suffix_append _ _)
  unfold isListed entryPath
  rw [List.getLast?_concat, List.dropLast_concat, Option.any_some]
  unfold hasJsonExtension
  rw [suffix, decide_eq_true long]
  exact decide_eq_true (rfl : FileTree.samePath host.rules host.registryDir host.registryDir)

theorem isListed_congr {path : FilePath} (first second : Node) :
    isListed host (path, first) = isListed host (path, second) := rfl

theorem manifestsIn_append (first second : FileTree) :
    manifestsIn host (first ++ second) = manifestsIn host first ++ manifestsIn host second :=
  List.filterMap_append

/-- Reading the registry after the entry of a key was written. -/
theorem manifestsIn_write_entry {tree written : FileTree} {path : FilePath} {bytes : Bytes}
    {manifest : InstalledRuntimeManifest} (distinct : tree.Distinct host.rules)
    (isWritten : tree.write host.rules path bytes = .ok written)
    (isEncoded : host.json.toVecPretty manifest = .ok bytes)
    (pathListed : forall found, isListed host (path, found) = true)
    (listed : forall entry, entry ∈ tree -> FileTree.samePath host.rules entry.1 path ->
      isListed host entry = true) :
    exists before old after, tree = before ++ old ++ after ∧
      manifestsIn host written =
        manifestsIn host before ++ normalizeHostPaths host manifest :: manifestsIn host after ∧
      (forall entry, entry ∈ before ++ after -> ¬ FileTree.samePath host.rules entry.1 path) ∧
      (forall entry, entry ∈ old -> FileTree.samePath host.rules entry.1 path) ∧
      (NoListedFolder host tree -> NoListedFolder host written) := by
  rcases FileTree.write_split distinct isWritten with
    ⟨before, old, after, stored, split, result, same, olds, others⟩
  have storedListed : isListed host (stored, .file bytes) = true := by
    rcases olds with ⟨_, isPath⟩ | ⟨previous, one⟩
    · rw [isPath]
      exact pathListed _
    · rw [isListed_congr _ (.file previous)]
      apply listed _ _ same
      rw [split, one]
      simp
  refine ⟨before, old, after, split, ?_, others, ?_, ?_⟩
  · have holds : manifestOf host (stored, .file bytes) =
        some (normalizeHostPaths host manifest) := by
      unfold manifestOf
      rw [if_pos storedListed]
      dsimp only
      rw [host.json.roundTrip manifest bytes isEncoded]
      rfl
    rw [result, manifestsIn_append]
    exact congrArg (manifestsIn host before ++ ·) (List.filterMap_cons_some holds)
  · intro entry member
    rcases olds with ⟨empty, _⟩ | ⟨previous, one⟩
    · rw [empty] at member
      exact absurd member List.not_mem_nil
    · rw [one] at member
      rw [List.mem_singleton.mp member]
      exact same
  · intro noFolder entry member isRead
    rw [result] at member
    rcases List.mem_append.mp member with front | back
    · exact noFolder entry (by simp [split, front]) isRead
    · rcases List.mem_cons.mp back with isIt | back
      · rw [isIt]
        exact Node.noConfusion
      · exact noFolder entry (by simp [split, back]) isRead

theorem mem_manifestsIn {tree : FileTree} {manifest : InstalledRuntimeManifest} :
    manifest ∈ manifestsIn host tree ↔
      exists entry, entry ∈ tree ∧ manifestOf host entry = some manifest :=
  List.mem_filterMap

theorem isListed_of_manifestOf {entry : FilePath × Node} {manifest : InstalledRuntimeManifest}
    (holds : manifestOf host entry = some manifest) : isListed host entry = true := by
  by_contra unlisted
  unfold manifestOf at holds
  rw [if_neg unlisted] at holds
  cases holds

end Entry

/-! ## Registrations -/

section Registrations

variable {host : RegistryHost} {tree : FileTree} {manifest : InstalledRuntimeManifest}
variable {registration : Registration}

theorem foldersMade_distinct (distinct : tree.Distinct host.rules) :
    (foldersMade host tree manifest).Distinct host.rules := by
  rcases FileTree.createDirAll_spec (foldersOnTheWay host.registryDir
    (manifestFileName manifest.runtimeKey)) tree distinct with ⟨added, result, still, _⟩
  unfold foldersMade
  rwa [result]

theorem file_foldersMade (distinct : tree.Distinct host.rules) (path : FilePath) :
    (foldersMade host tree manifest).file host.rules path = tree.file host.rules path := by
  rcases FileTree.createDirAll_spec (foldersOnTheWay host.registryDir
    (manifestFileName manifest.runtimeKey)) tree distinct with ⟨added, result, _, folders⟩
  unfold foldersMade
  rw [result]
  exact FileTree.file_append_folders fun entry member => (folders entry member).1

variable {encoded : Bytes} {middle : FileTree}

theorem InstallRootStep.distinct {front : List FilePath}
    (step : InstallRootStep host tree manifest encoded middle front)
    (distinct : tree.Distinct host.rules) : middle.Distinct host.rules := by
  cases step with
  | leave => exact distinct
  | write owned isWritten => exact FileTree.distinct_write distinct isWritten

theorem InstallRootStep.file {front : List FilePath}
    (step : InstallRootStep host tree manifest encoded middle front)
    (distinct : tree.Distinct host.rules) {path : FilePath}
    (different : forall other, other ∈ front -> ¬ FileTree.samePath host.rules path other) :
    middle.file host.rules path = tree.file host.rules path := by
  cases step with
  | leave => rfl
  | write owned isWritten =>
      exact FileTree.file_write distinct isWritten (different _ (List.mem_singleton_self _))

theorem InstallRootStep.front {front : List FilePath}
    (step : InstallRootStep host tree manifest encoded middle front) :
    forall path, path ∈ front ->
      manifest.ownsInstallRoot = true ∧ path = installRootFile host manifest := by
  intro path member
  cases step with
  | leave => exact absurd member List.not_mem_nil
  | write owned isWritten => exact ⟨owned, List.mem_singleton.mp member⟩

/-- A registration changes only the files it lists as written. -/
theorem Registers.file (registers : Registers host tree manifest registration)
    (distinct : tree.Distinct host.rules) {path : FilePath}
    (different : forall other, other ∈ registration.written ->
      ¬ FileTree.samePath host.rules path other) :
    registration.tree.file host.rules path = tree.file host.rules path := by
  have made : (foldersMade host tree manifest).Distinct host.rules := foldersMade_distinct distinct
  cases registers with
  | untouched error => rfl
  | folders error => exact file_foldersMade distinct path
  | installRoot error step => exact (step.file made different).trans (file_foldersMade distinct path)
  | @registered encoded middle last front isEncoded step isWritten =>
      have atEntry : last.file host.rules path = middle.file host.rules path := by
        apply FileTree.file_write (step.distinct made) isWritten
        exact different _ (List.mem_append_right _ (List.mem_singleton_self _))
      have atRoot := step.file made fun other member =>
        different other (List.mem_append_left _ member)
      rw [atEntry, atRoot, file_foldersMade distinct path]

theorem Registers.of_ok (registers : Registers host tree manifest registration)
    (ok : registration.result = .ok ()) :
    exists encoded middle front,
      host.json.toVecPretty manifest = .ok encoded ∧
      InstallRootStep host (foldersMade host tree manifest) manifest encoded middle front ∧
      middle.write host.rules (registryFile host manifest.runtimeKey) encoded =
        .ok registration.tree ∧
      registration.written = front ++ [registryFile host manifest.runtimeKey] := by
  cases registers with
  | untouched error => exact (nomatch ok)
  | folders error => exact (nomatch ok)
  | installRoot error step => exact (nomatch ok)
  | registered isEncoded step isWritten => exact ⟨_, _, _, isEncoded, step, isWritten, rfl⟩

theorem samePath_dropLast_entryPath (runtimeKey : String) :
    FileTree.samePath host.rules (entryPath host runtimeKey).dropLast host.registryDir := by
  unfold entryPath
  rw [List.dropLast_concat]
  rfl

theorem leavesRegistry_foldersMade (distinct : tree.Distinct host.rules)
    (plain : PlainKey manifest.runtimeKey) :
    LeavesRegistry host (entryPath host manifest.runtimeKey) tree
      (foldersMade host tree manifest) := by
  have leaves := leavesRegistry_createDirAll distinct plain
  rwa [registryFile_of_plain plain] at leaves

theorem leavesRegistry_installRoot {front : List FilePath} (distinct : tree.Distinct host.rules)
    (plain : PlainKey manifest.runtimeKey) (apart : manifest.ownsInstallRoot = true ->
      ¬ FileTree.samePath host.rules (installRootFile host manifest).dropLast host.registryDir)
    (step : InstallRootStep host (foldersMade host tree manifest) manifest encoded middle front) :
    LeavesRegistry host (entryPath host manifest.runtimeKey) tree middle := by
  have made := leavesRegistry_foldersMade distinct plain
  cases step with
  | leave => exact made
  | write owned isWritten =>
      have wrote := leavesRegistry_write made.distinct isWritten (apart owned)
        (samePath_dropLast_entryPath manifest.runtimeKey)
      exact made.trans wrote

/-- A registration that fails leaves the registry alone. -/
theorem Registers.leaves_of_error (registers : Registers host tree manifest registration)
    (distinct : tree.Distinct host.rules)
    (plain : PlainKey manifest.runtimeKey)
    (apart : manifest.ownsInstallRoot = true ->
      ¬ FileTree.samePath host.rules (installRootFile host manifest).dropLast host.registryDir)
    {error : ErrorChain} (failed : registration.result = .error error) :
    LeavesRegistry host (entryPath host manifest.runtimeKey) tree registration.tree := by
  cases registers with
  | untouched error => exact LeavesRegistry.refl distinct
  | folders error => exact leavesRegistry_foldersMade distinct plain
  | installRoot error step => exact leavesRegistry_installRoot distinct plain apart step
  | registered isEncoded step isWritten => exact (nomatch failed)

/-- What a registration that goes through does to what a load reads: in the
place of the entry at the key's path, or at the end, stands the new one. -/
theorem Registers.manifestsIn (registers : Registers host tree manifest registration)
    (distinct : tree.Distinct host.rules)
    (nonempty : manifest.runtimeKey ≠ "") (plain : PlainKey manifest.runtimeKey)
    (apart : manifest.ownsInstallRoot = true ->
      ¬ FileTree.samePath host.rules (installRootFile host manifest).dropLast host.registryDir)
    (listed : EntryListed host tree manifest.runtimeKey)
    (ok : registration.result = .ok ()) :
    exists before old after : FileTree,
      LeavesRegistry host (entryPath host manifest.runtimeKey) tree (before ++ old ++ after) ∧
      manifestsIn host registration.tree =
        manifestsIn host before ++ normalizeHostPaths host manifest :: manifestsIn host after ∧
      (forall entry, entry ∈ before ++ after ->
        ¬ FileTree.samePath host.rules entry.1 (entryPath host manifest.runtimeKey)) ∧
      (forall entry, entry ∈ old ->
        FileTree.samePath host.rules entry.1 (entryPath host manifest.runtimeKey)) ∧
      (NoListedFolder host tree -> NoListedFolder host registration.tree) := by
  rcases registers.of_ok ok with ⟨encoded, middle, front, isEncoded, step, isWritten, _⟩
  have leaves := leavesRegistry_installRoot distinct plain apart step
  rw [registryFile_of_plain plain] at isWritten
  have middleListed : forall entry, entry ∈ middle ->
      FileTree.samePath host.rules entry.1 (entryPath host manifest.runtimeKey) ->
      isListed host entry = true := by
    intro entry member same
    rcases leaves.added entry member with earlier | ⟨_, elsewhere⟩
    · exact listed entry earlier same
    · exact absurd same elsewhere
  rcases manifestsIn_write_entry leaves.distinct isWritten isEncoded
    (isListed_entryPath nonempty) middleListed with
    ⟨before, old, after, split, reads, others, olds, folders⟩
  rw [split] at leaves
  exact ⟨before, old, after, leaves, reads, others, olds, fun noFolder =>
    folders (split ▸ leaves.alike.2.mp noFolder)⟩

/-- What stands at the path of a plain key is seen before the folders are
made. -/
theorem registryFileExists_of_node {runtimeKey : String} {found : Node}
    (wellFormed : tree.WellFormed host.rules) (plain : PlainKey runtimeKey)
    (isNode : tree.node host.rules (entryPath host runtimeKey) = some found) :
    registryFileExists host tree runtimeKey = true := by
  rcases FileTree.node_split wellFormed.distinct isNode with ⟨before, stored, after, split, same, _⟩
  have member : (stored, found) ∈ tree := by
    rw [split]
    simp
  have sizes : stored.length = host.registryDir.length + 1 := by
    have lengths := congrArg List.length same
    rw [List.length_map, List.length_map] at lengths
    rw [lengths]
    unfold entryPath
    rw [List.length_append, List.length_singleton]
  have folders : forall size, size ≤ host.registryDir.length ->
      tree.isFolder host.rules (host.registryDir.take size) = true := by
    intro size small
    have above := wellFormed.rooted _ member size (by rw [sizes]; omega)
    have prefixes := FileTree.samePath_take same size
    unfold entryPath at prefixes
    rw [List.take_append_of_le_length small] at prefixes
    rwa [FileTree.isFolder_congr tree prefixes] at above
  unfold registryFileExists
  rw [registryFile_of_plain plain, foldersOnTheWay_of_plain plain, Bool.and_eq_true,
    List.all_eq_true]
  refine ⟨fun path onTheWay => ?_, by unfold entryPath at isNode; rw [isNode]; rfl⟩
  rcases List.mem_append.mp onTheWay with front | last
  · have isPrefix := (List.mem_inits _ _).mp front
    rw [List.prefix_iff_eq_take.mp isPrefix]
    exact folders _ isPrefix.length_le
  · rw [List.mem_singleton.mp last]
    have whole := folders _ (Nat.le_refl _)
    rwa [List.take_length] at whole

end Registrations

/-! ## The law -/

section MapLaw

variable {host : RegistryHost} {tree : FileTree} {manifest : InstalledRuntimeManifest}

theorem manifestsIn_not_of_ownEntry {runtimeKey : String} {before old after : FileTree}
    (leaves : LeavesRegistry host (entryPath host runtimeKey) tree (before ++ old ++ after))
    (others : forall entry, entry ∈ before ++ after ->
      ¬ FileTree.samePath host.rules entry.1 (entryPath host runtimeKey))
    (own : OwnEntry host tree runtimeKey) :
    forall other, other ∈ manifestsIn host before ++ manifestsIn host after ->
      other.runtimeKey ≠ runtimeKey := by
  intro other read sameKey
  rw [← manifestsIn_append] at read
  rcases mem_manifestsIn.mp read with ⟨entry, member, holds⟩
  have inMiddle : entry ∈ before ++ old ++ after := by
    rcases List.mem_append.mp member with front | back
    · simp [front]
    · simp [back]
  rcases leaves.added entry inMiddle with earlier | ⟨unlisted, _⟩
  · exact others entry member ((own entry earlier other holds).mp sameKey)
  · rw [isListed_of_manifestOf holds] at unlisted
    exact absurd unlisted (by decide)

theorem keepsMap_of_ownEntry (wellFormed : tree.WellFormed host.rules)
    (nonempty : manifest.runtimeKey ≠ "") (plain : PlainKey manifest.runtimeKey)
    (apart : InstallRootApart host manifest) (listed : EntryListed host tree manifest.runtimeKey)
    (own : OwnEntry host tree manifest.runtimeKey) (overwrite : ManifestOverwrite)
    (faults : RegistryFaults) :
    KeepsMap host tree manifest overwrite
      (writeRuntimeManifest host tree manifest overwrite faults) := by
  have registers : Registers host tree (normalizeStoragePaths host manifest) _ :=
    writeRuntimeManifest_registers overwrite faults
  have apart' : (normalizeStoragePaths host manifest).ownsInstallRoot = true -> _ :=
    fun owned => apart (normalizeStoragePaths_ownsInstallRoot.symm.trans owned)
  refine ⟨?writes, ?frame, ?update, ?refused, ?failed⟩
  case writes =>
    intro ok
    rcases registers.of_ok ok with ⟨encoded, middle, front, _, step, _, written⟩
    refine ⟨front, _, written, ?_, fun path member => ?_⟩
    · rw [normalizeStoragePaths_runtimeKey, registryFile_of_plain plain]
      rfl
    · rw [← normalizeStoragePaths_ownsInstallRoot]
      exact step.front path member
  case frame =>
    intro ok path notEntry notRoot
    rcases registers.of_ok ok with ⟨encoded, middle, front, _, step, _, written⟩
    apply registers.file wellFormed.distinct
    intro other member same
    rw [written] at member
    rcases List.mem_append.mp member with inFront | isLast
    · rcases step.front other inFront with ⟨owned, atRoot⟩
      rw [normalizeStoragePaths_ownsInstallRoot] at owned
      exact notRoot ⟨owned, atRoot ▸ same⟩
    · rw [List.mem_singleton.mp isLast, normalizeStoragePaths_runtimeKey,
        registryFile_of_plain plain] at same
      exact notEntry same
  case update =>
    intro ok earlier loaded
    rcases loadManifestFiles_iff.mp loaded with ⟨noFolder, isEarlier⟩
    rcases registers.manifestsIn wellFormed.distinct nonempty plain apart' listed ok with
      ⟨before, old, after, leaves, reads, others, olds, folders⟩
    refine ⟨_, loadManifestFiles_iff.mpr ⟨folders noFolder, rfl⟩, ?_⟩
    have rest := manifestsIn_not_of_ownEntry leaves others own
    have dropped : (manifestsIn host old).filter
        (fun other => decide (other.runtimeKey ≠ manifest.runtimeKey)) = [] := by
      apply List.filter_eq_nil_iff.mpr
      intro other read
      rcases mem_manifestsIn.mp read with ⟨entry, member, holds⟩
      have inMiddle : entry ∈ before ++ old ++ after := by simp [member]
      rcases leaves.added entry inMiddle with earlierEntry | ⟨unlisted, _⟩
      · have sameKey := (own entry earlierEntry other holds).mpr (olds entry member)
        simp [sameKey]
      · rw [isListed_of_manifestOf holds] at unlisted
        exact absurd unlisted (by decide)
    have kept : (manifestsIn host tree).filter
        (fun other => decide (other.runtimeKey ≠ manifest.runtimeKey)) =
        manifestsIn host before ++ manifestsIn host after := by
      rw [leaves.alike.1, manifestsIn_append, manifestsIn_append, List.filter_append,
        List.filter_append, dropped, List.append_nil, ← List.filter_append]
      apply List.filter_eq_self.mpr
      intro other read
      exact decide_eq_true (rest other read)
    have sorted := List.perm_insertionSort installedBefore
      (manifestsIn host (writeRuntimeManifest host tree manifest overwrite faults).tree)
    have earlierKept : List.Perm (earlier.filter
        (fun other => decide (other.runtimeKey ≠ manifest.runtimeKey)))
        (manifestsIn host before ++ manifestsIn host after) := by
      rw [← kept, isEarlier]
      exact (List.perm_insertionSort installedBefore _).filter _
    rw [reads] at sorted ⊢
    exact sorted.trans (List.perm_middle.trans (earlierKept.symm.cons _))
  case refused =>
    intro refuse found isNode
    have seen := registryFileExists_of_node wellFormed plain isNode
    unfold writeRuntimeManifest
    dsimp only
    rw [normalizeStoragePaths_runtimeKey, if_pos ⟨refuse, seen⟩]
    exact isNode
  case failed =>
    intro error failed earlier loaded
    have leaves := registers.leaves_of_error wellFormed.distinct plain apart' failed
    exact ⟨earlier, leaves.alike.load earlier loaded, fun _ => Iff.rfl⟩

/-- Under the map law, a key that was registered is one file name and owns its
entry. -/
theorem ownEntry_of_keepsMap (wellFormed : tree.WellFormed host.rules)
    (nonempty : manifest.runtimeKey ≠ "") (apart : InstallRootApart host manifest)
    (listed : EntryListed host tree manifest.runtimeKey) {overwrite : ManifestOverwrite}
    {faults : RegistryFaults} {earlier : List InstalledRuntimeManifest}
    (ok : (writeRuntimeManifest host tree manifest overwrite faults).result = .ok ())
    (loaded : loadManifestFiles host tree = .ok earlier)
    (keeps : KeepsMap host tree manifest overwrite
      (writeRuntimeManifest host tree manifest overwrite faults)) :
    PlainKey manifest.runtimeKey ∧ OwnEntry host tree manifest.runtimeKey := by
  have registers : Registers host tree (normalizeStoragePaths host manifest) _ :=
    writeRuntimeManifest_registers overwrite faults
  have apart' : (normalizeStoragePaths host manifest).ownsInstallRoot = true -> _ :=
    fun owned => apart (normalizeStoragePaths_ownsInstallRoot.symm.trans owned)
  have plain : PlainKey manifest.runtimeKey := by
    by_contra notPlain
    rcases registers.of_ok ok with ⟨_, _, front, _, _, _, written⟩
    rcases keeps.writes ok with ⟨otherFront, last, otherWritten, atEntry, _⟩
    rw [written] at otherWritten
    have sameLast := List.head_eq_of_cons_eq (List.append_inj' otherWritten rfl).2
    rw [← sameLast] at atEntry
    exact registryFile_of_not_plain notPlain atEntry
  refine ⟨plain, ?_⟩
  rcases registers.manifestsIn wellFormed.distinct nonempty plain apart' listed ok with
    ⟨before, old, after, leaves, reads, others, olds, _⟩
  rcases loadManifestFiles_iff.mp loaded with ⟨_, isEarlier⟩
  rcases keeps.update ok earlier loaded with ⟨later, reloaded, permuted⟩
  have isLater := (loadManifestFiles_iff.mp reloaded).2
  let differs : InstalledRuntimeManifest -> Bool :=
    fun other => decide (other.runtimeKey ≠ manifest.runtimeKey)
  have remaining : (manifestsIn host before ++ manifestsIn host after).Perm
      ((manifestsIn host tree).filter differs) := by
    have sorted := List.perm_insertionSort installedBefore (manifestsIn host
      (writeRuntimeManifest host tree manifest overwrite faults).tree)
    have sortedEarlier : earlier.Perm (manifestsIn host tree) := by
      rw [isEarlier]
      exact List.perm_insertionSort installedBefore _
    rw [isLater] at permuted
    have whole := sorted.symm.trans permuted
    rw [reads] at whole
    exact (List.perm_middle.symm.trans whole).cons_inv.trans (sortedEarlier.filter differs)
  have restDiffers : forall other, other ∈ manifestsIn host before ++ manifestsIn host after ->
      differs other = true := by
    intro other read
    exact (List.mem_filter.mp (remaining.mem_iff.mp read)).2
  have dropped : (manifestsIn host old).filter differs = [] := by
    have sizes := remaining.length_eq
    have beforeKept : (manifestsIn host before).filter differs = manifestsIn host before :=
      List.filter_eq_self.mpr fun other read => restDiffers other (List.mem_append_left _ read)
    have afterKept : (manifestsIn host after).filter differs = manifestsIn host after :=
      List.filter_eq_self.mpr fun other read => restDiffers other (List.mem_append_right _ read)
    rw [leaves.alike.1, manifestsIn_append, manifestsIn_append, List.filter_append,
      List.filter_append, beforeKept, afterKept, List.length_append, List.length_append,
      List.length_append] at sizes
    apply List.length_eq_zero_iff.mp
    omega
  intro entry member other holds
  have inMiddle := leaves.kept entry member (isListed_of_manifestOf holds)
  constructor
  · intro sameKey
    by_contra elsewhere
    have outside : entry ∈ before ++ after := by
      rcases List.mem_append.mp inMiddle with front | back
      · rcases List.mem_append.mp front with front | inside
        · exact List.mem_append_left _ front
        · exact absurd (olds entry inside) elsewhere
      · exact List.mem_append_right _ back
    have read := mem_manifestsIn.mpr ⟨entry, outside, holds⟩
    rw [manifestsIn_append] at read
    exact of_decide_eq_true (restDiffers other read) sameKey
  · intro same
    have inside : entry ∈ old := by
      rcases List.mem_append.mp inMiddle with front | back
      · rcases List.mem_append.mp front with front | inside
        · exact absurd same (others entry (List.mem_append_left _ front))
        · exact inside
      · exact absurd same (others entry (List.mem_append_right _ back))
    by_contra differentKey
    have read := mem_manifestsIn.mpr ⟨entry, inside, holds⟩
    have isKept : differs other = true := decide_eq_true differentKey
    have inFilter := List.mem_filter.mpr ⟨read, isKept⟩
    rw [dropped] at inFilter
    exact List.not_mem_nil inFilter

/-- A registration keeps the registry a map when the key is one file name, the
file of the key and the manifests with the key belong together, and an owned
runtime is installed elsewhere.  No other registration that goes through does,
except where the last of these or the spelling of the file gets in the way. -/
theorem registration_keeps_map (wellFormed : tree.WellFormed host.rules)
    (nonblank : trim manifest.runtimeKey ≠ "") :
    (PlainKey manifest.runtimeKey ∧ OwnEntry host tree manifest.runtimeKey ∧
        EntryListed host tree manifest.runtimeKey ∧ InstallRootApart host manifest ->
      forall overwrite faults, KeepsMap host tree manifest overwrite
        (writeRuntimeManifest host tree manifest overwrite faults)) ∧
    (EntryListed host tree manifest.runtimeKey -> InstallRootApart host manifest ->
      forall overwrite faults earlier,
        (writeRuntimeManifest host tree manifest overwrite faults).result = .ok () ->
        loadManifestFiles host tree = .ok earlier ->
        KeepsMap host tree manifest overwrite
          (writeRuntimeManifest host tree manifest overwrite faults) ->
        PlainKey manifest.runtimeKey ∧ OwnEntry host tree manifest.runtimeKey) := by
  have nonempty : manifest.runtimeKey ≠ "" := by
    intro empty
    rw [empty] at nonblank
    exact nonblank (by decide)
  constructor
  · rintro ⟨plain, own, listed, apart⟩ overwrite faults
    exact keepsMap_of_ownEntry wellFormed nonempty plain apart listed own overwrite faults
  · intro listed apart overwrite faults earlier ok loaded keeps
    exact ownEntry_of_keepsMap wellFormed nonempty apart listed ok loaded keeps

end MapLaw

/-! ## A key that leaves the registry -/

section Escape

/-- A file system where every spelling is a name of its own. -/
def caseSensitive : NameRules where
  fold name := name
  slash _ _ same slash := same ▸ slash

/-- The fields of a manifest that are modelled, for a runtime that was never
probed. -/
def manifestText (manifest : InstalledRuntimeManifest) : Bytes :=
  [0x7b, 0x0a] ++ jsonMembers "  " [
    ("runtime_key", jsonString manifest.runtimeKey),
    ("runtime_id", jsonString manifest.runtimeId),
    ("format", jsonString manifest.format),
    ("install_root", jsonString manifest.installRoot),
    ("python_executable", jsonOption manifest.pythonExecutable),
    ("rocm_sdk", asciiBytes "null"),
    ("read_only", asciiBytes (toString manifest.readOnly)),
    ("imported_from", jsonOption manifest.importedFrom),
    ("installed_at_unix_ms", asciiBytes (toString manifest.installedAtUnixMs))] ++ [0x7d]

/-- A manifest in somebody's folder. -/
def foreignManifest (runtimeKey : String) : InstalledRuntimeManifest :=
  tarballRuntime runtimeKey "therock-release-gfx110X" 1

/-- The same manifest when it is imported. -/
def importedManifest (runtimeKey : String) : InstalledRuntimeManifest :=
  { foreignManifest runtimeKey with readOnly := true, importedFrom := some "/mnt/rt.json" }

def knownManifests : List InstalledRuntimeManifest :=
  [foreignManifest "main", importedManifest "main", foreignManifest "../active",
    importedManifest "../active"]

def unixHost : RegistryHost where
  rules := caseSensitive
  platform := .linux
  separator := .slash
  json := .ofTable (knownManifests.map fun manifest => (manifest, manifestText manifest))
    (by decide +kernel)
  current := ["home".toList]
  registryDir := ["data".toList, "runtimes".toList, "registry".toList]
  registryPlain := by decide

def markerFile : FilePath := ["data".toList, "runtimes".toList, "active.json".toList]

/-- A registry with one runtime, which is active. -/
def activeRegistry : FileTree :=
  [(["data".toList], .folder),
    (["data".toList, "runtimes".toList], .folder),
    (unixHost.registryDir, .folder),
    (entryPath unixHost "main", .file (manifestText (foreignManifest "main"))),
    (markerFile, .file (asciiBytes "marker"))]

theorem activeRegistry_wellFormed : activeRegistry.WellFormed unixHost.rules :=
  ⟨by decide +kernel, by decide +kernel⟩

def noFaults : RegistryFaults := ⟨none, none, none⟩

/-- An import under the key `../active` writes over the active runtime's
marker, and the runtime it registers is not listed. -/
theorem import_overwrites_marker :
    let imported := importRuntimeManifest unixHost (Machine.sound 0).files activeRegistry
      "/mnt/rt.json" none (.ok (manifestText (foreignManifest "../active"))) true noFaults
    imported.2 = .ok (importedManifest "../active") ∧
    imported.1.file caseSensitive markerFile = some (manifestText (importedManifest "../active")) ∧
    loadManifestFiles unixHost imported.1 = .ok [foreignManifest "main"] ∧
    ¬ KeepsMap unixHost activeRegistry (importedManifest "../active") .replace
      (writeRuntimeManifest unixHost activeRegistry (importedManifest "../active") .replace
        noFaults) := by
  refine ⟨by decide +kernel, by decide +kernel, by decide +kernel, fun keeps => ?_⟩
  have unchanged := keeps.frame (by decide +kernel) markerFile (by decide +kernel)
    (by decide +kernel)
  exact absurd unchanged (by decide +kernel)

/-- Registering the active runtime again replaces its one manifest. -/
theorem reimport_keeps_map :
    KeepsMap unixHost activeRegistry (importedManifest "main") .replace
      (writeRuntimeManifest unixHost activeRegistry (importedManifest "main") .replace
        noFaults) := by
  have own : OwnEntry unixHost activeRegistry (importedManifest "main").runtimeKey := by
    change forall entry, entry ∈ activeRegistry -> forall manifest,
      manifest ∈ manifestOf unixHost entry -> _
    decide +kernel
  have listed : EntryListed unixHost activeRegistry (importedManifest "main").runtimeKey := by
    unfold EntryListed
    decide +kernel
  have apart : InstallRootApart unixHost (importedManifest "main") :=
    fun owned => absurd owned (by decide)
  have nonblank : trim (importedManifest "main").runtimeKey ≠ "" := by decide +kernel
  have plain : PlainKey (importedManifest "main").runtimeKey := by decide
  have law := (registration_keeps_map activeRegistry_wellFormed nonblank).1
  exact law ⟨plain, own, listed, apart⟩ .replace noFaults

end Escape

end Runtimes
end RocmCli
