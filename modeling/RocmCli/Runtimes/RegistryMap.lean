import RocmCli.Runtimes.RegistryFiles

namespace RocmCli
namespace Runtimes

open Text Paths Files

/-!
# The registry as a map

Registering a runtime under a key that is one file name changes the one file
that is named after the key, and reading the registry afterwards returns the
manifest under the key and every other manifest as before.  A key with a
separator names a file somewhere else.
-/

/-! ## Keys as file names -/

/-- A key that is one file name. -/
def PlainKey (runtimeKey : String) : Prop := '/' ∉ runtimeKey.toList

instance (runtimeKey : String) : Decidable (PlainKey runtimeKey) :=
  inferInstanceAs (Decidable (_ ∉ _))

theorem slash_mem_manifestFileName {runtimeKey : String} :
    '/' ∈ manifestFileName runtimeKey ↔ ¬ PlainKey runtimeKey := by
  have extension : '/' ∉ jsonExtension := by decide
  unfold manifestFileName PlainKey
  rw [List.mem_append, not_not]
  exact ⟨fun either => either.resolve_right extension, Or.inl⟩

/-- The path of a text that is one name. -/
theorem locate_name {base : FilePath} {name : PathText} (free : '/' ∉ name) (nonempty : name ≠ [])
    (notDot : name ≠ dot) (notDotDot : name ≠ dotDot) : locate base name = base ++ [name] := by
  have relative : name.head? ≠ some '/' := by
    intro slash
    exact free (List.mem_of_mem_head? slash)
  unfold locate
  rw [if_neg relative, List.splitOn_eq_singleton free, List.foldl_cons, List.foldl_nil]
  unfold descend
  rw [if_neg (not_or.mpr ⟨nonempty, notDot⟩), if_neg notDotDot]

theorem manifestFileName_name (runtimeKey : String) :
    manifestFileName runtimeKey ≠ [] ∧ manifestFileName runtimeKey ≠ dot ∧
      manifestFileName runtimeKey ≠ dotDot := by
  have long : 5 ≤ (manifestFileName runtimeKey).length := by
    unfold manifestFileName
    rw [List.length_append]
    exact Nat.le_add_left 5 _
  refine ⟨?_, ?_, ?_⟩ <;> intro same <;> rw [same] at long <;> exact absurd long (by decide)

section Keys

variable {host : RegistryHost} {runtimeKey : String}

theorem registryFile_of_plain (plain : PlainKey runtimeKey) :
    registryFile host runtimeKey = host.registryDir ++ [manifestFileName runtimeKey] := by
  rcases manifestFileName_name runtimeKey with ⟨nonempty, notDot, notDotDot⟩
  exact locate_name (fun slash => slash_mem_manifestFileName.mp slash plain) nonempty notDot notDotDot

theorem foldersOnTheWay_of_plain (plain : PlainKey runtimeKey) :
    foldersOnTheWay host.registryDir (manifestFileName runtimeKey) =
      host.registryDir.inits ++ [host.registryDir] := by
  have free : '/' ∉ manifestFileName runtimeKey :=
    fun slash => slash_mem_manifestFileName.mp slash plain
  have relative : (manifestFileName runtimeKey).head? ≠ some '/' := by
    intro slash
    exact free (List.mem_of_mem_head? slash)
  unfold foldersOnTheWay
  dsimp only
  rw [if_neg relative, List.splitOn_eq_singleton free]
  rfl

/-- A name on a resolved path comes from the base or from the text. -/
theorem slash_not_mem_locate {base : FilePath} (basePlain : forall name, name ∈ base -> '/' ∉ name)
    (text : PathText) : forall name, name ∈ locate base text -> '/' ∉ name := by
  have fold : forall (parts : List PathText) (start : FilePath),
      (forall part, part ∈ parts -> '/' ∉ part) -> (forall name, name ∈ start -> '/' ∉ name) ->
      forall name, name ∈ parts.foldl descend start -> '/' ∉ name := by
    intro parts
    induction parts with
    | nil => exact fun start _ plain => plain
    | cons part rest ih =>
        intro start parts plain
        apply ih _ (fun other member => parts other (List.mem_cons_of_mem _ member))
        intro name member
        rcases mem_descend member with earlier | ⟨same, _⟩
        · exact plain name earlier
        · exact same ▸ parts part List.mem_cons_self
  apply fold _ _ (fun part member => (mem_of_mem_splitOn member).1)
  split
  · exact fun name member => absurd member List.not_mem_nil
  · exact basePlain

/-- A key with a separator does not name the file that is called after it. -/
theorem registryFile_of_not_plain (notPlain : ¬ PlainKey runtimeKey) :
    ¬ FileTree.samePath host.rules (registryFile host runtimeKey)
      (host.registryDir ++ [manifestFileName runtimeKey]) := by
  intro same
  have lasts := congrArg List.getLast? same
  rw [List.map_append, List.map_cons, List.map_nil, List.getLast?_concat, List.getLast?_map] at lasts
  rcases Option.map_eq_some_iff.mp lasts with ⟨name, isLast, sameName⟩
  have member := List.mem_of_getLast? isLast
  have slash := host.rules.slash _ _ sameName.symm (slash_mem_manifestFileName.mpr notPlain)
  exact slash_not_mem_locate host.registryPlain _ name member slash

end Keys

/-! ## What a load reads -/

section Loading

variable {host : RegistryHost}

/-- The manifests in the order of the folder. -/
def manifestsIn (host : RegistryHost) (tree : FileTree) : List InstalledRuntimeManifest :=
  tree.filterMap (manifestOf host)

def NoListedFolder (host : RegistryHost) (tree : FileTree) : Prop :=
  forall entry, entry ∈ tree -> isListed host entry = true -> entry.2 ≠ .folder

theorem loadManifestFiles_iff {tree : FileTree} {manifests : List InstalledRuntimeManifest} :
    loadManifestFiles host tree = .ok manifests ↔
      NoListedFolder host tree ∧
        manifests = sortManifestsNewestInstallFirst (manifestsIn host tree) := by
  have folders : (tree.any fun entry => isListed host entry && entry.2 == .folder) = true ↔
      ¬ NoListedFolder host tree := by
    unfold NoListedFolder
    simp
  unfold loadManifestFiles
  by_cases none : NoListedFolder host tree
  · rw [if_neg (fun some => folders.mp some none)]
    constructor
    · intro loaded
      exact ⟨none, (Except.ok.inj loaded).symm⟩
    · rintro ⟨_, same⟩
      rw [same]
      rfl
  · rw [if_pos (folders.mpr none)]
    constructor
    · exact nofun
    · exact fun both => absurd both.1 none

/-- Two trees that a load reads alike. -/
def ReadAlike (host : RegistryHost) (first second : FileTree) : Prop :=
  manifestsIn host first = manifestsIn host second ∧
    (NoListedFolder host first ↔ NoListedFolder host second)

theorem ReadAlike.load {first second : FileTree} (alike : ReadAlike host first second) :
    (forall manifests, loadManifestFiles host first = .ok manifests ->
      loadManifestFiles host second = .ok manifests) := by
  intro manifests loaded
  rw [loadManifestFiles_iff] at loaded ⊢
  exact ⟨alike.2.mp loaded.1, alike.1 ▸ loaded.2⟩

theorem ReadAlike.trans {first second third : FileTree} (left : ReadAlike host first second)
    (right : ReadAlike host second third) : ReadAlike host first third :=
  ⟨left.1.trans right.1, left.2.trans right.2⟩

/-- Entries that are not listed are not read. -/
theorem readAlike_of_unlisted (before old new after : FileTree)
    (oldUnlisted : forall entry, entry ∈ old -> isListed host entry = false)
    (newUnlisted : forall entry, entry ∈ new -> isListed host entry = false) :
    ReadAlike host (before ++ old ++ after) (before ++ new ++ after) := by
  have none : forall entries : FileTree, (forall entry, entry ∈ entries ->
      isListed host entry = false) -> manifestsIn host entries = [] := by
    intro entries unlisted
    apply List.filterMap_eq_nil_iff.mpr
    intro entry member
    unfold manifestOf
    rw [unlisted entry member]
    rfl
  constructor
  · unfold manifestsIn at none ⊢
    rw [List.filterMap_append, List.filterMap_append, List.filterMap_append, List.filterMap_append,
      none old oldUnlisted, none new newUnlisted]
  · unfold NoListedFolder
    constructor <;> intro folders entry member listed
    · rcases List.mem_append.mp member with front | back
      · rcases List.mem_append.mp front with front | inside
        · exact folders entry (by simp [front]) listed
        · rw [newUnlisted entry inside] at listed
          exact absurd listed (by decide)
      · exact folders entry (by simp [back]) listed
    · rcases List.mem_append.mp member with front | back
      · rcases List.mem_append.mp front with front | inside
        · exact folders entry (by simp [front]) listed
        · rw [oldUnlisted entry inside] at listed
          exact absurd listed (by decide)
      · exact folders entry (by simp [back]) listed

/-- What is not directly inside the registry folder is not listed. -/
theorem isListed_of_samePath {stored path : FilePath} {found : Node}
    (same : FileTree.samePath host.rules stored path)
    (apart : ¬ FileTree.samePath host.rules path.dropLast host.registryDir) :
    isListed host (stored, found) = false := by
  have parents : FileTree.samePath host.rules stored.dropLast path.dropLast := by
    unfold FileTree.samePath at same ⊢
    rw [List.map_dropLast, List.map_dropLast, same]
  unfold isListed
  rw [Bool.and_eq_false_iff]
  right
  rw [decide_eq_false_iff_not]
  exact fun inside => apart (parents.symm.trans inside)

/-- A tree that an operation leaves the registry of alone: it reads as before,
and what is new in it is neither listed nor at the path. -/
structure LeavesRegistry (host : RegistryHost) (path : FilePath) (first second : FileTree) :
    Prop where
  distinct : second.Distinct host.rules
  alike : ReadAlike host first second
  kept : forall entry, entry ∈ first -> isListed host entry = true -> entry ∈ second
  added : forall entry, entry ∈ second -> entry ∈ first ∨
    (isListed host entry = false ∧ ¬ FileTree.samePath host.rules entry.1 path)

theorem LeavesRegistry.trans {path : FilePath} {first second third : FileTree}
    (left : LeavesRegistry host path first second) (right : LeavesRegistry host path second third) :
    LeavesRegistry host path first third where
  distinct := right.distinct
  alike := left.alike.trans right.alike
  kept entry member listed := right.kept entry (left.kept entry member listed) listed
  added entry member := (right.added entry member).elim (left.added entry) Or.inr

section

variable {tree : FileTree} (distinct : tree.Distinct host.rules)
include distinct

theorem LeavesRegistry.refl {path : FilePath} :
    LeavesRegistry host path tree tree where
  distinct := distinct
  alike := ⟨rfl, Iff.rfl⟩
  kept _ member _ := member
  added _ member := Or.inl member

/-- The folders made for a plain key are the registry folder and those above
it. -/
theorem leavesRegistry_createDirAll {runtimeKey : String} (plain : PlainKey runtimeKey) :
    LeavesRegistry host (registryFile host runtimeKey) tree
      (tree.createDirAll host.rules
        (foldersOnTheWay host.registryDir (manifestFileName runtimeKey))).1 := by
  rcases FileTree.createDirAll_spec (foldersOnTheWay host.registryDir (manifestFileName runtimeKey))
    tree distinct with ⟨added, result, still, folders⟩
  have short : forall entry, entry ∈ added -> entry.1.length ≤ host.registryDir.length := by
    intro entry member
    have onTheWay := (folders entry member).2
    rw [foldersOnTheWay_of_plain plain] at onTheWay
    rcases List.mem_append.mp onTheWay with front | last
    · exact ((List.mem_inits _ _).mp front).length_le
    · exact Nat.le_of_eq (congrArg List.length (List.mem_singleton.mp last))
  have unlisted : forall entry, entry ∈ added -> isListed host entry = false := by
    intro entry member
    unfold isListed
    by_cases empty : entry.1 = []
    · rw [empty]
      rfl
    · rw [Bool.and_eq_false_iff]
      right
      rw [decide_eq_false_iff_not]
      intro inside
      have sizes := congrArg List.length inside
      have pos := List.length_pos_of_ne_nil empty
      have size := short entry member
      rw [List.length_map, List.length_map, List.length_dropLast] at sizes
      omega
  rw [result]
  refine ⟨still, ?_, fun entry member _ => List.mem_append_left added member, ?_⟩
  · have alike := readAlike_of_unlisted tree [] added []
      (fun _ member => absurd member List.not_mem_nil) unlisted
    simpa using alike
  · intro entry member
    rcases List.mem_append.mp member with old | new
    · exact Or.inl old
    · right
      refine ⟨unlisted entry new, fun same => ?_⟩
      have sizes := congrArg List.length same
      have size := short entry new
      rw [List.length_map, List.length_map, registryFile_of_plain plain, List.length_append,
        List.length_singleton] at sizes
      omega

/-- A write outside the registry folder. -/
theorem leavesRegistry_write {written : FileTree} {path other : FilePath} {bytes : Bytes}
    (isWritten : tree.write host.rules other bytes = .ok written)
    (apart : ¬ FileTree.samePath host.rules other.dropLast host.registryDir)
    (inside : FileTree.samePath host.rules path.dropLast host.registryDir) :
    LeavesRegistry host path tree written := by
  rcases FileTree.write_split distinct isWritten with
    ⟨before, old, after, stored, split, result, same, olds, _⟩
  have unlisted : forall found, isListed host (stored, found) = false :=
    fun found => isListed_of_samePath same apart
  have oldUnlisted : forall entry, entry ∈ old -> isListed host entry = false := by
    intro entry member
    rcases olds with ⟨empty, _⟩ | ⟨bytes, one⟩
    · rw [empty] at member
      exact absurd member List.not_mem_nil
    · rw [one] at member
      rw [List.mem_singleton.mp member]
      exact unlisted _
  refine ⟨FileTree.distinct_write distinct isWritten, ?_, ?_, ?_⟩
  · have alike := readAlike_of_unlisted before old [(stored, .file bytes)] after oldUnlisted (by
      intro entry member
      rw [List.mem_singleton.mp member]
      exact unlisted _)
    rw [split, result]
    simpa using alike
  · intro entry member listed
    rw [split] at member
    rw [result]
    rcases List.mem_append.mp member with front | back
    · rcases List.mem_append.mp front with front | replaced
      · exact List.mem_append_left _ front
      · rw [oldUnlisted entry replaced] at listed
        exact absurd listed (by decide)
    · exact List.mem_append_right _ (List.mem_cons_of_mem _ back)
  · intro entry member
    rw [result] at member
    rw [split]
    rcases List.mem_append.mp member with front | back
    · exact Or.inl (List.mem_append_left _ (List.mem_append_left _ front))
    · rcases List.mem_cons.mp back with isIt | back
      · right
        rw [isIt]
        refine ⟨unlisted _, fun again => apart ?_⟩
        have samePaths : FileTree.samePath host.rules other path := same.symm.trans again
        unfold FileTree.samePath at samePaths inside ⊢
        rw [List.map_dropLast, samePaths, ← List.map_dropLast, inside]
      · exact Or.inl (List.mem_append_right _ back)

end

end Loading

/-! ## What a registration does -/

section Registering

variable {host : RegistryHost} {tree : FileTree} {manifest : InstalledRuntimeManifest}

def foldersMade (host : RegistryHost) (tree : FileTree) (manifest : InstalledRuntimeManifest) :
    FileTree :=
  (tree.createDirAll host.rules
    (foldersOnTheWay host.registryDir (manifestFileName manifest.runtimeKey))).1

/-- The step that leaves a manifest in the install root of an owned runtime,
with the paths it wrote. -/
inductive InstallRootStep (host : RegistryHost) (tree : FileTree)
    (manifest : InstalledRuntimeManifest) (encoded : Bytes) : FileTree -> List FilePath -> Prop
  | leave : InstallRootStep host tree manifest encoded tree []
  | write {written : FileTree} (owned : manifest.ownsInstallRoot = true)
      (isWritten : tree.write host.rules (installRootFile host manifest) encoded = .ok written) :
      InstallRootStep host tree manifest encoded written [installRootFile host manifest]

/-- The four ends of a registration. -/
inductive Registers (host : RegistryHost) (tree : FileTree) (manifest : InstalledRuntimeManifest) :
    Registration -> Prop
  | untouched (error : ErrorChain) : Registers host tree manifest ⟨tree, [], .error error⟩
  | folders (error : ErrorChain) :
      Registers host tree manifest ⟨foldersMade host tree manifest, [], .error error⟩
  | installRoot {encoded : Bytes} {middle : FileTree} {front : List FilePath} (error : ErrorChain)
      (step : InstallRootStep host (foldersMade host tree manifest) manifest encoded middle front) :
      Registers host tree manifest ⟨middle, front, .error error⟩
  | registered {encoded : Bytes} {middle last : FileTree} {front : List FilePath}
      (isEncoded : host.json.toVecPretty manifest = .ok encoded)
      (step : InstallRootStep host (foldersMade host tree manifest) manifest encoded middle front)
      (isWritten : middle.write host.rules (registryFile host manifest.runtimeKey) encoded =
        .ok last) :
      Registers host tree manifest
        ⟨last, front ++ [registryFile host manifest.runtimeKey], .ok ()⟩

theorem writeFile_eq_ok {path : FilePath} {bytes : Bytes} {fault : Option ErrorChain}
    {written : FileTree} (isWritten : writeFile host tree path bytes fault = .ok written) :
    tree.write host.rules path bytes = .ok written := by
  rcases fault with _ | error
  · exact isWritten
  · exact (nomatch isWritten)

theorem writeInstallRootManifest_step {encoded : Bytes} {fault : Option ErrorChain}
    {written : FileTree} {paths : List FilePath}
    (isWritten : writeInstallRootManifest host tree manifest encoded fault = .ok (written, paths)) :
    InstallRootStep host tree manifest encoded written paths := by
  unfold writeInstallRootManifest at isWritten
  split_ifs at isWritten with owned
  · dsimp only at isWritten
    split_ifs at isWritten
    · rcases Prod.mk.inj (Except.ok.inj isWritten) with ⟨sameTree, samePaths⟩
      rw [← sameTree, ← samePaths]
      exact .leave
    · rcases attempt : writeFile host tree (installRootFile host manifest) encoded fault with
        error | made
      · rw [attempt] at isWritten
        exact (nomatch isWritten)
      · rw [attempt] at isWritten
        rcases Prod.mk.inj (Except.ok.inj isWritten) with ⟨sameTree, samePaths⟩
        rw [← sameTree, ← samePaths]
        exact .write owned (writeFile_eq_ok attempt)
  · rcases Prod.mk.inj (Except.ok.inj isWritten) with ⟨sameTree, samePaths⟩
    rw [← sameTree, ← samePaths]
    exact .leave

theorem normalizeStoragePaths_runtimeKey :
    (normalizeStoragePaths host manifest).runtimeKey = manifest.runtimeKey := rfl

theorem normalizeStoragePaths_ownsInstallRoot :
    (normalizeStoragePaths host manifest).ownsInstallRoot = manifest.ownsInstallRoot := by
  unfold InstalledRuntimeManifest.ownsInstallRoot normalizeStoragePaths
    InstalledRuntimeManifest.mapPaths
  dsimp only
  rw [Option.isNone_map]

theorem writeRuntimeManifest_registers (overwrite : ManifestOverwrite) (faults : RegistryFaults) :
    Registers host tree (normalizeStoragePaths host manifest)
      (writeRuntimeManifest host tree manifest overwrite faults) := by
  unfold writeRuntimeManifest
  dsimp only
  by_cases refused : overwrite = .refuse ∧
      registryFileExists host tree (normalizeStoragePaths host manifest).runtimeKey = true
  · rw [if_pos refused]
    exact .untouched _
  · rw [if_neg refused]
    rcases faults.createDir with _ | error
    · dsimp only
      rcases (tree.createDirAll host.rules (foldersOnTheWay host.registryDir
        (manifestFileName (normalizeStoragePaths host manifest).runtimeKey))).2 with error | _
      · exact .folders error
      · dsimp only
        rcases encoding : host.json.toVecPretty (normalizeStoragePaths host manifest) with
          error | encoded
        · exact .folders _
        · dsimp only
          rcases atRoot : writeInstallRootManifest host _ (normalizeStoragePaths host manifest)
            encoded faults.installRootWrite with error | ⟨middle, front⟩
          · exact .folders _
          · dsimp only
            have step := writeInstallRootManifest_step atRoot
            rcases atRegistry : writeFile host middle
              (registryFile host (normalizeStoragePaths host manifest).runtimeKey) encoded
              faults.registryWrite with error | last
            · exact .installRoot _ step
            · exact .registered encoding step (writeFile_eq_ok atRegistry)
    · exact .untouched error

end Registering

end Runtimes
end RocmCli
