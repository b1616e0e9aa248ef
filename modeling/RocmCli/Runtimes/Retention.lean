import RocmCli.Runtimes.Prune
import RocmCli.Support.Listings

namespace RocmCli
namespace Runtimes

open Text Listings

/-!
# Which old installs may go

An install that nothing else holds competes with those of its own channel,
format, family and toolchain, and the newest few of them stay.
-/

/-! ## The policy -/

/-- The packages an install was asked for. -/
structure WheelRuntimeComposition where
  packageSpecs : List String
  deriving DecidableEq, Repr

/-- A manifest with what retention reads of it besides. -/
structure StoredManifest extends InstalledRuntimeManifest where
  channel : String
  family : String
  wheelComposition : Option WheelRuntimeComposition
  devel : Bool
  deriving DecidableEq, Repr

/-- Whether the extras of the first `rocm` package that has any name the compiler. -/
def wheelCompositionIncludesDevel (composition : Option WheelRuntimeComposition) : Option Bool :=
  composition.bind fun composition =>
    composition.packageSpecs.findSome? fun spec =>
      (stripPrefix "rocm[" spec).bind fun rest =>
        if ']' ∈ rest.toList then
          let extras := rest.toList.takeWhile (· != ']')
          some ((extras.splitOn ',').any fun extra => trim (String.ofList extra) == "devel")
        else none

namespace StoredManifest

def includesDevel (manifest : StoredManifest) : Bool :=
  (wheelCompositionIncludesDevel manifest.wheelComposition).getD manifest.devel

end StoredManifest

def toAsciiLowercase (value : String) : String := String.ofList (value.toList.map Char.toLower)

abbrev RetentionGroup := String ×ₗ String ×ₗ String ×ₗ Bool

/-- Installs compete within one channel, format, family and toolchain. -/
def retentionGroup (manifest : StoredManifest) : RetentionGroup :=
  toLex (toAsciiLowercase manifest.channel, toLex (toAsciiLowercase manifest.format,
    toLex (toAsciiLowercase manifest.family, manifest.includesDevel)))

/-- Newest first, ties by key. -/
def candidateOrder (manifest : StoredManifest) : Natᵒᵈ ×ₗ String :=
  toLex (OrderDual.toDual manifest.installedAtUnixMs, manifest.runtimeKey)

section Policy

variable (manifests : List StoredManifest) (inputs : RetentionInputs) (keep : Nat)

/-- The hold of one of the manifests, however recent it is. -/
def holdAmong (manifest : StoredManifest) : Option HoldReason :=
  unconditionalHold manifest.toInstalledRuntimeManifest inputs
    (resolvedDefaultRuntimeKey (manifests.map (·.toInstalledRuntimeManifest)) inputs)

/-- Those that nothing holds. -/
def candidates : List StoredManifest :=
  manifests.filter fun manifest => holdAmong manifests inputs manifest = none

def candidatesOf (group : RetentionGroup) : List StoredManifest :=
  (candidates manifests inputs).filter fun manifest => retentionGroup manifest = group

/-- The groups in the order of the map that holds them. -/
def retentionGroups : List RetentionGroup :=
  sortBy id ((candidates manifests inputs).map retentionGroup).dedup

def sortedCandidates (group : RetentionGroup) : List StoredManifest :=
  sortBy candidateOrder (candidatesOf manifests inputs group)

def selectRuntimesToRemove : List String × List (String × HoldReason) :=
  let unconditional := manifests.filterMap fun manifest =>
    (holdAmong manifests inputs manifest).map fun reason => (manifest.runtimeKey, reason)
  let groups := retentionGroups manifests inputs
  let within := groups.flatMap fun group =>
    ((sortedCandidates manifests inputs group).take keep).map fun manifest =>
      (manifest.runtimeKey, HoldReason.withinKeepLimit)
  let removable := groups.flatMap fun group =>
    ((sortedCandidates manifests inputs group).drop keep).map fun manifest => manifest.runtimeKey
  (sortBy id removable, sortBy Prod.fst (unconditional ++ within))

/-- Those of its group that are newer. -/
def newerRivals (manifest : StoredManifest) : List StoredManifest :=
  (candidatesOf manifests inputs (retentionGroup manifest)).filter fun other =>
    candidateOrder other < candidateOrder manifest

/-- The policy decides about every install once, whatever the order they come in.
What something holds stays, and so do just the newest few of every group, by how
many of its own group are newer.  A key to remove names the install the policy
decided about. -/
structure RetentionPolicy : Prop where
  once : ((selectRuntimesToRemove manifests inputs keep).1 ++
    (selectRuntimesToRemove manifests inputs keep).2.map Prod.fst).Perm
      (manifests.map (·.runtimeKey))
  orderless : forall others : List StoredManifest, others.Perm manifests ->
    selectRuntimesToRemove others inputs keep = selectRuntimesToRemove manifests inputs keep
  unheld : forall manifest, manifest ∈ manifests -> forall reason,
    holdAmong manifests inputs manifest = some reason ->
      manifest.runtimeKey ∉ (selectRuntimesToRemove manifests inputs keep).1 ∧
        (manifest.runtimeKey, reason) ∈ (selectRuntimesToRemove manifests inputs keep).2
  newest : forall manifest, manifest ∈ candidates manifests inputs ->
    (manifest.runtimeKey ∈ (selectRuntimesToRemove manifests inputs keep).1 ↔
      keep ≤ (newerRivals manifests inputs manifest).length) ∧
    (manifest.runtimeKey ∉ (selectRuntimesToRemove manifests inputs keep).1 ->
      (manifest.runtimeKey, .withinKeepLimit) ∈ (selectRuntimesToRemove manifests inputs keep).2)
  counted : forall group, ((candidatesOf manifests inputs group).filter fun manifest =>
    manifest.runtimeKey ∉ (selectRuntimesToRemove manifests inputs keep).1).length =
      min keep (candidatesOf manifests inputs group).length
  shrinks : forall more, keep ≤ more ->
    (selectRuntimesToRemove manifests inputs more).1 ⊆
      (selectRuntimesToRemove manifests inputs keep).1
  selected : forall key, key ∈ (selectRuntimesToRemove manifests inputs keep).1 ->
    exists manifest, manifest ∈ candidates manifests inputs ∧ manifest.runtimeKey = key ∧
      (forall other, other ∈ manifests -> other.runtimeKey = key -> other = manifest) ∧
      selectRuntimeManifest (manifests.map (·.toInstalledRuntimeManifest)) key =
        .ok manifest.toInstalledRuntimeManifest

end Policy

/-! ## Candidates -/

section Candidates

variable {manifests : List StoredManifest} {inputs : RetentionInputs}

variable {manifest : StoredManifest}

theorem mem_candidatesOf {group : RetentionGroup} :
    manifest ∈ candidatesOf manifests inputs group ↔
      manifest ∈ candidates manifests inputs ∧ retentionGroup manifest = group := by
  rw [candidatesOf, List.mem_filter, decide_eq_true_eq]

theorem mem_candidates :
    manifest ∈ candidates manifests inputs ↔
      manifest ∈ manifests ∧ holdAmong manifests inputs manifest = none := by
  rw [candidates, List.mem_filter, decide_eq_true_eq]

theorem mem_retentionGroups {group : RetentionGroup} :
    group ∈ retentionGroups manifests inputs ↔
      exists manifest, manifest ∈ candidates manifests inputs ∧ retentionGroup manifest = group := by
  rw [retentionGroups, (sortBy_perm id _).mem_iff, List.mem_dedup, List.mem_map]

variable (distinct : (manifests.map (·.runtimeKey)).Nodup)

include distinct

theorem same_of_key {left right : StoredManifest} (isLeft : left ∈ manifests)
    (isRight : right ∈ manifests) (sameKey : left.runtimeKey = right.runtimeKey) : left = right :=
  List.inj_on_of_nodup_map distinct isLeft isRight sameKey

theorem candidatesOf_nodup (group : RetentionGroup) : (candidatesOf manifests inputs group).Nodup :=
  (((distinct.of_map _).filter _).filter _)

theorem candidateOrder_apart (group : RetentionGroup) (left right : StoredManifest)
    (isLeft : left ∈ candidatesOf manifests inputs group)
    (isRight : right ∈ candidatesOf manifests inputs group)
    (same : candidateOrder left = candidateOrder right) : left = right := by
  have sameKey : left.runtimeKey = right.runtimeKey := (Prod.mk.inj (toLex.injective same)).2
  exact same_of_key distinct (mem_candidates.mp (mem_candidatesOf.mp isLeft).1).1
    (mem_candidates.mp (mem_candidatesOf.mp isRight).1).1 sameKey

theorem mem_take_sorted (isCandidate : manifest ∈ candidates manifests inputs) (keep : Nat) :
    manifest ∈ (sortedCandidates manifests inputs (retentionGroup manifest)).take keep ↔
      (newerRivals manifests inputs manifest).length < keep :=
  mem_take_sortBy candidateOrder (mem_candidatesOf.mpr ⟨isCandidate, rfl⟩)
    (candidateOrder_apart distinct _) (candidatesOf_nodup distinct _) keep

/-- What of a group is not among the first is behind them. -/
theorem mem_drop_sorted (isCandidate : manifest ∈ candidates manifests inputs) (keep : Nat) :
    manifest ∈ (sortedCandidates manifests inputs (retentionGroup manifest)).drop keep ↔
      keep ≤ (newerRivals manifests inputs manifest).length := by
  rw [← Nat.not_lt, ← mem_take_sorted distinct isCandidate keep]
  have perm := sortBy_perm candidateOrder (candidatesOf manifests inputs (retentionGroup manifest))
  have divided := List.take_append_drop keep
    (sortedCandidates manifests inputs (retentionGroup manifest))
  have sorted : (sortedCandidates manifests inputs (retentionGroup manifest)).Nodup :=
    perm.nodup_iff.mpr (candidatesOf_nodup distinct _)
  constructor
  · intro behind front
    rw [← divided] at sorted
    exact (List.nodup_append.mp sorted).2.2 manifest front manifest behind rfl
  · intro notFront
    have inside : manifest ∈ sortedCandidates manifests inputs (retentionGroup manifest) :=
      perm.mem_iff.mpr (mem_candidatesOf.mpr ⟨isCandidate, rfl⟩)
    rw [← divided] at inside
    exact (List.mem_append.mp inside).resolve_left notFront

theorem mem_removable {key : String} {keep : Nat} :
    key ∈ (selectRuntimesToRemove manifests inputs keep).1 ↔
      exists manifest, manifest ∈ candidates manifests inputs ∧ manifest.runtimeKey = key ∧
        keep ≤ (newerRivals manifests inputs manifest).length := by
  rw [selectRuntimesToRemove, (sortBy_perm id _).mem_iff, List.mem_flatMap]
  constructor
  · rintro ⟨group, _, inGroup⟩
    rcases List.mem_map.mp inGroup with ⟨manifest, behind, isKey⟩
    have inside := (sortBy_perm candidateOrder _).mem_iff.mp (List.mem_of_mem_drop behind)
    rcases mem_candidatesOf.mp inside with ⟨isCandidate, rfl⟩
    exact ⟨manifest, isCandidate, isKey, (mem_drop_sorted distinct isCandidate keep).mp behind⟩
  · rintro ⟨manifest, isCandidate, isKey, old⟩
    exact ⟨retentionGroup manifest, mem_retentionGroups.mpr ⟨manifest, isCandidate, rfl⟩,
      List.mem_map.mpr ⟨manifest, (mem_drop_sorted distinct isCandidate keep).mpr old, isKey⟩⟩

/-- A candidate is removable exactly if enough of its group are newer. -/
theorem removable_iff (isCandidate : manifest ∈ candidates manifests inputs) (keep : Nat) :
    manifest.runtimeKey ∈ (selectRuntimesToRemove manifests inputs keep).1 ↔
      keep ≤ (newerRivals manifests inputs manifest).length := by
  rw [mem_removable distinct]
  constructor
  · rintro ⟨other, isOther, sameKey, old⟩
    have same := same_of_key distinct (mem_candidates.mp isOther).1 (mem_candidates.mp isCandidate).1
      sameKey
    exact same ▸ old
  · exact fun old => ⟨manifest, isCandidate, rfl, old⟩

end Candidates

/-! ## Holds -/

theorem resolvedDefaultRuntimeKey_perm {first second : List InstalledRuntimeManifest}
    (perm : first.Perm second) (inputs : RetentionInputs) :
    resolvedDefaultRuntimeKey first inputs = resolvedDefaultRuntimeKey second inputs := by
  unfold resolvedDefaultRuntimeKey
  cases inputs.defaultRuntimeId with
  | none => rfl
  | some defaultRuntimeId =>
    have named := perm.filter fun manifest => eqIgnoreAsciiCase manifest.runtimeId defaultRuntimeId
    dsimp only
    generalize first.filter _ = left at named
    generalize second.filter _ = right at named
    cases left with
    | nil => rw [named.symm.eq_nil]
    | cons only rest =>
      cases rest with
      | nil => rw [List.singleton_perm.mp named]
      | cons another rest =>
        have long := named.length_eq
        match right, long with
        | _ :: _ :: _, _ => rfl

variable {first second : List StoredManifest}

section

variable (perm : first.Perm second) (inputs : RetentionInputs)
include perm inputs

theorem holdAmong_perm : holdAmong first inputs = holdAmong second inputs := by
  funext manifest
  rw [holdAmong, holdAmong, resolvedDefaultRuntimeKey_perm (perm.map _)]

theorem candidates_of_perm : (candidates first inputs).Perm (candidates second inputs) := by
  unfold candidates
  rw [holdAmong_perm perm]
  exact perm.filter _

theorem retentionGroups_perm : retentionGroups first inputs = retentionGroups second inputs :=
  sortBy_congr id ((candidates_of_perm perm inputs).map retentionGroup).dedup
    fun _ _ _ _ same => same

end

/-! ## The whole policy -/

section Policy

variable {manifests : List StoredManifest} (inputs : RetentionInputs)

/-- The groups hold the candidates, each once. -/
theorem sortedCandidates_perm :
    ((retentionGroups manifests inputs).flatMap fun group =>
      sortedCandidates manifests inputs group).Perm (candidates manifests inputs) := by
  have groupsOnce : (retentionGroups manifests inputs).Nodup :=
    (sortBy_perm id _).nodup_iff.mpr (List.nodup_dedup _)
  refine (List.Perm.flatMap_left _ fun group _ => sortBy_perm candidateOrder _).trans ?_
  exact flatMap_all_groups retentionGroup groupsOnce fun manifest isCandidate =>
    mem_retentionGroups.mpr ⟨manifest, isCandidate, rfl⟩

theorem select_once (keep : Nat) : ((selectRuntimesToRemove manifests inputs keep).1 ++
    (selectRuntimesToRemove manifests inputs keep).2.map Prod.fst).Perm
      (manifests.map (·.runtimeKey)) := by
  let sorted := fun group => (sortedCandidates manifests inputs group).map (·.runtimeKey)
  have held : (manifests.filterMap fun manifest =>
      (holdAmong manifests inputs manifest).map fun reason => (manifest.runtimeKey, reason)).map
        Prod.fst = (manifests.filter fun manifest => !decide
          (holdAmong manifests inputs manifest = none)).map (·.runtimeKey) := by
    rw [List.map_filterMap, ← List.filterMap_eq_map, List.filterMap_filter]
    refine List.filterMap_congr fun manifest _ => ?_
    cases holdAmong manifests inputs manifest <;> rfl
  have parts : ((retentionGroups manifests inputs).flatMap (fun group =>
        ((sortedCandidates manifests inputs group).drop keep).map (·.runtimeKey)) ++
      ((retentionGroups manifests inputs).flatMap fun group =>
        ((sortedCandidates manifests inputs group).take keep).map fun manifest =>
          (manifest.runtimeKey, HoldReason.withinKeepLimit)).map Prod.fst).Perm
        ((candidates manifests inputs).map (·.runtimeKey)) := by
    have taken : ((retentionGroups manifests inputs).flatMap fun group =>
        ((sortedCandidates manifests inputs group).take keep).map fun manifest =>
          (manifest.runtimeKey, HoldReason.withinKeepLimit)).map Prod.fst =
        (retentionGroups manifests inputs).flatMap fun group =>
          ((sortedCandidates manifests inputs group).take keep).map (·.runtimeKey) := by
      rw [List.map_flatMap]
      refine List.flatMap_congr fun group _ => ?_
      rw [List.map_map]
      rfl
    rw [taken]
    refine (List.flatMap_append_perm _ _ _).trans ?_
    refine List.Perm.trans (List.Perm.flatMap_left _ fun group _ => ?_)
      (List.Perm.trans (List.Perm.of_eq (List.map_flatMap).symm)
        ((sortedCandidates_perm inputs).map (·.runtimeKey)))
    rw [← List.map_append]
    exact (List.perm_append_comm.trans (List.Perm.of_eq (List.take_append_drop _ _))).map _
  have divided := (List.filter_append_perm
    (fun manifest => decide (holdAmong manifests inputs manifest = none)) manifests).map
      (·.runtimeKey)
  rw [List.map_append] at divided
  refine ((sortBy_perm id _).append ((sortBy_perm Prod.fst _).map Prod.fst)).trans ?_
  rw [List.map_append, held]
  refine List.Perm.trans ?_ divided
  refine List.Perm.trans ?_ (parts.append_right _)
  rw [List.append_assoc]
  exact List.perm_append_comm.append_left _

variable (distinct : (manifests.map (·.runtimeKey)).Nodup)

include distinct

theorem select_orderless (keep : Nat) (others : List StoredManifest) (perm : others.Perm manifests) :
    selectRuntimesToRemove others inputs keep = selectRuntimesToRemove manifests inputs keep := by
  have sameSorted : sortedCandidates others inputs = sortedCandidates manifests inputs := by
    funext group
    refine (sortBy_congr candidateOrder ((candidates_of_perm perm.symm inputs).filter _) ?_).symm
    exact candidateOrder_apart distinct group
  have keysOnce := (select_once inputs keep).nodup_iff.mpr distinct
  have heldOnce := ((sortBy_perm Prod.fst _).map Prod.fst).nodup_iff.mp
    (List.nodup_append.mp keysOnce).2.1
  unfold selectRuntimesToRemove
  rw [sameSorted, retentionGroups_perm perm, holdAmong_perm perm]
  refine congrArg (Prod.mk _) (sortBy_congr Prod.fst ?_ ?_).symm
  · exact (perm.symm.filterMap _).append_right _
  · exact fun left right isLeft isRight same => List.inj_on_of_nodup_map heldOnce isLeft isRight same

theorem find_key {manifest : StoredManifest} (isManifest : manifest ∈ manifests) :
    (manifests.map (·.toInstalledRuntimeManifest)).find?
      (fun other => decide (other.runtimeKey = manifest.runtimeKey)) =
        some manifest.toInstalledRuntimeManifest := by
  cases found : (manifests.map (·.toInstalledRuntimeManifest)).find?
      (fun other => decide (other.runtimeKey = manifest.runtimeKey)) with
  | none =>
    have differs := List.find?_eq_none.mp found _ (List.mem_map_of_mem isManifest)
    exact absurd (decide_eq_true rfl) differs
  | some other =>
    rcases List.mem_map.mp (List.mem_of_find?_eq_some found) with ⟨stored, isStored, rfl⟩
    have sameKey : stored.runtimeKey = manifest.runtimeKey := by
      simpa using List.find?_some found
    rw [same_of_key distinct isStored isManifest sameKey]

theorem select_runtime_of_key {manifest : StoredManifest} (isManifest : manifest ∈ manifests)
    (trimmed : trim manifest.runtimeKey = manifest.runtimeKey) (nonempty : manifest.runtimeKey ≠ "") :
    selectRuntimeManifest (manifests.map (·.toInstalledRuntimeManifest)) manifest.runtimeKey =
      .ok manifest.toInstalledRuntimeManifest := by
  unfold selectRuntimeManifest
  dsimp only
  rw [trimmed, if_neg nonempty, find_key distinct isManifest]

theorem counted_of_group (keep : Nat) (group : RetentionGroup) :
    ((candidatesOf manifests inputs group).filter fun manifest =>
      manifest.runtimeKey ∉ (selectRuntimesToRemove manifests inputs keep).1).length =
        min keep (candidatesOf manifests inputs group).length := by
  have perm := sortBy_perm candidateOrder (candidatesOf manifests inputs group)
  have divided := List.take_append_drop keep (sortedCandidates manifests inputs group)
  have inGroup {manifest : StoredManifest}
      (isSorted : manifest ∈ sortedCandidates manifests inputs group) :
      manifest ∈ candidates manifests inputs ∧ retentionGroup manifest = group :=
    mem_candidatesOf.mp (perm.mem_iff.mp isSorted)
  rw [← (perm.filter _).length_eq]
  change ((sortedCandidates manifests inputs group).filter _).length = _
  have front : ((sortedCandidates manifests inputs group).take keep).filter (fun manifest =>
      decide (manifest.runtimeKey ∉ (selectRuntimesToRemove manifests inputs keep).1)) =
        (sortedCandidates manifests inputs group).take keep := by
    refine List.filter_eq_self.mpr fun manifest inFront => decide_eq_true ?_
    rcases inGroup (List.mem_of_mem_take inFront) with ⟨isCandidate, rfl⟩
    rw [removable_iff distinct isCandidate, Nat.not_le]
    exact (mem_take_sorted distinct isCandidate keep).mp inFront
  have behind : ((sortedCandidates manifests inputs group).drop keep).filter (fun manifest =>
      decide (manifest.runtimeKey ∉ (selectRuntimesToRemove manifests inputs keep).1)) = [] := by
    refine List.filter_eq_nil_iff.mpr fun manifest inBack => ?_
    rcases inGroup (List.mem_of_mem_drop inBack) with ⟨isCandidate, rfl⟩
    rw [decide_eq_true_eq, not_not, removable_iff distinct isCandidate]
    exact (mem_drop_sorted distinct isCandidate keep).mp inBack
  rw [← divided, List.filter_append, front, behind, List.append_nil, List.length_take]
  exact congrArg (min keep) perm.length_eq

theorem retention_policy (keep : Nat)
    (trimmed : forall manifest, manifest ∈ manifests -> trim manifest.runtimeKey = manifest.runtimeKey)
    (nonempty : forall manifest, manifest ∈ manifests -> manifest.runtimeKey ≠ "") :
    RetentionPolicy manifests inputs keep := by
  have keysOnce := (select_once inputs keep).nodup_iff.mpr distinct
  refine ⟨select_once inputs keep, select_orderless inputs distinct keep, ?_, ?_,
    counted_of_group inputs distinct keep, ?_, ?_⟩
  · intro manifest isManifest reason holds
    have held : (manifest.runtimeKey, reason) ∈ (selectRuntimesToRemove manifests inputs keep).2 := by
      refine (sortBy_perm Prod.fst _).mem_iff.mpr (List.mem_append_left _ ?_)
      exact List.mem_filterMap.mpr ⟨manifest, isManifest, by rw [holds, Option.map_some]⟩
    refine ⟨fun isRemovable => ?_, held⟩
    exact (List.nodup_append.mp keysOnce).2.2 _ isRemovable _ (List.mem_map_of_mem held) rfl
  · intro manifest isCandidate
    refine ⟨removable_iff distinct isCandidate keep, fun stays => ?_⟩
    rw [removable_iff distinct isCandidate, Nat.not_le] at stays
    refine (sortBy_perm Prod.fst _).mem_iff.mpr (List.mem_append_right _ ?_)
    exact List.mem_flatMap.mpr ⟨retentionGroup manifest,
      mem_retentionGroups.mpr ⟨manifest, isCandidate, rfl⟩,
      List.mem_map.mpr ⟨manifest, (mem_take_sorted distinct isCandidate keep).mpr stays, rfl⟩⟩
  · intro more above key isRemovable
    rcases (mem_removable distinct).mp isRemovable with ⟨manifest, isCandidate, isKey, old⟩
    exact (mem_removable distinct).mpr ⟨manifest, isCandidate, isKey, above.trans old⟩
  · intro key isRemovable
    rcases (mem_removable distinct).mp isRemovable with ⟨manifest, isCandidate, rfl, _⟩
    have isManifest := (mem_candidates.mp isCandidate).1
    exact ⟨manifest, isCandidate, rfl,
      fun other isOther sameKey => same_of_key distinct isOther isManifest sameKey,
      select_runtime_of_key distinct isManifest (trimmed _ isManifest) (nonempty _ isManifest)⟩

end Policy

/-! ## Three installs of one group -/

def installed (runtimeKey : String) (installedAtUnixMs : Nat) : StoredManifest where
  runtimeKey := runtimeKey
  runtimeId := "therock-release:gfx110X"
  format := "wheel"
  installRoot := "/r/" ++ runtimeKey
  pythonExecutable := none
  rocmSdk := none
  readOnly := false
  importedFrom := none
  installedAtUnixMs := installedAtUnixMs
  channel := "release"
  family := "gfx110X"
  wheelComposition := none
  devel := true

def installs : List StoredManifest := [installed "abc" 1, installed "ABC" 2, installed "new" 3]

theorem retention_policy_holds : RetentionPolicy installs ⟨some "new", none, none, []⟩ 1 :=
  retention_policy _ (by decide) 1 (by decide) (by decide)

/-- An install without a key is removable, but its key selects nothing. -/
theorem empty_key_selects_nothing : trim (installed "" 1).runtimeKey = (installed "" 1).runtimeKey ∧
    ¬ RetentionPolicy [installed "" 1] ⟨none, none, none, []⟩ 0 := by
  refine ⟨by decide, fun policy => ?_⟩
  rcases policy.selected "" (by decide) with ⟨manifest, _, _, _, selected⟩
  have refused : selectRuntimeManifest
      ([installed "" 1].map (·.toInstalledRuntimeManifest)) "" =
        bail "runtime selector must not be empty" := by decide
  rw [refused] at selected
  cases selected

end Runtimes
end RocmCli
