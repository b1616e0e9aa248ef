import RocmCli.Support.BestFirst
import RocmCli.Therock.VersionOrder
import RocmCli.ToolPolicy.Values

namespace RocmCli
namespace Therock

open Text BestFirst
open ToolPolicy (RuntimeVersionSelector daysInMonth dateNumber padded)

/-!
# The newest stack that fits together

A wheel install needs a ROCm build and PyTorch packages built for it.  The
search takes the newest build that has a complete stack, and for it the newest
packages.
-/

/-! ## The strict parser -/

/-- What the strict grammar yields.  The patch and the number of the stage are
read and dropped. -/
structure ParsedVersion where
  major : Nat
  minor : Nat
  stage : VersionStage
  deriving DecidableEq, Repr

def maxU32 : Nat := 2 ^ 32 - 1

def parseU32 (digits : List Char) : Option Nat :=
  (parseU64 (String.ofList digits)).filter (· ≤ maxU32)

/-- The text in front of the first dot and the text behind it. -/
def splitDot (value : List Char) : Option (List Char × List Char) :=
  match value.dropWhile (· != '.') with
  | [] => none
  | _ :: behind => some (value.takeWhile (· != '.'), behind)

def parseStrictStage (suffix : List Char) : Option VersionStage :=
  if suffix.isEmpty then some .stable
  else
    match stripStart ['r', 'c'] suffix with
    | some number => (parseU64 (String.ofList number)).map fun _ => .rc
    | none =>
      match stripStart ['a'] suffix with
      | some number => (parseU64 (String.ofList number)).map fun _ => .alpha
      | none => none

def parseVersion (value : String) : Option ParsedVersion := do
  let value := value.toList.takeWhile (· != '+')
  let (major, rest) ← splitDot value
  let major ← parseU32 major
  let (minor, patchAndRest) ← splitDot rest
  let minor ← parseU32 minor
  let _ ← parseU32 (patchAndRest.takeWhile Char.isDigit)
  let stage ← parseStrictStage (patchAndRest.dropWhile Char.isDigit)
  some { major, minor, stage }

def parsePackageBaseVersion (version : String) : Option ParsedVersion :=
  parseVersion (String.ofList (version.toList.takeWhile (· != '+')))

/-! ## Candidates -/

def isStableRuntimeVersion (version : String) : Bool :=
  (parseVersion version).any fun parsed => parsed.stage == .stable

/-- The date that eight digits are, if they are one. -/
def buildDateOf (window : List Char) : Option String :=
  if window.length = 8 ∧ window.all Char.isDigit then
    let year := dateNumber window 0 4
    let month := dateNumber window 4 6
    let day := dateNumber window 6 8
    if !(2000 ≤ year && year ≤ 2099) || month == 0 || 12 < month then none
    else if day == 0 || daysInMonth year month < day then none
    else some (padded 4 year ++ "-" ++ padded 2 month ++ "-" ++ padded 2 day)
  else none

/-- The first date among the windows of eight characters. -/
def runtimeVersionBuildDate (version : String) : Option String :=
  version.toList.tails.findSome? fun rest => buildDateOf (rest.take 8)

def matchesVersion (selector : RuntimeVersionSelector) (version : String) : Bool :=
  match selector with
  | .version requested => version == requested
  | .buildDate date => runtimeVersionBuildDate version == some date

inductive TheRockChannel where
  | release
  | nightly
  deriving DecidableEq, Repr

def channelRocmCandidates (versions : List String) (channel : TheRockChannel) : List String :=
  let all := versions.mergeSort versionLE
  match channel with
  | .release => all.filter isStableRuntimeVersion
  | .nightly => all

/-- Put a plus for every `%2` that this letter follows. -/
def replaceEscape (letter : Char) : List Char -> List Char
  | [] => []
  | '%' :: '2' :: c :: rest =>
      if c = letter then '+' :: replaceEscape letter rest
      else '%' :: replaceEscape letter ('2' :: c :: rest)
  | c :: rest => c :: replaceEscape letter rest

def decodeSimpleIndexVersion (version : String) : List Char :=
  replaceEscape 'b' (replaceEscape 'B' version.toList)

/-- What is behind the last place where the text has the marker, in any case. -/
def behindLast (marker : List Char) : List Char -> Option (List Char)
  | [] => none
  | c :: rest =>
      match behindLast marker rest with
      | some behind => some behind
      | none => stripStart marker ((c :: rest).map Char.toLower) |>.map fun _ =>
          (c :: rest).drop marker.length

def packageRocmSuffix (version : String) : Option String :=
  (behindLast "+rocm".toList (decodeSimpleIndexVersion version)).map String.ofList

def packageVersionsMatchingRocm (versions : List String) (rocmVersion : String) : List String :=
  versions.filter fun version => packageRocmSuffix version == some rocmVersion

/-! ## The stack -/

def pytorchAudioMatchesTorch (torchBase audioBase : ParsedVersion) : Bool :=
  audioBase.major == torchBase.major && audioBase.minor == torchBase.minor &&
    audioBase.stage == torchBase.stage

/-- The minor version is fifteen above, if it is one. -/
def pytorchVisionMatchesTorch (torchBase visionBase : ParsedVersion) : Bool :=
  torchBase.minor + 15 ≤ maxU32 && visionBase.major == 0 &&
    visionBase.minor == torchBase.minor + 15 && visionBase.stage == torchBase.stage

def selectLatestStackPackage (versions : List String) (rocmVersion : String)
    (matchesStack : ParsedVersion -> Bool) : Option String :=
  let candidates := (packageVersionsMatchingRocm versions rocmVersion).filter fun version =>
    (parsePackageBaseVersion version).any matchesStack
  (candidates.mergeSort versionLE).getLast?

structure TheRockPipPackageVersions where
  rocm : String
  torch : String
  torchvision : String
  torchaudio : String
  compatibilityKey : String
  deriving DecidableEq, Repr

/-- The lists of versions that are published. -/
structure PublishedVersions where
  rocm : List String
  torch : List String
  torchvision : List String
  torchaudio : List String

section Select

variable (channel : TheRockChannel) (published : PublishedVersions)
  (selector : Option RuntimeVersionSelector)

def rocmCandidates : List String :=
  match selector with
  | some selector => published.rocm.filter (matchesVersion selector)
  | none => channelRocmCandidates published.rocm channel

/-- The packages for one version of torch. -/
def stackOf (rocmVersion torchVersion : String) : Option TheRockPipPackageVersions :=
  match parsePackageBaseVersion torchVersion with
  | none => none
  | some torchBase =>
      let torchaudio := selectLatestStackPackage published.torchaudio rocmVersion
        (pytorchAudioMatchesTorch torchBase)
      let torchvision := selectLatestStackPackage published.torchvision rocmVersion
        (pytorchVisionMatchesTorch torchBase)
      match torchaudio, torchvision with
      | some torchaudio, some torchvision => some
          { compatibilityKey := rocmVersion, rocm := rocmVersion, torch := torchVersion
            torchvision, torchaudio }
      | _, _ => none

def selectMatchingPipPackageVersions : Option TheRockPipPackageVersions :=
  (descending compareVersionStrings (rocmCandidates channel published selector)).findSome?
    fun rocmVersion =>
      (descending compareVersionStrings
        (packageVersionsMatchingRocm published.torch rocmVersion)).findSome?
          (stackOf published rocmVersion)

/-! ## Compatible stacks -/

/-- A ROCm version that may be chosen. -/
def IsCandidate (rocm : String) : Prop :=
  rocm ∈ published.rocm ∧
    match selector with
    | some selector => matchesVersion selector rocm = true
    | none => channel = .release -> isStableRuntimeVersion rocm = true

/-- A published package that carries the ROCm version and whose base fits. -/
def IsPackage (versions : List String) (rocm : String) (fits : ParsedVersion -> Bool)
    (version : String) : Prop :=
  version ∈ versions ∧ packageRocmSuffix version = some rocm ∧
    exists base, parsePackageBaseVersion version = some base ∧ fits base = true

structure Compatible (stack : TheRockPipPackageVersions) : Prop where
  rocm : IsCandidate channel published selector stack.rocm
  torch : stack.torch ∈ published.torch ∧ packageRocmSuffix stack.torch = some stack.rocm
  packages : exists torchBase, parsePackageBaseVersion stack.torch = some torchBase ∧
    IsPackage published.torchvision stack.rocm (pytorchVisionMatchesTorch torchBase)
      stack.torchvision ∧
    IsPackage published.torchaudio stack.rocm (pytorchAudioMatchesTorch torchBase) stack.torchaudio
  key : stack.compatibilityKey = stack.rocm

end Select

/-- By ROCm, then torch, then torchvision, then torchaudio. -/
def compareStacks (left right : TheRockPipPackageVersions) : Ordering :=
  (compareVersionStrings left.rocm right.rocm).then
    ((compareVersionStrings left.torch right.torch).then
      ((compareVersionStrings left.torchvision right.torchvision).then
        (compareVersionStrings left.torchaudio right.torchaudio)))

/-- Lists that hold the same versions, in any order and any number of times. -/
structure SameVersions (left right : PublishedVersions) : Prop where
  rocm : forall version, version ∈ left.rocm ↔ version ∈ right.rocm
  torch : forall version, version ∈ left.torch ↔ version ∈ right.torch
  torchvision : forall version, version ∈ left.torchvision ↔ version ∈ right.torchvision
  torchaudio : forall version, version ∈ left.torchaudio ↔ version ∈ right.torchaudio

structure SelectsGreatest (channel : TheRockChannel) (published : PublishedVersions)
    (selector : Option RuntimeVersionSelector) : Prop where
  none : selectMatchingPipPackageVersions channel published selector = none ↔
    forall stack, ¬ Compatible channel published selector stack
  some : forall stack, selectMatchingPipPackageVersions channel published selector = some stack ↔
    Compatible channel published selector stack ∧
      forall other, Compatible channel published selector other ->
        (compareStacks other stack).isLE = true
  members : forall others, SameVersions published others ->
    selectMatchingPipPackageVersions channel others selector =
      selectMatchingPipPackageVersions channel published selector

/-! ## What the search finds -/

section Search

variable {channel : TheRockChannel} {published : PublishedVersions}
  {selector : Option RuntimeVersionSelector}

variable {rocm : String}

theorem mem_rocmCandidates :
    rocm ∈ rocmCandidates channel published selector ↔ IsCandidate channel published selector rocm := by
  cases selector with
  | some selector => exact List.mem_filter
  | none =>
    cases channel with
    | release =>
      refine List.mem_filter.trans ?_
      rw [List.mem_mergeSort]
      exact and_congr_right fun _ => ⟨fun stable _ => stable, fun stable => stable rfl⟩
    | nightly =>
      refine List.mem_mergeSort.trans ?_
      exact ⟨fun member => ⟨member, nofun⟩, And.left⟩

variable {versions : List String}

theorem mem_packageVersions {version : String} :
    version ∈ packageVersionsMatchingRocm versions rocm ↔
      version ∈ versions ∧ packageRocmSuffix version = some rocm := by
  rw [packageVersionsMatchingRocm, List.mem_filter, beq_iff_eq]

variable {fits : ParsedVersion -> Bool}

theorem mem_stackPackages {version : String} :
    version ∈ ((packageVersionsMatchingRocm versions rocm).filter fun version =>
      (parsePackageBaseVersion version).any fits) ↔ IsPackage versions rocm fits version := by
  rw [List.mem_filter, mem_packageVersions, Option.any_eq_true, and_assoc]
  rfl

/-- The latest package is the greatest that fits. -/
theorem selectLatest_some {version : String}
    (selected : selectLatestStackPackage versions rocm fits = some version) :
    IsPackage versions rocm fits version ∧ forall other, IsPackage versions rocm fits other ->
      (compareVersionStrings other version).isLE = true := by
  rcases greatest_of_getLast selected with ⟨member, greatest⟩
  exact ⟨mem_stackPackages.mp member,
    fun other isPackage => greatest other (mem_stackPackages.mpr isPackage)⟩

theorem selectLatest_none (selected : selectLatestStackPackage versions rocm fits = none)
    (version : String) :
    ¬ IsPackage versions rocm fits version := by
  intro isPackage
  have member := mem_stackPackages.mpr isPackage
  rw [getLast_eq_none selected] at member
  exact absurd member List.not_mem_nil

/-- A stack of a ROCm and a torch version, its candidate and its key apart. -/
structure IsStack (published : PublishedVersions) (rocm torch : String)
    (stack : TheRockPipPackageVersions) : Prop where
  sameRocm : stack.rocm = rocm
  sameTorch : stack.torch = torch
  key : stack.compatibilityKey = rocm
  packages : exists torchBase, parsePackageBaseVersion torch = some torchBase ∧
    IsPackage published.torchvision rocm (pytorchVisionMatchesTorch torchBase) stack.torchvision ∧
    IsPackage published.torchaudio rocm (pytorchAudioMatchesTorch torchBase) stack.torchaudio

variable {stack : TheRockPipPackageVersions}

theorem stackOf_some {torch : String} (found : stackOf published rocm torch = some stack) :
    IsStack published rocm torch stack ∧ forall other, IsStack published rocm torch other ->
      (compareVersionStrings other.torchvision stack.torchvision).isLE = true ∧
        (compareVersionStrings other.torchaudio stack.torchaudio).isLE = true := by
  unfold stackOf at found
  cases parsed : parsePackageBaseVersion torch with
  | none =>
    rw [parsed] at found
    cases found
  | some torchBase =>
    rw [parsed] at found
    dsimp only at found
    cases audio : selectLatestStackPackage published.torchaudio rocm
        (pytorchAudioMatchesTorch torchBase) with
    | none =>
      rw [audio] at found
      cases found
    | some torchaudio =>
      cases vision : selectLatestStackPackage published.torchvision rocm
          (pytorchVisionMatchesTorch torchBase) with
      | none =>
        rw [audio, vision] at found
        cases found
      | some torchvision =>
        rw [audio, vision] at found
        cases found
        rcases selectLatest_some audio with ⟨isAudio, latestAudio⟩
        rcases selectLatest_some vision with ⟨isVision, latestVision⟩
        refine ⟨⟨rfl, rfl, rfl, torchBase, parsed, isVision, isAudio⟩, fun other isStack => ?_⟩
        rcases isStack.packages with ⟨base, isBase, otherVision, otherAudio⟩
        cases parsed.symm.trans isBase
        exact ⟨latestVision _ otherVision, latestAudio _ otherAudio⟩

theorem stackOf_none {torch : String} (found : stackOf published rocm torch = none)
    (stack : TheRockPipPackageVersions) : ¬ IsStack published rocm torch stack := by
  intro isStack
  rcases isStack.packages with ⟨torchBase, parsed, isVision, isAudio⟩
  unfold stackOf at found
  rw [parsed] at found
  dsimp only at found
  cases audio : selectLatestStackPackage published.torchaudio rocm
      (pytorchAudioMatchesTorch torchBase) with
  | none => exact selectLatest_none audio _ isAudio
  | some torchaudio =>
    cases vision : selectLatestStackPackage published.torchvision rocm
        (pytorchVisionMatchesTorch torchBase) with
    | none => exact selectLatest_none vision _ isVision
    | some torchvision =>
      rw [audio, vision] at found
      cases found

theorem Compatible.isStack (compatible : Compatible channel published selector stack) :
    IsStack published stack.rocm stack.torch stack :=
  ⟨rfl, rfl, compatible.key, compatible.packages⟩

theorem isLE_then {first second : Ordering} (below : first.isLE = true)
    (tie : first = .eq -> second.isLE = true) : (first.then second).isLE = true := by
  cases first with
  | lt => rfl
  | eq => exact tie rfl
  | gt => cases below

/-- What is selected is compatible, and greatest. -/
theorem select_some
    (selected : selectMatchingPipPackageVersions channel published selector = some stack) :
    Compatible channel published selector stack ∧
      forall other, Compatible channel published selector other ->
        (compareStacks other stack).isLE = true := by
  rcases findSome_descending selected with ⟨rocm, isRocm, found, greatestRocm⟩
  rcases findSome_descending found with ⟨torch, isTorch, isFound, greatestTorch⟩
  rcases stackOf_some isFound with ⟨isStack, greatest⟩
  rcases isStack with ⟨rfl, rfl, key, packages⟩
  have compatible : Compatible channel published selector stack :=
    ⟨mem_rocmCandidates.mp isRocm, mem_packageVersions.mp isTorch, packages, key⟩
  refine ⟨compatible, fun other isCompatible => ?_⟩
  have isTorch' := mem_packageVersions.mpr isCompatible.torch
  have finds : stackOf published other.rocm other.torch ≠ none :=
    fun none => stackOf_none none other isCompatible.isStack
  refine isLE_then (greatestRocm _ (mem_rocmCandidates.mpr isCompatible.rocm) fun none => ?_)
    fun sameRocm => ?_
  · exact finds (findSome_descending_none.mp none _ isTorch')
  have rocm := Std.LawfulEqCmp.eq_of_compare sameRocm
  rw [rocm] at isTorch' finds
  refine isLE_then (greatestTorch _ isTorch' finds) fun sameTorch => ?_
  have torch := Std.LawfulEqCmp.eq_of_compare sameTorch
  have stackOther := isCompatible.isStack
  rw [rocm, torch] at stackOther
  rcases greatest other stackOther with ⟨vision, audio⟩
  exact isLE_then vision fun _ => audio

theorem select_none (selected : selectMatchingPipPackageVersions channel published selector = none)
    (stack : TheRockPipPackageVersions) : ¬ Compatible channel published selector stack := by
  intro compatible
  have found := findSome_descending_none.mp selected _ (mem_rocmCandidates.mpr compatible.rocm)
  exact stackOf_none (findSome_descending_none.mp found _ (mem_packageVersions.mpr compatible.torch))
    stack compatible.isStack

/-- Only equal stacks compare as equal. -/
theorem eq_of_compareStacks {left right : TheRockPipPackageVersions}
    (isLeft : Compatible channel published selector left)
    (isRight : Compatible channel published selector right)
    (below : (compareStacks left right).isLE = true)
    (above : (compareStacks right left).isLE = true) : left = right := by
  have swapped : compareStacks right left = (compareStacks left right).swap := by
    unfold compareStacks
    rw [Ordering.swap_then, Ordering.swap_then, Ordering.swap_then, ← Std.OrientedCmp.eq_swap,
      ← Std.OrientedCmp.eq_swap, ← Std.OrientedCmp.eq_swap, ← Std.OrientedCmp.eq_swap]
  have equal : compareStacks left right = .eq := by
    rw [swapped] at above
    cases compared : compareStacks left right with
    | eq => rfl
    | lt =>
      rw [compared] at above
      cases above
    | gt =>
      rw [compared] at below
      cases below
  unfold compareStacks at equal
  rw [Ordering.then_eq_eq, Ordering.then_eq_eq, Ordering.then_eq_eq] at equal
  have rocm := Std.LawfulEqCmp.eq_of_compare equal.1
  have key : left.compatibilityKey = right.compatibilityKey := by
    rw [isLeft.key, isRight.key, rocm]
  have torch := Std.LawfulEqCmp.eq_of_compare equal.2.1
  have torchvision := Std.LawfulEqCmp.eq_of_compare equal.2.2.1
  have torchaudio := Std.LawfulEqCmp.eq_of_compare equal.2.2.2
  cases left
  cases right
  cases rocm
  cases torch
  cases torchvision
  cases torchaudio
  cases key
  rfl

theorem select_some_iff (stack : TheRockPipPackageVersions) :
    selectMatchingPipPackageVersions channel published selector = some stack ↔
      Compatible channel published selector stack ∧
        forall other, Compatible channel published selector other ->
          (compareStacks other stack).isLE = true := by
  refine ⟨select_some, fun ⟨compatible, greatest⟩ => ?_⟩
  cases selected : selectMatchingPipPackageVersions channel published selector with
  | none => exact absurd compatible (select_none selected stack)
  | some best =>
    rcases select_some selected with ⟨isBest, above⟩
    rw [eq_of_compareStacks isBest compatible (greatest best isBest) (above stack compatible)]

theorem Compatible.of_same {others : PublishedVersions} (same : SameVersions published others)
    (compatible : Compatible channel published selector stack) :
    Compatible channel others selector stack := by
  rcases compatible with ⟨⟨isRocm, chosen⟩, ⟨isTorch, suffix⟩, ⟨base, parsed, ⟨vision, fits⟩,
    audio, fits'⟩, key⟩
  exact ⟨⟨(same.rocm _).mp isRocm, chosen⟩, ⟨(same.torch _).mp isTorch, suffix⟩,
    ⟨base, parsed, ⟨(same.torchvision _).mp vision, fits⟩, (same.torchaudio _).mp audio, fits'⟩, key⟩

theorem SameVersions.symm {others : PublishedVersions} (same : SameVersions published others) :
    SameVersions others published :=
  ⟨fun version => (same.rocm version).symm, fun version => (same.torch version).symm,
    fun version => (same.torchvision version).symm, fun version => (same.torchaudio version).symm⟩

/-- The search finds a stack if there is one, the greatest, whatever the order of
the lists. -/
theorem selects_greatest (channel : TheRockChannel) (published : PublishedVersions)
    (selector : Option RuntimeVersionSelector) : SelectsGreatest channel published selector where
  none := by
    constructor
    · exact select_none
    · intro never
      cases selected : selectMatchingPipPackageVersions channel published selector with
      | none => rfl
      | some stack => exact absurd (select_some selected).1 (never stack)
  some := select_some_iff
  members := by
    intro others same
    have transfer (stack : TheRockPipPackageVersions) :
        Compatible channel others selector stack ↔ Compatible channel published selector stack :=
      ⟨Compatible.of_same same.symm, Compatible.of_same same⟩
    refine Option.ext fun stack => ?_
    rw [select_some_iff, select_some_iff]
    simp only [transfer]

end Search

end Therock
end RocmCli
