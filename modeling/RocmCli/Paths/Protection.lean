import RocmCli.Paths.Containment

namespace RocmCli
namespace Paths

/-!
# Protected install roots

The guard is exact about places: a path in a protected root is refused however
it is written, unless it lies strictly inside the home folder.
-/

/-- A text names a place that the comparison does not change: on Windows the
reduction would trim a component that ends in white space. -/
def Denotes (platform : RuntimePlatform) (text : PathText) (place : Place) : Prop :=
  Names platform text place ∧ (platform.isWindows = true -> place.Clean)

/-! ## Normalizing twice -/

theorem isWhitespace_slashed (character : Char) :
    Text.isWhitespace (if character = '\\' then '/' else character) =
      Text.isWhitespace character := by
  by_cases backslash : character = '\\'
  · rw [if_pos backslash, backslash]
    rfl
  · rw [if_neg backslash]

theorem toSlashes_trim (text : PathText) : toSlashes (trim text) = trim (toSlashes text) := by
  have same : Text.isWhitespace ∘ (fun character => if character = '\\' then '/' else character) =
      Text.isWhitespace := by
    funext character
    exact isWhitespace_slashed character
  unfold toSlashes trim List.rdropWhile
  rw [List.dropWhile_map, same, ← List.map_reverse, List.dropWhile_map, same, List.map_reverse]

/-- The ends of a trimmed text are not white space. -/
theorem last_of_trim {text : PathText} {last : Char} (isLast : (trim text).getLast? = some last) :
    Text.isWhitespace last = false := by
  have nonempty : trim text ≠ [] := by
    intro empty
    rw [empty] at isLast
    exact absurd isLast (by simp)
  have kept := List.rdropWhile_last_not _ _ nonempty
  rw [List.getLast?_eq_some_getLast nonempty, Option.some.injEq] at isLast
  rw [← isLast]
  exact Bool.eq_false_iff.mpr kept

section Protection

variable {platform : RuntimePlatform} {separator : PathSeparator}

theorem trim_drive {text rest : PathText} {front : PathText} {letter : Char}
    (alphabetic : letter.isAlpha = true) (written : toSlashes (trim text) = front ++ rest) :
    trim (letter :: ':' :: '/' :: trimStartSlashes rest) =
      letter :: ':' :: '/' :: trimStartSlashes rest := by
  apply trim_of_ends (isWhitespace_of_isAlpha alphabetic)
  intro last isLast
  by_cases empty : trimStartSlashes rest = []
  · rw [empty] at isLast
    have same : '/' = last := by simpa using isLast
    rw [← same]
    decide
  · have split : rest.takeWhile isSlash ++ trimStartSlashes rest = rest :=
      List.takeWhile_append_dropWhile
    have ends : (toSlashes (trim text)).getLast? = some last := by
      have below : (trimStartSlashes rest).getLast? = some last := by
        rwa [List.getLast?_cons_of_ne_nil (List.cons_ne_nil _ _),
          List.getLast?_cons_of_ne_nil (List.cons_ne_nil _ _),
          List.getLast?_cons_of_ne_nil empty] at isLast
      rw [written, ← split, ← List.append_assoc, List.getLast?_append_of_ne_nil _ empty]
      exact below
    rw [toSlashes_trim] at ends
    exact last_of_trim ends

/-- Normalization does not change which place a text names. -/
theorem names_normalize {text : PathText} {place : Place} (names : Names platform text place) :
    Names platform (normalizeRuntimePathTextForPlatform platform separator text) place := by
  unfold Names NamesVerbatim normalizeRuntimePathTextForPlatform at *
  by_cases windows : platform.isWindows = true
  · rw [if_pos windows, if_pos windows] at names
    rw [if_pos windows, if_pos windows, if_pos windows, toSlashes_trim]
    generalize written : toSlashes (trim text) = forward at names
    have driveCase : forall (front rest : PathText) (letter : Char), letter.isAlpha = true ->
        forward = front ++ rest ->
        Spells true (trim (letter.toUpper :: ':' :: '/' :: trimStartSlashes rest))
          ⟨.drive letter.toUpper, walk rest⟩ := by
      intro front rest letter alphabetic whole
      have upper := upper_of_isAlpha alphabetic
      rw [trim_drive upper.1 (written.trans whole)]
      have spelled := Spells.drive letter.toUpper ('/' :: trimStartSlashes rest) upper.1 (Or.inr rfl)
      rwa [upper.2, walk_cons_slash, walk_trimStartSlashes] at spelled
    cases names with
    | drive letter rest alphabetic continues =>
        rw [normalize_of_drive alphabetic continues (Or.inl written)]
        exact driveCase [letter, ':'] rest letter alphabetic rfl
    | shellDrive letter rest alphabetic continues =>
        rw [normalize_of_drive alphabetic continues (Or.inr written)]
        exact driveCase ['/', letter] rest letter alphabetic rfl
    | share server name rest serverNamed shareNamed serverFree shareFree continues =>
        rw [normalize_of_share written]
        have trimmed : trim ('/' :: '/' :: (server ++ '/' :: name ++ rest)) =
            '/' :: '/' :: (server ++ '/' :: name ++ rest) := by
          apply trim_of_ends (by decide)
          intro last isLast
          rw [← written, toSlashes_trim] at isLast
          exact last_of_trim isLast
        rw [trimmed]
        exact Spells.share server name rest serverNamed shareNamed serverFree shareFree continues
  · rw [if_neg windows, if_neg windows] at names
    rw [if_neg windows, if_neg windows, if_neg windows]
    exact names

theorem Denotes.normalize {text : PathText} {place : Place} (denotes : Denotes platform text place) :
    Denotes platform (normalizeRuntimePathTextForPlatform platform separator text) place :=
  ⟨names_normalize denotes.1, denotes.2⟩

/-! ## The protected places -/

def windowsSystemNames : List PathText :=
  ["Windows".toList, "Program Files".toList, "Program Files (x86)".toList]

def unixSystemNames : List PathText :=
  ["bin".toList, "boot".toList, "dev".toList, "etc".toList, "lib".toList, "lib64".toList,
    "opt".toList, "proc".toList, "root".toList, "sbin".toList, "sys".toList, "usr".toList,
    "var".toList]

/-- The places that no install root may lie in. -/
def systemPlaces (platform : RuntimePlatform) : List Place :=
  if platform.isWindows then windowsSystemNames.map fun name => ⟨.drive 'C', [name]⟩
  else unixSystemNames.map fun name => ⟨.root, [name]⟩

/-- The place lies in a protected one; the root itself is protected too. -/
def InProtectedPlace (platform : RuntimePlatform) (place : Place) : Prop :=
  (platform.isWindows = false ∧ place = ⟨.root, []⟩) ∨
    exists base, base ∈ systemPlaces platform ∧ SameOrInside platform place base

def StrictlyInside (platform : RuntimePlatform) (path base : Place) : Prop :=
  SameOrInside platform path base ∧ ¬ SamePlace platform path base

theorem windowsSystemRoots_eq (windows : platform.isWindows = true) :
    windowsSystemRoots = (systemPlaces platform).map Place.render := by
  unfold systemPlaces
  rw [if_pos windows]
  decide

theorem unixSystemRoots_eq (posix : platform.isWindows = false) :
    unixSystemRoots = (systemPlaces platform).map Place.render := by
  unfold systemPlaces
  rw [posix]
  decide

/-- The roots are written as the places they name. -/
theorem denotes_systemPlace {base : Place} (member : base ∈ systemPlaces platform) :
    Denotes platform base.render base := by
  have plainNames : forall name, name ∈ windowsSystemNames ++ unixSystemNames ->
      (('/' ∉ name ∧ '\\' ∉ name) ∧ name ≠ [] ∧ name ≠ dot ∧ name ≠ dotDot) ∧
        name.getLast?.all (fun last => !Text.isWhitespace last) = true := by decide
  have tidyName : forall windows (anchor : Anchor) name, anchor.WellFormed windows ->
      name ∈ windowsSystemNames ++ unixSystemNames ->
      Place.WellFormed windows ⟨anchor, [name]⟩ ∧ Place.Clean ⟨anchor, [name]⟩ := by
    intro windows anchor name formed listed
    rcases plainNames name listed with ⟨⟨⟨slash, backslash⟩, nonempty, notDot, notDotDot⟩, clean⟩
    refine ⟨⟨formed, ?_⟩, ?_⟩
    · intro part inside
      rw [List.mem_singleton.mp inside]
      exact ⟨⟨slash, fun _ => backslash⟩, nonempty, notDot, notDotDot⟩
    · intro part isLast character isEnd
      have same : name = part := by simpa using isLast
      rw [← same] at isEnd
      rw [isEnd] at clean
      simpa using clean
  have tidy : Place.WellFormed platform.isWindows base ∧ base.Clean := by
    unfold systemPlaces at member
    by_cases windows : platform.isWindows = true
    · rw [if_pos windows] at member
      rcases List.mem_map.mp member with ⟨name, listed, same⟩
      rw [windows, ← same]
      exact tidyName true (.drive 'C') name ⟨by decide, by decide⟩ (List.mem_append_left _ listed)
    · rw [if_neg windows] at member
      rcases List.mem_map.mp member with ⟨name, listed, same⟩
      rw [Bool.eq_false_iff.mpr windows, ← same]
      exact tidyName false .root name trivial (List.mem_append_right _ listed)
  exact ⟨names_render tidy.1 (fun _ => tidy.2), fun _ => tidy.2⟩

variable {pathText : PathText} {path : Place}

theorem isSameOrInside_iff {baseText : PathText} {base : Place}
    (pathDenotes : Denotes platform pathText path) (baseDenotes : Denotes platform baseText base) :
    runtimePathIsSameOrInsideOn platform separator pathText baseText = true ↔
      SameOrInside platform path base :=
  runtimePathIsSameOrInsideOn_iff pathDenotes.1 baseDenotes.1 pathDenotes.2 baseDenotes.2

theorem any_systemRoots_iff (denotes : Denotes platform pathText path) :
    ((systemPlaces platform).map Place.render).any
        (runtimePathIsSameOrInsideOn platform separator pathText) = true ↔
      exists base, base ∈ systemPlaces platform ∧ SameOrInside platform path base := by
  rw [List.any_map, List.any_eq_true]
  constructor
  · rintro ⟨base, member, inside⟩
    exact ⟨base, member, (isSameOrInside_iff denotes (denotes_systemPlace member)).mp inside⟩
  · rintro ⟨base, member, inside⟩
    exact ⟨base, member, (isSameOrInside_iff denotes (denotes_systemPlace member)).mpr inside⟩

theorem equivalent_root_iff (posix : platform.isWindows = false)
    (denotes : Denotes platform pathText path) :
    runtimePathsEquivalentOn platform separator pathText ['/'] = true ↔ path = ⟨.root, []⟩ := by
  have names : Names platform ['/'] ⟨.root, []⟩ := by
    unfold Names NamesVerbatim
    rw [posix]
    exact Spells.root []
  have unfolded : forall place : Place, place.foldCase platform = place := by
    intro place
    have same : foldCase platform = id := by
      funext text
      exact if_neg (by rw [posix]; decide)
    rcases place with ⟨_ | letter | ⟨server, name⟩, components⟩ <;>
      simp [Place.foldCase, Anchor.foldCase, posix, same]
  rw [runtimePathsEquivalentOn_iff denotes.1 names]
  unfold SamePlace
  rw [unfolded, unfolded]

section

variable (denotes : Denotes platform pathText path)
include denotes

theorem systemRoots_iff :
    (if platform.isWindows then
        windowsSystemRoots.any (runtimePathIsSameOrInsideOn platform separator pathText)
      else
        runtimePathsEquivalentOn platform separator pathText ['/'] ||
          unixSystemRoots.any (runtimePathIsSameOrInsideOn platform separator pathText)) = true ↔
      InProtectedPlace platform path := by
  unfold InProtectedPlace
  by_cases windows : platform.isWindows = true
  · rw [if_pos windows, windowsSystemRoots_eq windows, any_systemRoots_iff denotes, windows]
    constructor
    · exact Or.inr
    · rintro (⟨posix, _⟩ | inside)
      · exact absurd posix (by decide)
      · exact inside
  · have posix := Bool.eq_false_iff.mpr windows
    rw [if_neg windows, Bool.or_eq_true, unixSystemRoots_eq posix, any_systemRoots_iff denotes,
      equivalent_root_iff posix denotes]
    constructor
    · rintro (root | inside)
      · exact Or.inl ⟨posix, root⟩
      · exact Or.inr inside
    · rintro (⟨_, root⟩ | inside)
      · exact Or.inl root
      · exact Or.inr inside

theorem ownedByUser_iff {homeText : PathText} {home : Place}
    (homeDenotes : Denotes platform homeText home) :
    (runtimePathIsSameOrInsideOn platform separator pathText homeText &&
        !runtimePathsEquivalentOn platform separator pathText homeText) = true ↔
      StrictlyInside platform path home := by
  unfold StrictlyInside
  rw [Bool.and_eq_true, Bool.not_eq_true', isSameOrInside_iff denotes homeDenotes,
    ← Bool.not_eq_true, runtimePathsEquivalentOn_iff denotes.1 homeDenotes.1]

/-- Exactly the paths in a protected place that are not strictly inside the
home folder are protected. -/
theorem runtimeInstallRootIsProtected_iff {homeText : PathText} {home : Place}
    (homeDenotes : Denotes platform homeText home) :
    runtimeInstallRootIsProtected platform separator (some homeText) pathText = true ↔
      InProtectedPlace platform path ∧ ¬ StrictlyInside platform path home := by
  have owned : Option.any (fun homeText =>
        runtimePathIsSameOrInsideOn platform separator
            (normalizeRuntimePathTextForPlatform platform separator pathText)
            (normalizeRuntimePathTextForPlatform platform separator homeText) &&
          !runtimePathsEquivalentOn platform separator
            (normalizeRuntimePathTextForPlatform platform separator pathText)
            (normalizeRuntimePathTextForPlatform platform separator homeText)) (some homeText) =
        true ↔ StrictlyInside platform path home :=
    ownedByUser_iff denotes.normalize homeDenotes.normalize
  unfold runtimeInstallRootIsProtected
  by_cases strictly : StrictlyInside platform path home
  · rw [if_pos (owned.mpr strictly)]
    exact ⟨fun refused => absurd refused (by decide), fun both => absurd strictly both.2⟩
  · rw [if_neg (fun inside => strictly (owned.mp inside)), systemRoots_iff denotes.normalize]
    exact ⟨fun inside => ⟨inside, strictly⟩, fun both => both.1⟩

/-- Without a home folder there is no exception. -/
theorem runtimeInstallRootIsProtected_none :
    runtimeInstallRootIsProtected platform separator none pathText = true ↔
      InProtectedPlace platform path :=
  systemRoots_iff denotes.normalize

end

end Protection

/-! ## The guard as a whole -/

/-- Absolute paths as texts: on Windows without the white space around them,
and with no resolved path whose last component ends in white space. -/
theorem guard_decides_places (platform : RuntimePlatform) (separator : PathSeparator) :
    (forall pathText baseText path base,
      Denotes platform pathText path -> Denotes platform baseText base ->
        (runtimePathIsSameOrInsideOn platform separator pathText baseText = true ↔
          SameOrInside platform path base)) ∧
    (forall pathText pathText' baseText baseText' path path' base base',
      Denotes platform pathText path -> Denotes platform pathText' path' ->
      Denotes platform baseText base -> Denotes platform baseText' base' ->
      SamePlace platform path path' -> SamePlace platform base base' ->
        runtimePathIsSameOrInsideOn platform separator pathText baseText =
          runtimePathIsSameOrInsideOn platform separator pathText' baseText') ∧
    (forall text place, Denotes platform text place ->
      let resolved := comparableRuntimePathText platform separator text
      lexicallyResolvedRuntimePathText platform resolved = resolved ∧
        comparableRuntimePathText platform separator resolved = resolved) ∧
    (forall text place, Denotes platform text place ->
      runtimePathIsSameOrInsideOn platform separator text text = true) ∧
    (forall pathText middleText baseText path middle base,
      Denotes platform pathText path -> Denotes platform middleText middle ->
      Denotes platform baseText base ->
      runtimePathIsSameOrInsideOn platform separator pathText middleText = true ->
      runtimePathIsSameOrInsideOn platform separator middleText baseText = true ->
        runtimePathIsSameOrInsideOn platform separator pathText baseText = true) ∧
    (forall homeText home text place,
      Denotes platform homeText home -> Denotes platform text place ->
      InProtectedPlace platform place -> ¬ StrictlyInside platform place home ->
        runtimeInstallRootIsProtected platform separator (some homeText) text = true) ∧
    (forall text place, Denotes platform text place -> InProtectedPlace platform place ->
      runtimeInstallRootIsProtected platform separator none text = true) := by
  refine ⟨?_, ?_, ?_, ?_, ?_, ?_, ?_⟩
  · intro pathText baseText path base pathDenotes baseDenotes
    exact isSameOrInside_iff pathDenotes baseDenotes
  · intro pathText pathText' baseText baseText' path path' base base' first second third fourth
      paths bases
    rw [Bool.eq_iff_iff, isSameOrInside_iff first third, isSameOrInside_iff second fourth]
    exact SamePlace.sameOrInside_iff paths bases
  · intro text place denotes
    have wellFormed := wellFormed_of_names denotes.1
    dsimp only
    rw [comparable_eq_render denotes.1]
    exact ⟨lexicallyResolved_render wellFormed, comparable_render wellFormed denotes.2⟩
  · intro text place denotes
    exact (isSameOrInside_iff denotes denotes).mpr (SameOrInside.refl platform place)
  · intro pathText middleText baseText path middle base pathDenotes middleDenotes baseDenotes
      first second
    have inner := (isSameOrInside_iff pathDenotes middleDenotes).mp first
    have outer := (isSameOrInside_iff middleDenotes baseDenotes).mp second
    exact (isSameOrInside_iff pathDenotes baseDenotes).mpr (inner.trans outer)
  · intro homeText home text place homeDenotes denotes inside outside
    exact (runtimeInstallRootIsProtected_iff denotes homeDenotes).mpr ⟨inside, outside⟩
  · intro text place denotes inside
    exact (runtimeInstallRootIsProtected_none denotes).mpr inside

/-- White space around the text is not part of it, and the white space that
ends a resolved component is lost when the text is reduced a second time: both
texts below name another folder than the base, and count as the base. -/
theorem trailing_space_is_lost :
    NamesVerbatim .windows "C:/a ".toList ⟨.drive 'C', ["a ".toList]⟩ ∧
      NamesVerbatim .windows "C:/a /b/..".toList ⟨.drive 'C', ["a ".toList]⟩ ∧
      NamesVerbatim .windows "C:/a".toList ⟨.drive 'C', ["a".toList]⟩ ∧
      ¬ SameOrInside .windows ⟨.drive 'C', ["a ".toList]⟩ ⟨.drive 'C', ["a".toList]⟩ ∧
      runtimePathIsSameOrInsideOn .windows .backslash "C:/a ".toList "C:/a".toList = true ∧
      runtimePathIsSameOrInsideOn .windows .backslash "C:/a /b/..".toList "C:/a".toList = true := by
  have drive : forall rest : PathText, Continues rest ->
      Spells true ('C' :: ':' :: rest) ⟨.drive 'C', walk rest⟩ := by
    intro rest continues
    exact Spells.drive 'C' rest (by decide) continues
  refine ⟨?_, ?_, ?_, ?_, by decide, by decide⟩
  · exact drive "/a ".toList (by decide)
  · exact drive "/a /b/..".toList (by decide)
  · exact drive "/a".toList (by decide)
  · rintro ⟨_, start⟩
    revert start
    decide

end Paths
end RocmCli
