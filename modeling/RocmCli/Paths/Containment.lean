import RocmCli.Paths.Resolution

namespace RocmCli
namespace Paths

open Segments

/-!
# The guard in front of a recursive delete

The comparison of two reduced texts is by a prefix of bytes.  UTF-8 keeps
prefixes apart and ASCII case is a matter of single bytes, so this is a prefix
of characters; a separator ends every component, so it is a prefix of
components.
-/

/-! ## Bytes and characters -/

theorem utf8_append (first second : PathText) : utf8 (first ++ second) = utf8 first ++ utf8 second :=
  List.flatMap_append

theorem utf8_prefix_iff {first second : PathText} : utf8 first <+: utf8 second ↔ first <+: second := by
  constructor
  · rintro ⟨rest, whole⟩
    apply List.isPrefix_of_utf8Encode_append_eq_utf8Encode rest.toByteArray
    unfold List.utf8Encode
    rw [← List.toByteArray_append]
    exact congrArg List.toByteArray whole
  · rintro ⟨rest, rfl⟩
    rw [utf8_append]
    exact List.prefix_append _ _

theorem toAsciiLowercase_of_high {byte : UInt8} (high : 0x80 ≤ byte) :
    toAsciiLowercase byte = byte := by
  have outside : (0x41 ≤ byte && byte ≤ 0x5a) = false := by
    rw [UInt8.le_iff_toNat_le] at high
    have bound : (0x80 : UInt8).toNat = 128 := rfl
    have last : (0x5a : UInt8).toNat = 90 := rfl
    simp only [Bool.and_eq_false_iff, decide_eq_false_iff_not, UInt8.le_iff_toNat_le]
    omega
  unfold toAsciiLowercase
  rw [outside]
  rfl

/-- Every byte of a character beyond ASCII is beyond ASCII. -/
theorem high_of_mem_utf8EncodeChar {character : Char} (wide : 127 < character.toNat)
    {byte : UInt8} (member : byte ∈ String.utf8EncodeChar character) : 0x80 ≤ byte := by
  have value : character.val.toNat = character.toNat := rfl
  have bound : (0x80 : UInt8).toNat = 128 := rfl
  unfold String.utf8EncodeChar at member
  simp only [value] at member
  rw [if_neg (by omega)] at member
  rw [UInt8.le_iff_toNat_le]
  split at member
  · simp only [List.mem_cons, List.not_mem_nil, or_false] at member
    rcases member with same | same <;> rw [same] <;> simp [UInt8.toNat_ofNat'] <;> omega
  · split at member
    · simp only [List.mem_cons, List.not_mem_nil, or_false] at member
      rcases member with same | same | same <;> rw [same] <;> simp [UInt8.toNat_ofNat'] <;> omega
    · simp only [List.mem_cons, List.not_mem_nil, or_false] at member
      rcases member with same | same | same | same <;> rw [same] <;>
        simp [UInt8.toNat_ofNat'] <;> omega

theorem toAsciiLowercase_utf8EncodeChar (character : Char) :
    (String.utf8EncodeChar character).map toAsciiLowercase =
      String.utf8EncodeChar character.toLower := by
  by_cases ascii : character.toNat ≤ 127
  · apply Text.forall_toNat_lt (fun character => (String.utf8EncodeChar character).map
      toAsciiLowercase = String.utf8EncodeChar character.toLower) _ (Nat.lt_succ_of_le ascii)
    decide
  · have wide : 127 < character.toNat := by omega
    have same : (String.utf8EncodeChar character).map toAsciiLowercase =
        (String.utf8EncodeChar character).map id := by
      apply List.map_congr_left
      intro byte member
      exact toAsciiLowercase_of_high (high_of_mem_utf8EncodeChar wide member)
    rw [same, List.map_id, Text.toLower_of_wide wide]

theorem utf8_map_toLower (text : PathText) :
    utf8 (text.map Char.toLower) = (utf8 text).map toAsciiLowercase := by
  unfold utf8
  rw [List.map_flatMap, List.flatMap_map]
  apply List.flatMap_congr
  intro character _
  exact (toAsciiLowercase_utf8EncodeChar character).symm

section Containment

variable (platform : RuntimePlatform)

theorem length_utf8_foldCase (text : PathText) :
    (utf8 (foldCase platform text)).length = (utf8 text).length := by
  unfold foldCase
  by_cases windows : platform.isWindows = true
  · rw [if_pos windows, utf8_map_toLower, List.length_map]
  · rw [if_neg windows]

/-! ## Folded places -/

/-- The anchor as segments, each ended by a separator. -/
def Anchor.segments : Anchor -> List PathText
  | root => [[]]
  | drive letter => [[letter, ':']]
  | share server name => [[], [], server, name]

/-- The text that every path inside the place starts with. -/
def Place.insidePrefix (place : Place) : PathText :=
  terminated '/' (place.anchor.segments ++ place.components)

theorem foldCase_slash : foldCase platform ['/'] = ['/'] := by
  unfold foldCase
  split <;> rfl

theorem foldCase_append (first second : PathText) :
    foldCase platform (first ++ second) = foldCase platform first ++ foldCase platform second := by
  unfold foldCase
  by_cases windows : platform.isWindows = true
  · rw [if_pos windows, if_pos windows, if_pos windows, List.map_append]
  · rw [if_neg windows, if_neg windows, if_neg windows]

theorem foldCase_terminated (segments : List PathText) :
    foldCase platform (terminated '/' segments) =
      terminated '/' (segments.map (foldCase platform)) := by
  induction segments with
  | nil =>
      unfold foldCase
      split <;> rfl
  | cons segment rest ih =>
      have regroup : segment ++ '/' :: terminated '/' rest =
          segment ++ (['/'] ++ terminated '/' rest) := rfl
      rw [terminated_cons, regroup, foldCase_append, foldCase_append, ih,
        foldCase_slash, List.map_cons, terminated_cons]
      rfl

theorem toLower_eq_slash_iff {character : Char} : character.toLower = '/' ↔ character = '/' := by
  constructor
  · exact Text.eq_of_toLower_eq (by decide)
  · rintro rfl
    rfl

theorem mem_foldCase_slash {text : PathText} (member : '/' ∈ foldCase platform text) :
    '/' ∈ text := by
  unfold foldCase at member
  by_cases windows : platform.isWindows = true
  · rw [if_pos windows] at member
    rcases List.mem_map.mp member with ⟨character, inside, lowered⟩
    exact toLower_eq_slash_iff.mp lowered ▸ inside
  · rwa [if_neg windows] at member

theorem foldCase_eq_nil_iff {text : PathText} : foldCase platform text = [] ↔ text = [] := by
  unfold foldCase
  by_cases windows : platform.isWindows = true
  · rw [if_pos windows, List.map_eq_nil_iff]
  · rw [if_neg windows]

theorem isSlash_toLower (character : Char) : isSlash character.toLower = isSlash character := by
  unfold isSlash
  by_cases slash : character = '/'
  · rw [slash]
    rfl
  · have lowered : character.toLower ≠ '/' := fun same => slash (toLower_eq_slash_iff.mp same)
    rw [beq_eq_false_iff_ne.mpr slash, beq_eq_false_iff_ne.mpr lowered]

theorem trimEndSlashes_foldCase (text : PathText) :
    trimEndSlashes (foldCase platform text) = foldCase platform (trimEndSlashes text) := by
  unfold foldCase
  by_cases windows : platform.isWindows = true
  · have same : isSlash ∘ Char.toLower = isSlash := by
      funext character
      exact isSlash_toLower character
    rw [if_pos windows, if_pos windows]
    unfold trimEndSlashes List.rdropWhile
    rw [← List.map_reverse, List.dropWhile_map, same, List.map_reverse]
  · rw [if_neg windows, if_neg windows]

/-! ## The prefix of what is inside -/

theorem insidePrefix_eq (place : Place) :
    place.insidePrefix = place.anchor.stem ++ '/' :: terminated '/' place.components := by
  rcases place with ⟨anchor, components⟩
  cases anchor <;> simp [Place.insidePrefix, Anchor.segments, Anchor.stem]

variable {platform} {path base : Place}

theorem trimEndSlashes_stem {windows : Bool} {anchor : Anchor} (formed : anchor.WellFormed windows) :
    trimEndSlashes anchor.stem = anchor.stem := by
  cases anchor with
  | root => rfl
  | drive letter => exact trimEndSlashes_drive letter
  | share server name =>
      cases windows with
      | false => exact formed.elim
      | true =>
          have regroup : Anchor.stem (.share server name) = ('/' :: '/' :: server ++ ['/']) ++ name := by
            simp [Anchor.stem]
          rw [regroup, trimEndSlashes_append _ formed.2.1 formed.2.2.1]

/-- The rendering ends in a separator only when nothing is below the anchor. -/
theorem insidePrefix_of_render {windows : Bool} (wellFormed : path.WellFormed windows) :
    trimEndSlashes path.render ++ ['/'] = path.insidePrefix ∧
      (if path.components = [] then path.render else path.render ++ ['/']) = path.insidePrefix := by
  rw [insidePrefix_eq]
  unfold Place.render
  rcases List.eq_nil_or_concat' path.components with empty | ⟨front, last, split⟩
  · rw [if_pos empty, empty, List.intercalate_nil, trimEndSlashes_concat,
      trimEndSlashes_stem wellFormed.anchor]
    exact ⟨rfl, rfl⟩
  · have nonempty : path.components ≠ [] := by
      rw [split]
      simp
    have name := wellFormed.components last (by rw [split]; simp)
    have ended := intercalate_append_separator '/' path.components nonempty
    have closing : exists start, List.intercalate ['/'] path.components = start ++ last := by
      rw [split]
      rcases front with _ | ⟨first, others⟩
      · exact ⟨[], by rw [List.nil_append, List.intercalate_singleton, List.nil_append]⟩
      · refine ⟨terminated '/' (first :: others), ?_⟩
        have whole := intercalate_append_separator '/' ((first :: others) ++ [last]) (by simp)
        rw [terminated_append, terminated_cons '/' last [], terminated_nil,
          ← List.append_assoc] at whole
        exact List.append_inj_left' whole rfl
    rcases closing with ⟨start, closing⟩
    have regroup : path.anchor.stem ++ '/' :: List.intercalate ['/'] path.components =
        (path.anchor.stem ++ '/' :: start) ++ last := by
      rw [closing]
      simp
    rw [if_neg nonempty, regroup, trimEndSlashes_append _ name.nonempty name.plain.1, ← regroup]
    rw [List.append_assoc, List.cons_append, ended]
    exact ⟨rfl, rfl⟩

theorem segments_free {windows : Bool} (wellFormed : path.WellFormed windows) :
    forall segment, segment ∈ path.anchor.segments ++ path.components -> '/' ∉ segment := by
  intro segment member
  rcases List.mem_append.mp member with anchor | component
  · have formed := wellFormed.anchor
    rcases path with ⟨_ | letter | ⟨server, name⟩, components⟩
    · rw [List.mem_singleton.mp anchor]
      exact List.not_mem_nil
    · cases windows with
      | false => exact formed.elim
      | true =>
          rw [List.mem_singleton.mp anchor]
          have notSlash := not_slash_of_isAlpha formed.1
          simp [notSlash.symm]
    · cases windows with
      | false => exact formed.elim
      | true =>
          have serverFree := formed.1.2.1
          have nameFree := formed.2.2.1
          simp only [Anchor.segments, List.mem_cons, List.not_mem_nil, or_false] at anchor
          rcases anchor with same | same | same | same
          · rw [same]
            exact List.not_mem_nil
          · rw [same]
            exact List.not_mem_nil
          · exact same ▸ serverFree
          · exact same ▸ nameFree
  · exact (wellFormed.components segment component).plain.1

theorem segments_foldCase (anchor : Anchor) :
    anchor.segments.map (foldCase platform) = (anchor.foldCase platform).segments := by
  by_cases windows : platform.isWindows = true
  · cases anchor <;> simp [Anchor.segments, Anchor.foldCase, foldCase, windows]
  · cases anchor <;> simp [Anchor.segments, Anchor.foldCase, foldCase, windows]

theorem folded_free {segments : List PathText}
    (free : forall segment, segment ∈ segments -> '/' ∉ segment) :
    forall segment, segment ∈ segments.map (foldCase platform) -> '/' ∉ segment := by
  intro segment member
  rcases List.mem_map.mp member with ⟨original, inside, same⟩
  rw [← same]
  exact fun slash => free original inside (mem_foldCase_slash platform slash)

theorem foldCase_segments_iff (pathFormed : path.anchor.WellFormed platform.isWindows)
    (baseFormed : base.anchor.WellFormed platform.isWindows) :
    SameOrInside platform path base ↔
      (base.anchor.segments ++ base.components).map (foldCase platform) <+:
        (path.anchor.segments ++ path.components).map (foldCase platform) := by
  unfold SameOrInside Place.foldCase
  rcases path with ⟨pathAnchor, pathComponents⟩
  rcases base with ⟨baseAnchor, baseComponents⟩
  by_cases windows : platform.isWindows = true
  · rw [windows] at pathFormed baseFormed
    rcases pathAnchor with _ | letter | ⟨server, name⟩
    · exact pathFormed.elim
    · rcases baseAnchor with _ | baseLetter | ⟨baseServer, baseName⟩
      · exact baseFormed.elim
      · simp [Anchor.segments, Anchor.foldCase, foldCase, windows, eq_comm]
      · simp [Anchor.segments, Anchor.foldCase, foldCase, windows]
    · rcases baseAnchor with _ | baseLetter | ⟨baseServer, baseName⟩
      · exact baseFormed.elim
      · simp [Anchor.segments, Anchor.foldCase, foldCase, windows]
      · simp [Anchor.segments, Anchor.foldCase, foldCase, windows, eq_comm, and_assoc]
  · rw [Bool.eq_false_iff.mpr windows] at pathFormed baseFormed
    rcases pathAnchor with _ | letter | ⟨server, name⟩
    · rcases baseAnchor with _ | baseLetter | ⟨baseServer, baseName⟩
      · simp [Anchor.segments, foldCase]
      · exact baseFormed.elim
      · exact baseFormed.elim
    · exact pathFormed.elim
    · exact pathFormed.elim

section

variable (pathFormed : path.WellFormed platform.isWindows)
  (baseFormed : base.WellFormed platform.isWindows)
include pathFormed baseFormed

/-- A place is inside another when its prefix text starts with the other's. -/
theorem sameOrInside_iff_start :
    SameOrInside platform path base ↔
      foldCase platform base.insidePrefix <+: foldCase platform path.insidePrefix := by
  unfold Place.insidePrefix
  rw [foldCase_segments_iff pathFormed.anchor baseFormed.anchor, foldCase_terminated,
    foldCase_terminated, terminated_prefix_iff (folded_free (segments_free baseFormed))
      (folded_free (segments_free pathFormed))]

theorem SamePlace.render_eq (same : SamePlace platform path base) :
    foldCase platform path.render = foldCase platform base.render := by
  have forward : SameOrInside platform path base :=
    (SamePlace.sameOrInside_iff same rfl).mpr (SameOrInside.refl platform base)
  have backward : SameOrInside platform base path :=
    (SamePlace.sameOrInside_iff rfl same).mpr (SameOrInside.refl platform base)
  have first := (sameOrInside_iff_start pathFormed baseFormed).mp forward
  have second := (sameOrInside_iff_start baseFormed pathFormed).mp backward
  have prefixes := second.eq_of_length_le first.length_le
  have pathEnd := (insidePrefix_of_render pathFormed).2
  have baseEnd := (insidePrefix_of_render baseFormed).2
  have sizes : path.components.length = base.components.length := by
    have folded := congrArg (fun place => place.components.length) same
    simpa [Place.foldCase] using folded
  by_cases empty : path.components = []
  · have baseEmpty : base.components = [] := List.length_eq_zero_iff.mp (by
      rw [← sizes, empty, List.length_nil])
    rw [if_pos empty] at pathEnd
    rw [if_pos baseEmpty] at baseEnd
    rw [pathEnd, baseEnd, prefixes]
  · have baseSome : base.components ≠ [] := by
      intro baseEmpty
      rw [baseEmpty, List.length_nil] at sizes
      exact empty (List.length_eq_zero_iff.mp sizes)
    rw [if_neg empty] at pathEnd
    rw [if_neg baseSome] at baseEnd
    rw [← pathEnd, ← baseEnd, foldCase_append, foldCase_append] at prefixes
    exact List.append_cancel_right prefixes

theorem sameOrInside_of_render_eq
    (same : foldCase platform path.render = foldCase platform base.render) :
    SameOrInside platform path base := by
  rw [sameOrInside_iff_start pathFormed baseFormed, ← (insidePrefix_of_render pathFormed).1,
    ← (insidePrefix_of_render baseFormed).1, foldCase_append, foldCase_append,
    ← trimEndSlashes_foldCase, ← trimEndSlashes_foldCase]
  exact ⟨[], by rw [same, List.append_nil]⟩

end

theorem length_le_length_utf8 (text : PathText) : text.length ≤ (utf8 text).length := by
  induction text with
  | nil => exact Nat.le_refl 0
  | cons head tail ih =>
      have one : 0 < (String.utf8EncodeChar head).length :=
        List.length_pos_of_ne_nil String.utf8EncodeChar_ne_nil
      unfold utf8 at ih ⊢
      rw [List.flatMap_cons, List.length_append, List.length_cons]
      omega

/-- A path inside a base whose text is not longer than the base's prefix is the
base. -/
theorem SameOrInside.samePlace_of_length_le (pathFormed : path.WellFormed platform.isWindows)
    (inside : SameOrInside platform path base)
    (short : (utf8 path.render).length ≤ (utf8 base.insidePrefix).length) : SamePlace platform path base := by
  rcases inside with ⟨anchors, rest, components⟩
  have whole : foldCase platform path.insidePrefix =
      foldCase platform base.insidePrefix ++ terminated '/' rest := by
    have below : path.components.map (foldCase platform) =
        base.components.map (foldCase platform) ++ rest := components.symm
    unfold Place.insidePrefix
    rw [foldCase_terminated, foldCase_terminated, List.map_append, List.map_append,
      segments_foldCase, segments_foldCase, below, ← List.append_assoc, terminated_append]
    exact congrArg (fun anchor : Anchor => terminated '/' (anchor.segments ++ _) ++ _) anchors
  have bytes := congrArg (fun text => (utf8 text).length) whole
  simp only [utf8_append, List.length_append, length_utf8_foldCase] at bytes
  have little : (utf8 path.insidePrefix).length ≤ (utf8 path.render).length + 1 := by
    have ends := (insidePrefix_of_render pathFormed).2
    rw [← ends]
    split
    · exact Nat.le_succ _
    · rw [utf8_append, List.length_append]
      exact Nat.le_refl _
  rcases rest with _ | ⟨part, others⟩
  · have below : path.components.map (foldCase platform) =
        base.components.map (foldCase platform) := by
      rw [List.append_nil] at components
      exact components.symm
    unfold SamePlace
    exact congrArg₂ Place.mk anchors below
  · have member : part ∈ path.components.map (foldCase platform) := by
      rw [show path.components.map (foldCase platform) = _ from components.symm]
      simp
    rcases List.mem_map.mp member with ⟨original, inside, folded⟩
    have nonempty : part ≠ [] := by
      rw [← folded]
      exact fun empty =>
        (pathFormed.components original inside).nonempty ((foldCase_eq_nil_iff platform).mp empty)
    have partPos := List.length_pos_of_ne_nil nonempty
    have long := length_le_length_utf8 (terminated '/' (part :: others))
    rw [terminated_cons, List.length_append, List.length_cons] at long
    rw [terminated_cons] at bytes
    omega

/-! ## The comparisons -/

variable {separator : PathSeparator} {pathText baseText : PathText}

theorem runtimePathsEquivalentOn_iff (pathNames : Names platform pathText path)
    (baseNames : Names platform baseText base) :
    runtimePathsEquivalentOn platform separator pathText baseText = true ↔
      SamePlace platform path base := by
  have pathFormed := wellFormed_of_names pathNames
  have baseFormed := wellFormed_of_names baseNames
  have folded : runtimePathsEquivalentOn platform separator pathText baseText = true ↔
      foldCase platform path.render = foldCase platform base.render := by
    unfold runtimePathsEquivalentOn
    rw [comparable_eq_render pathNames, comparable_eq_render baseNames]
    unfold foldCase eqIgnoreCase
    by_cases windows : platform.isWindows = true
    · rw [if_pos windows, if_pos windows, if_pos windows, beq_iff_eq]
    · rw [if_neg windows, if_neg windows, if_neg windows, beq_iff_eq]
  rw [folded]
  constructor
  · intro same
    have forward := sameOrInside_of_render_eq pathFormed baseFormed same
    have backward := sameOrInside_of_render_eq baseFormed pathFormed same.symm
    have components := backward.2.eq_of_length_le forward.2.length_le
    exact congrArg₂ Place.mk forward.1 components
  · exact SamePlace.render_eq pathFormed baseFormed

/-- Comparing the first bytes is comparing prefixes of characters. -/
theorem head_eq_iff (text start : PathText) :
    (if platform.isWindows then
        ((utf8 text).take (utf8 start).length).map toAsciiLowercase ==
          (utf8 start).map toAsciiLowercase
      else (utf8 text).take (utf8 start).length == utf8 start) = true ↔
      foldCase platform start <+: foldCase platform text := by
  rw [← utf8_prefix_iff, List.prefix_iff_eq_take, length_utf8_foldCase]
  unfold foldCase
  by_cases windows : platform.isWindows = true
  · rw [if_pos windows, if_pos windows, if_pos windows, utf8_map_toLower, utf8_map_toLower,
      ← List.map_take, beq_iff_eq, eq_comm]
  · rw [if_neg windows, if_neg windows, if_neg windows, beq_iff_eq, eq_comm]

/-- The text comparison decides containment of the named places. -/
theorem runtimePathIsSameOrInsideOn_iff (pathNames : Names platform pathText path)
    (baseNames : Names platform baseText base)
    (pathTidy : platform.isWindows = true -> path.Clean)
    (baseTidy : platform.isWindows = true -> base.Clean) :
    runtimePathIsSameOrInsideOn platform separator pathText baseText = true ↔
      SameOrInside platform path base := by
  have pathFormed := wellFormed_of_names pathNames
  have baseFormed := wellFormed_of_names baseNames
  have pathEnd := (insidePrefix_of_render pathFormed).2
  unfold runtimePathIsSameOrInsideOn
  rw [comparable_eq_render pathNames, comparable_eq_render baseNames]
  dsimp only
  rw [(insidePrefix_of_render baseFormed).1]
  by_cases short : (utf8 path.render).length ≤ (utf8 base.insidePrefix).length
  · rw [if_pos short, runtimePathsEquivalentOn_iff (names_render pathFormed pathTidy)
      (names_render baseFormed baseTidy)]
    constructor
    · intro same
      exact (SamePlace.sameOrInside_iff same rfl).mpr (SameOrInside.refl platform base)
    · intro inside
      exact inside.samePlace_of_length_le pathFormed short
  · rw [if_neg short, head_eq_iff, sameOrInside_iff_start pathFormed baseFormed, ← pathEnd]
    by_cases empty : path.components = []
    · rw [if_pos empty]
    · rw [if_neg empty, foldCase_append, foldCase_slash, List.prefix_concat_iff]
      constructor
      · exact Or.inr
      · rintro (whole | start)
        · have bytes := congrArg (fun text => (utf8 text).length) whole
          simp only [utf8_append, List.length_append, length_utf8_foldCase] at bytes
          omega
        · exact start

end Containment

end Paths
end RocmCli
