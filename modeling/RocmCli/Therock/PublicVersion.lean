import RocmCli.Therock.Version

namespace RocmCli
namespace Therock

/-!
# Public versions

The versions of PEP 440 that the parser is for: a release of one or more
numbers and at most one segment after it.  `WrittenAs` is the grammar of their
texts, and `pep440Compare` is their order: the releases with zeros filled in,
then the three segments, each with its own rule for being absent.
-/

inductive PreLabel where
  | a
  | b
  | rc
  deriving DecidableEq, Repr

inductive SegmentKind where
  | pre (label : PreLabel)
  | post
  | dev
  deriving DecidableEq, Repr

structure Segment where
  kind : SegmentKind
  number : Nat
  deriving DecidableEq, Repr

structure PublicVersion where
  release : List Nat
  segment : Option Segment
  deriving DecidableEq, Repr

/-! ## Texts -/

/-- The labels of the segments and their alternative spellings. -/
def segmentLabels : List (List Char × SegmentKind) :=
  [("a".toList, .pre .a), ("alpha".toList, .pre .a), ("b".toList, .pre .b),
    ("beta".toList, .pre .b), ("rc".toList, .pre .rc), ("c".toList, .pre .rc),
    ("pre".toList, .pre .rc), ("preview".toList, .pre .rc), ("post".toList, .post),
    ("rev".toList, .post), ("r".toList, .post), ("dev".toList, .dev)]

/-- The value of a run of digits. -/
def numberValue (digits : List Char) : Nat :=
  digits.foldl (fun number digit => number * 10 + (digit.toNat - '0'.toNat)) 0

/-- Digits whose value a 64-bit number holds; there may be none. -/
structure IsDigits (digits : List Char) : Prop where
  digit : forall character, character ∈ digits -> character.isDigit = true
  small : numberValue digits < 2 ^ 64

/-- The numbers of a release with dots between them. -/
inductive SpellsRelease : List Char -> List Nat -> Prop
  | last (digits : List Char) (nonempty : digits ≠ []) (isDigits : IsDigits digits) :
      SpellsRelease digits [numberValue digits]
  | next (digits text : List Char) (release : List Nat) (nonempty : digits ≠ [])
      (isDigits : IsDigits digits) (spelled : SpellsRelease text release) :
      SpellsRelease (digits ++ '.' :: text) (numberValue digits :: release)

/-- What follows the release.  The first argument is what stands between the
label and its number, where PEP 440 has at most one separator. -/
inductive SpellsSuffix : List Char -> List Char -> Option Segment -> Prop
  | final : SpellsSuffix [] [] none
  | segment (separator label between digits : List Char) (kind : SegmentKind)
      (listed : (label, kind) ∈ segmentLabels) (isDigits : IsDigits digits)
      (one : separator.length ≤ 1)
      (separators : forall character, character ∈ separator ++ between ->
        isStageSeparator character = true) :
      SpellsSuffix between (separator ++ (label ++ (between ++ digits)))
        (some ⟨kind, numberValue digits⟩)

/-- The text without local metadata and white space, in lower case. -/
def plainText (value : String) : List Char :=
  (Text.trim (String.ofList (value.toList.takeWhile (· != '+')))).toList.map Char.toLower

def WrittenAs (between : List Char) (value : String) (version : PublicVersion) : Prop :=
  exists releaseText suffix, SpellsRelease releaseText version.release ∧
    SpellsSuffix between suffix version.segment ∧
    (plainText value = releaseText ++ suffix ∨ plainText value = 'v' :: (releaseText ++ suffix))

/-- The string is a text of the public version. -/
def Reads (value : String) (version : PublicVersion) : Prop :=
  exists between, between.length ≤ 1 ∧ WrittenAs between value version

def Readable (value : String) : Prop := exists version, Reads value version

/-- The string would be readable with fewer separators after its label. -/
def DoublySeparated (value : String) : Prop :=
  exists between version, 2 ≤ between.length ∧ WrittenAs between value version

/-! ## Order -/

/-- Compare releases with zeros filled in at the end. -/
def compareRelease : List Nat -> List Nat -> Ordering
  | [], [] => .eq
  | [], number :: rest => (compare 0 number).then (compareRelease [] rest)
  | number :: rest, [] => (compare number 0).then (compareRelease rest [])
  | left :: lefts, right :: rights => (compare left right).then (compareRelease lefts rights)

/-- A pre-release sorts by its label and number; a version without one sorts
above, unless it is a development release. -/
def preKey : Option Segment -> Nat × Nat
  | some ⟨.dev, _⟩ => (0, 0)
  | some ⟨.pre .a, number⟩ => (1, number)
  | some ⟨.pre .b, number⟩ => (2, number)
  | some ⟨.pre .rc, number⟩ => (3, number)
  | some ⟨.post, _⟩ | none => (4, 0)

/-- No post-release sorts below every post-release. -/
def postKey : Option Segment -> Nat × Nat
  | some ⟨.post, number⟩ => (1, number)
  | _ => (0, 0)

/-- No development release sorts above every development release. -/
def devKey : Option Segment -> Nat × Nat
  | some ⟨.dev, number⟩ => (0, number)
  | _ => (1, 0)

def comparePair (left right : Nat × Nat) : Ordering :=
  (compare left.1 right.1).then (compare left.2 right.2)

def pep440Compare (left right : PublicVersion) : Ordering :=
  (compareRelease left.release right.release).then
    ((comparePair (preKey left.segment) (preKey right.segment)).then
      ((comparePair (postKey left.segment) (postKey right.segment)).then
        (comparePair (devKey left.segment) (devKey right.segment))))

/-- The same public version: releases that differ only in zeros at the end
name one release. -/
def SameVersion (left right : PublicVersion) : Prop :=
  (forall index, left.release.getD index 0 = right.release.getD index 0) ∧
    left.segment = right.segment

/-! ## Keys -/

def SegmentKind.stage : SegmentKind -> VersionStage
  | pre .a => .alpha
  | pre .b => .beta
  | pre .rc => .rc
  | post => .post
  | dev => .dev

def segmentStage : Option Segment -> VersionStage × Nat
  | none => (.stable, 0)
  | some segment => (segment.kind.stage, segment.number)

/-- The key that the parser gives to a text of the version. -/
def PublicVersion.orderKey (version : PublicVersion) : VersionOrderKey where
  release := stripTrailingZeros version.release
  stage := (segmentStage version.segment).1
  stageNumber := (segmentStage version.segment).2

/-! ## The key order -/

/-- Nothing but zeros is stripped. -/
theorem stripTrailingZeros_cons (number : Nat) (rest : List Nat) :
    stripTrailingZeros (number :: rest) =
      if number = 0 ∧ stripTrailingZeros rest = [] then []
      else number :: stripTrailingZeros rest := by
  unfold stripTrailingZeros List.rdropWhile
  rw [List.reverse_cons, List.dropWhile_append]
  by_cases zeros : (rest.reverse.dropWhile (· == 0)).isEmpty = true
  · have empty := List.isEmpty_iff.mp zeros
    rw [if_pos zeros, empty]
    by_cases zero : number = 0
    · rw [if_pos ⟨zero, rfl⟩, zero]
      rfl
    · rw [if_neg (fun both => zero both.1), List.dropWhile_cons_of_neg (by simpa using zero)]
      rfl
  · have nonempty : ¬ (rest.reverse.dropWhile (· == 0)).reverse = [] := by
      simpa using zeros
    rw [if_neg zeros, if_neg (fun both => nonempty both.2), List.reverse_append]
    rfl

theorem compare_nil_of_ne_nil {release : List Nat} (nonempty : release ≠ []) :
    compare [] release = .lt ∧ compare release [] = .gt := by
  rcases release with _ | ⟨head, tail⟩
  · exact absurd rfl nonempty
  · exact ⟨List.compare_nil_cons, List.compare_cons_nil⟩

theorem compareRelease_nil_left (right : List Nat) :
    compareRelease [] right = compare [] (stripTrailingZeros right) := by
  induction right with
  | nil =>
      rw [compareRelease]
      exact (Std.ReflCmp.compare_self : compare ([] : List Nat) [] = .eq).symm
  | cons number rest ih =>
      rw [compareRelease, ih, stripTrailingZeros_cons]
      by_cases zero : number = 0
      · by_cases empty : stripTrailingZeros rest = []
        · rw [if_pos ⟨zero, empty⟩, empty, zero]
          rfl
        · rw [if_neg (fun both => empty both.2), zero, (compare_nil_of_ne_nil empty).1,
            List.compare_nil_cons]
          rfl
      · rw [if_neg (fun both => zero both.1), Nat.compare_eq_lt.mpr (Nat.pos_of_ne_zero zero),
          List.compare_nil_cons]
        rfl

theorem compareRelease_nil_right (left : List Nat) :
    compareRelease left [] = compare (stripTrailingZeros left) [] := by
  induction left with
  | nil =>
      rw [compareRelease]
      exact (Std.ReflCmp.compare_self : compare ([] : List Nat) [] = .eq).symm
  | cons number rest ih =>
      rw [compareRelease, ih, stripTrailingZeros_cons]
      by_cases zero : number = 0
      · by_cases empty : stripTrailingZeros rest = []
        · rw [if_pos ⟨zero, empty⟩, empty, zero]
          rfl
        · rw [if_neg (fun both => empty both.2), zero, (compare_nil_of_ne_nil empty).2,
            List.compare_cons_nil]
          rfl
      · rw [if_neg (fun both => zero both.1), Nat.compare_eq_gt.mpr (Nat.pos_of_ne_zero zero),
          List.compare_cons_nil]
        rfl

/-- Comparing without the zeros is comparing with zeros filled in. -/
theorem compareRelease_eq (left right : List Nat) :
    compareRelease left right = compare (stripTrailingZeros left) (stripTrailingZeros right) := by
  induction left generalizing right with
  | nil => exact compareRelease_nil_left right
  | cons number rest ih =>
      cases right with
      | nil => exact compareRelease_nil_right (number :: rest)
      | cons other others =>
          rw [compareRelease, ih]
          by_cases leftZero : number = 0 ∧ stripTrailingZeros rest = []
          · have whole := compareRelease_nil_left (other :: others)
            rw [compareRelease, compareRelease_nil_left] at whole
            rw [stripTrailingZeros_cons number, if_pos leftZero, leftZero.1, leftZero.2, whole]
          · by_cases rightZero : other = 0 ∧ stripTrailingZeros others = []
            · have whole := compareRelease_nil_right (number :: rest)
              rw [compareRelease, compareRelease_nil_right] at whole
              rw [stripTrailingZeros_cons other, if_pos rightZero, rightZero.1, rightZero.2, whole]
            · rw [stripTrailingZeros_cons, stripTrailingZeros_cons, if_neg leftZero,
                if_neg rightZero, List.compare_cons_cons]

/-- The keys are ordered as the versions are. -/
theorem compare_orderKey (left right : PublicVersion) :
    compare left.orderKey right.orderKey = pep440Compare left right := by
  have segments : forall first second : Option Segment,
      (compare (segmentStage first).1.position (segmentStage second).1.position).then
          (compare (segmentStage first).2 (segmentStage second).2) =
        (comparePair (preKey first) (preKey second)).then
          ((comparePair (postKey first) (postKey second)).then
            (comparePair (devKey first) (devKey second))) := by
    -- Different kinds are told apart by numbers in the keys, so both sides compute.
    rintro (_ | ⟨(_ | _ | _) | _ | _, first⟩) (_ | ⟨(_ | _ | _) | _ | _, second⟩) <;>
      first
        | rfl
        | simp [segmentStage, SegmentKind.stage, preKey, postKey, devKey, comparePair]
  unfold pep440Compare
  rw [compareRelease_eq, ← segments]
  rfl

theorem forall_getD_cons (left right : List Nat) (first second : Nat) :
    (forall index, (first :: left).getD index 0 = (second :: right).getD index 0) ↔
      first = second ∧ forall index, left.getD index 0 = right.getD index 0 := by
  constructor
  · intro same
    exact ⟨same 0, fun index => same (index + 1)⟩
  · rintro ⟨head, tail⟩ (_ | index)
    · exact head
    · exact tail index

theorem forall_getD_nil (left : List Nat) (first : Nat) :
    (forall index, (first :: left).getD index 0 = 0) ↔
      first = 0 ∧ forall index, left.getD index 0 = 0 := by
  constructor
  · intro same
    exact ⟨same 0, fun index => same (index + 1)⟩
  · rintro ⟨head, tail⟩ (_ | index)
    · exact head
    · exact tail index

theorem compareRelease_eq_eq_iff (left right : List Nat) :
    compareRelease left right = .eq ↔
      forall index, left.getD index 0 = right.getD index 0 := by
  induction left, right using compareRelease.induct with
  | case1 => simp [compareRelease]
  | case2 number rest ih =>
      rw [compareRelease, Ordering.then_eq_eq, ih, Nat.compare_eq_eq]
      simp only [List.getD_nil, @eq_comm _ 0]
      rw [forall_getD_nil]
  | case3 number rest ih =>
      rw [compareRelease, Ordering.then_eq_eq, ih, Nat.compare_eq_eq]
      simp only [List.getD_nil]
      rw [forall_getD_nil]
  | case4 number rest other others ih =>
      rw [compareRelease, Ordering.then_eq_eq, ih, Nat.compare_eq_eq,
        forall_getD_cons]

theorem segmentStage_injective {first second : Option Segment}
    (same : segmentStage first = segmentStage second) : first = second := by
  revert same
  rcases first with _ | ⟨(_ | _ | _) | _ | _, first⟩ <;>
    rcases second with _ | ⟨(_ | _ | _) | _ | _, second⟩ <;>
    simp [segmentStage, SegmentKind.stage]

/-- Keys are equal exactly when the versions are the same. -/
theorem orderKey_eq_iff (left right : PublicVersion) :
    left.orderKey = right.orderKey ↔ SameVersion left right := by
  have release : stripTrailingZeros left.release = stripTrailingZeros right.release ↔
      forall index, left.release.getD index 0 = right.release.getD index 0 := by
    rw [← compareRelease_eq_eq_iff, compareRelease_eq, Std.LawfulEqCmp.compare_eq_iff_eq]
  unfold PublicVersion.orderKey SameVersion
  rw [VersionOrderKey.mk.injEq, release]
  constructor
  · rintro ⟨numbers, stage, number⟩
    exact ⟨numbers, segmentStage_injective (Prod.ext stage number)⟩
  · rintro ⟨numbers, segment⟩
    rw [segment]
    exact ⟨numbers, rfl, rfl⟩

end Therock
end RocmCli
