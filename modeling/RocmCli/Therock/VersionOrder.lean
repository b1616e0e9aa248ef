import RocmCli.Therock.Grammar

namespace RocmCli
namespace Therock

open Text

/-!
# The order of published versions

The parser has a key for every readable string, keys are ordered as PEP 440
orders the versions, and the order on strings is total and strict.  The one
gap: a label followed by two or more separators is no spelling of PEP 440, and
the parser reads it.
-/

/-! ## The text that is read -/

theorem head_splitOn (text : List Char) :
    (text.splitOn '+').head?.getD text = text.takeWhile (· != '+') := by
  have split : text.takeWhile (· != '+') ++ text.dropWhile (· != '+') = text :=
    List.takeWhile_append_dropWhile
  have free : '+' ∉ text.takeWhile (· != '+') := by
    intro plus
    have kept := List.mem_takeWhile_imp plus
    exact absurd kept (by decide)
  rcases rest : text.dropWhile (· != '+') with _ | ⟨head, tail⟩
  · rw [rest, List.append_nil] at split
    rw [split] at free ⊢
    rw [List.splitOn_eq_singleton free]
    rfl
  · have same : head = '+' := by
      have stops := List.head?_dropWhile_not (· != '+') text
      rw [rest] at stops
      simpa using stops
    rw [rest, same] at split
    have read : text.splitOn '+' = text.takeWhile (· != '+') :: tail.splitOn '+' := by
      rw [← List.splitOn_append_cons_self_of_not_mem free, split]
    rw [read]
    rfl

theorem publicText_eq (value : String) :
    publicText value = stripVersionPrefix (plainText value) := by
  unfold publicText plainText
  rw [head_splitOn]

theorem plus_not_mem_plainText (value : String) : '+' ∉ plainText value := by
  intro plus
  rcases List.mem_map.mp plus with ⟨character, member, lowered⟩
  have same := eq_of_toLower_eq (by decide) lowered
  unfold Text.trim trimMatches at member
  rw [String.toList_ofList, String.toList_ofList] at member
  have inner := (List.dropWhile_sublist _).subset (List.mem_reverse.mp member)
  have kept := (List.dropWhile_sublist _).subset (List.mem_reverse.mp inner)
  have different := List.mem_takeWhile_imp kept
  rw [same] at different
  exact absurd different (by decide)

/-! ## What is written -/

theorem SpellsRelease.characters {text : List Char} {release : List Nat}
    (spelled : SpellsRelease text release) :
    forall character, character ∈ text -> character.isDigit = true ∨ character = '.' := by
  induction spelled with
  | last digits nonempty isDigits => exact fun character member => Or.inl (isDigits.digit _ member)
  | next digits text release nonempty isDigits spelled ih =>
      intro character member
      rcases List.mem_append.mp member with inside | inside
      · exact Or.inl (isDigits.digit _ inside)
      · rcases List.mem_cons.mp inside with same | later
        · exact Or.inr same
        · exact ih character later

variable {between suffix : List Char} {segment : Option Segment}

theorem SpellsSuffix.no_epoch (spelled : SpellsSuffix between suffix segment) : '!' ∉ suffix := by
  cases spelled with
  | final => exact List.not_mem_nil
  | segment separator label between digits kind listed isDigits one separators =>
      have labels : forall entry, entry ∈ segmentLabels -> '!' ∉ entry.1 := by decide
      have separatorFree : '!' ∉ separator ++ between :=
        fun mark => absurd (separators '!' mark) (by decide)
      have digitsFree : '!' ∉ digits := fun mark => absurd (isDigits.digit '!' mark) (by decide)
      have labelFree := labels _ listed
      simp only [List.mem_append, not_or] at separatorFree ⊢
      exact ⟨separatorFree.1, labelFree, separatorFree.2, digitsFree⟩

theorem SpellsSuffix.not_continues (spelled : SpellsSuffix between suffix segment) :
    ¬ Continues suffix := by
  cases spelled with
  | final => simp [Continues, StartsWithDigit, nextComponent]
  | segment separator label between digits kind listed isDigits one separators =>
      rcases stageLabels_letters _ (mem_segmentLabels listed) with ⟨nonempty, letters⟩
      rcases label with _ | ⟨letter, letterTail⟩
      · exact absurd rfl nonempty
      have isLetter := List.all_eq_true.mp letters letter List.mem_cons_self
      simp only [isLabelCharacter, Bool.and_eq_true, Bool.not_eq_true'] at isLetter
      have notDot : letter ≠ '.' := by
        intro same
        rw [same] at isLetter
        exact absurd isLetter.1 (by decide)
      rcases separator with _ | ⟨head, _ | ⟨second, more⟩⟩
      · rintro (digit | component)
        · simp [StartsWithDigit, isLetter.2] at digit
        · rcases Option.isSome_iff_exists.mp component with ⟨next, found⟩
          exact notDot (List.cons.inj (nextComponent_iff.mp found).1).1
      · have isSeparator := separators head (by simp)
        rintro (digit | component)
        · have notDigit : head.isDigit = false := by
            simp only [isStageSeparator, Bool.or_eq_true, beq_iff_eq] at isSeparator
            rcases isSeparator with (same | same) | same <;> rw [same] <;> rfl
          simp [StartsWithDigit, notDigit] at digit
        · rcases Option.isSome_iff_exists.mp component with ⟨next, found⟩
          have read := nextComponent_iff.mp found
          rw [← (List.cons.inj read.1).2] at read
          simp [StartsWithDigit, isLetter.2] at read
      · simp at one

/-- The separators after the label, read off the suffix. -/
def separatorsAfterLabel (suffix : List Char) : List Char :=
  match stageLabel (stripStageSeparator suffix) with
  | none => []
  | some (_, number) => number.takeWhile isStageSeparator

theorem SpellsSuffix.between_eq (spelled : SpellsSuffix between suffix segment) :
    between = separatorsAfterLabel suffix := by
  cases spelled with
  | final => decide
  | segment separator label between digits kind listed isDigits one separators =>
      have front : forall character, character ∈ separator -> isStageSeparator character = true :=
        fun character member => separators character (List.mem_append_left _ member)
      have middle : forall character, character ∈ between -> isStageSeparator character = true :=
        fun character member => separators character (List.mem_append_right _ member)
      unfold separatorsAfterLabel
      rw [stripStageSeparator_append one front listed,
        stageLabel_of_listed listed (head_of_digits middle isDigits)]
      exact (dropWhile_between middle isDigits).1.symm

variable {value : String} {version : PublicVersion}

/-- The body of a written version, and how the loop splits it. -/
theorem WrittenAs.split (written : WrittenAs between value version) :
    exists suffix, SpellsSuffix between suffix version.segment ∧ '+' ∉ suffix ∧
      splitRelease (publicText value).length (publicText value) = some (version.release, suffix) ∧
      publicText value ≠ [] ∧ '!' ∉ publicText value := by
  rcases written with ⟨releaseText, suffix, release, spelled, whole⟩
  have body : publicText value = releaseText ++ suffix := by
    rw [publicText_eq]
    rcases whole with same | same
    · rw [same]
      have starts := release.startsWithDigit suffix
      unfold stripVersionPrefix
      split
      · rename_i rest other
        rw [other] at starts
        exact absurd starts (by simp [StartsWithDigit])
      · rfl
    · rw [same]
      rfl
  have noPlus : '+' ∉ suffix := by
    intro plus
    apply plus_not_mem_plainText value
    rcases whole with same | same <;> rw [same] <;> simp [plus]
  refine ⟨suffix, spelled, noPlus, ?_, ?_, ?_⟩
  · rw [body]
    exact splitRelease_of_spells release spelled.not_continues (Nat.le_refl _)
  · intro empty
    have starts := release.startsWithDigit suffix
    rw [← body, empty] at starts
    exact absurd starts (by unfold StartsWithDigit; decide)
  · rw [body, List.mem_append, not_or]
    refine ⟨fun mark => ?_, spelled.no_epoch⟩
    rcases release.characters '!' mark with digit | dot
    · exact absurd digit (by decide)
    · exact absurd dot (by decide)

/-- A string is written with one run of separators after its label. -/
theorem WrittenAs.between_unique {first second : List Char} {other : PublicVersion}
    (written : WrittenAs first value version) (again : WrittenAs second value other) :
    first = second := by
  rcases written.split with ⟨suffix, spelled, _, read, _⟩
  rcases again.split with ⟨otherSuffix, otherSpelled, _, otherRead, _⟩
  rw [read, Option.some.injEq, Prod.mk.injEq] at otherRead
  rw [spelled.between_eq, otherSpelled.between_eq, otherRead.2]

/-- The parser reads the grammar with any number of separators after a label,
and gives the key of the version. -/
theorem parseVersionForOrdering_iff (value : String) (key : VersionOrderKey) :
    parseVersionForOrdering value = some key ↔
      exists between version, WrittenAs between value version ∧ key = version.orderKey := by
  constructor
  · intro parsed
    unfold parseVersionForOrdering at parsed
    dsimp only at parsed
    by_cases empty : (publicText value).isEmpty = true
    · rw [if_pos empty] at parsed
      exact (nomatch parsed)
    · rw [if_neg empty] at parsed
      by_cases epoch : (publicText value).contains '!' = true
      · rw [if_pos epoch] at parsed
        exact (nomatch parsed)
      · rw [if_neg epoch] at parsed
        rcases split : splitRelease (publicText value).length (publicText value) with
          _ | ⟨release, rest⟩
        · rw [split] at parsed
          exact (nomatch parsed)
        · rw [split] at parsed
          dsimp only at parsed
          rcases splitRelease_spells split with ⟨releaseText, spelled, whole, _⟩
          have prefixed : plainText value = releaseText ++ rest ∨
              plainText value = 'v' :: (releaseText ++ rest) := by
            rw [publicText_eq] at whole
            unfold stripVersionPrefix at whole
            split at whole
            · rename_i tail same
              exact Or.inr (by rw [same, whole])
            · exact Or.inl whole
          have noPlus : '+' ∉ rest := by
            intro plus
            apply plus_not_mem_plainText value
            rcases prefixed with same | same <;> rw [same] <;> simp [plus]
          rcases staged : parseVersionStage rest with _ | ⟨stage, number⟩
          · rw [staged] at parsed
            exact (nomatch parsed)
          · rw [staged, Option.some.injEq] at parsed
            rcases (parseVersionStage_iff noPlus (stage, number)).mp staged with
              ⟨between, segment, suffix, read⟩
            refine ⟨between, ⟨release, segment⟩, ⟨releaseText, rest, spelled, suffix, prefixed⟩, ?_⟩
            rw [← parsed]
            unfold PublicVersion.orderKey
            rw [← read]
  · rintro ⟨between, version, written, same⟩
    rcases written.split with ⟨suffix, spelled, noPlus, read, nonempty, noEpoch⟩
    have staged := (parseVersionStage_iff noPlus (segmentStage version.segment)).mpr
      ⟨between, version.segment, spelled, rfl⟩
    unfold parseVersionForOrdering
    dsimp only
    rw [if_neg (by simpa using nonempty), if_neg (by simpa using noEpoch), read]
    dsimp only
    rw [staged, same]
    rfl

theorem parse_of_reads (reads : Reads value version) :
    parseVersionForOrdering value = some version.orderKey := by
  rcases reads with ⟨between, _, written⟩
  exact (parseVersionForOrdering_iff value _).mpr ⟨between, version, written, rfl⟩

theorem isSome_iff (value : String) :
    (parseVersionForOrdering value).isSome = true ↔ Readable value ∨ DoublySeparated value := by
  rw [Option.isSome_iff_exists]
  constructor
  · rintro ⟨key, parsed⟩
    rcases (parseVersionForOrdering_iff value key).mp parsed with ⟨between, version, written, _⟩
    by_cases one : between.length ≤ 1
    · exact Or.inl ⟨version, between, one, written⟩
    · exact Or.inr ⟨between, version, by omega, written⟩
  · rintro (⟨version, reads⟩ | ⟨between, version, _, written⟩)
    · exact ⟨_, parse_of_reads reads⟩
    · exact ⟨_, (parseVersionForOrdering_iff value _).mpr ⟨between, version, written, rfl⟩⟩

theorem not_readable_of_doublySeparated (doubled : DoublySeparated value) : ¬ Readable value := by
  rcases doubled with ⟨between, version, two, written⟩
  rintro ⟨other, separators, one, again⟩
  have same := written.between_unique again
  rw [same] at two
  omega

/-! ## The order on strings -/

instance : Std.TransOrd VersionOrderKey :=
  inferInstanceAs (Std.TransCmp (compareLex (compareOn VersionOrderKey.release)
    (compareLex (compareOn fun key : VersionOrderKey => key.stage.position)
      (compareOn VersionOrderKey.stageNumber))))

/-- Strings are compared by their keys, those without one first, and then as
strings. -/
theorem compareVersionStrings_eq :
    compareVersionStrings = compareLex (compareOn parseVersionForOrdering) compare := by
  funext left right
  unfold compareVersionStrings compareLex compareOn
  rcases parseVersionForOrdering left with _ | leftKey <;>
    rcases parseVersionForOrdering right with _ | rightKey <;> rfl

instance : Std.TransCmp compareVersionStrings := by
  rw [compareVersionStrings_eq]
  infer_instance

instance : Std.LawfulEqCmp compareVersionStrings where
  eq_of_compare {first second} same := by
    rw [compareVersionStrings_eq] at same
    exact Std.LawfulEqOrd.eq_of_compare (compareLex_eq_eq.mp same).2

/-- The order a sort by the comparison uses. -/
def versionLE (left right : String) : Bool := (compareVersionStrings left right).isLE

/-- Sorting does not depend on the order of the input. -/
theorem mergeSort_versionLE {first second : List String} (same : first.Perm second) :
    first.mergeSort versionLE = second.mergeSort versionLE := by
  have transitive : forall left middle right, versionLE left middle = true ->
      versionLE middle right = true -> versionLE left right = true :=
    fun _ _ _ => Std.TransCmp.isLE_trans
  have total : forall left right, (versionLE left right || versionLE right left) = true := by
    intro left right
    have swapped : compareVersionStrings right left = (compareVersionStrings left right).swap :=
      Std.OrientedCmp.eq_swap
    unfold versionLE
    rw [swapped]
    cases compareVersionStrings left right <;> rfl
  have antisymmetric : forall left right, left ∈ first.mergeSort versionLE ->
      right ∈ second.mergeSort versionLE -> versionLE left right = true ->
      versionLE right left = true -> left = right := by
    intro left right _ _ forward backward
    exact Std.LawfulEqCmp.eq_of_compare (Std.OrientedCmp.isLE_antisymm forward backward)
  have permuted := ((List.mergeSort_perm first versionLE).trans same).trans
    (List.mergeSort_perm second versionLE).symm
  exact permuted.eq_of_pairwise antisymmetric (List.pairwise_mergeSort transitive total first)
    (List.pairwise_mergeSort transitive total second)

/-- Everything the order promises, with the strings it promises it for: a
string is read exactly when it is readable, and sorts below the readable ones
otherwise, unless two or more separators follow its label; readable strings
are ordered as their versions; and the order on all strings is total, strict
and independent of the order of the input. -/
theorem versionOrder_exact (value : String) :
    ((((parseVersionForOrdering value).isSome = true ↔ Readable value) ∧
        (¬ Readable value -> forall other, Readable other ->
          compareVersionStrings value other = .lt)) ↔ ¬ DoublySeparated value) ∧
    (forall left right leftVersion rightVersion,
      Reads left leftVersion -> Reads right rightVersion ->
      exists leftKey rightKey, parseVersionForOrdering left = some leftKey ∧
        parseVersionForOrdering right = some rightKey ∧
        compare leftKey rightKey = pep440Compare leftVersion rightVersion ∧
        (leftKey = rightKey ↔ SameVersion leftVersion rightVersion) ∧
        (pep440Compare leftVersion rightVersion = .lt ->
          compareVersionStrings left right = .lt)) ∧
    (forall left right, compareVersionStrings left right = .eq ↔ left = right) ∧
    (forall left right,
      compareVersionStrings left right = (compareVersionStrings right left).swap) ∧
    (forall left middle right, compareVersionStrings left middle = .lt ->
      compareVersionStrings middle right = .lt -> compareVersionStrings left right = .lt) ∧
    (forall first second : List String, first.Perm second ->
      first.mergeSort versionLE = second.mergeSort versionLE) := by
  refine ⟨?_, ?_, ?_, ?_, ?_, ?_⟩
  · constructor
    · rintro ⟨read, _⟩ doubled
      exact not_readable_of_doublySeparated doubled (read.mp ((isSome_iff value).mpr (Or.inr doubled)))
    · intro single
      have read : (parseVersionForOrdering value).isSome = true ↔ Readable value := by
        rw [isSome_iff]
        exact ⟨fun either => either.resolve_right single, Or.inl⟩
      refine ⟨read, fun unreadable other otherReads => ?_⟩
      have noKey : parseVersionForOrdering value = none := by
        rw [← Option.not_isSome_iff_eq_none, read]
        exact unreadable
      rcases otherReads with ⟨version, reads⟩
      unfold compareVersionStrings
      rw [noKey, parse_of_reads reads]
  · intro left right leftVersion rightVersion leftReads rightReads
    have leftKey := parse_of_reads leftReads
    have rightKey := parse_of_reads rightReads
    refine ⟨_, _, leftKey, rightKey, compare_orderKey _ _, orderKey_eq_iff _ _, fun lower => ?_⟩
    unfold compareVersionStrings
    rw [leftKey, rightKey]
    dsimp only
    rw [compare_orderKey, lower]
    rfl
  · intro left right
    exact Std.LawfulEqCmp.compare_eq_iff_eq
  · intro left right
    exact Std.OrientedCmp.eq_swap
  · intro left middle right
    exact Std.TransCmp.lt_trans
  · intro first second same
    exact mergeSort_versionLE same

/-- A label with two dots after it is no spelling of PEP 440, is read, and so
sorts above a release that is read. -/
theorem reads_two_separators :
    (parseVersionForOrdering "7.0rc..1").isSome = true ∧ ¬ Readable "7.0rc..1" ∧
      Readable "6.0" ∧ compareVersionStrings "7.0rc..1" "6.0" = .gt := by
  have digit : forall character, character.isDigit = true ->
      numberValue [character] < 2 ^ 64 -> IsDigits [character] := by
    intro character isDigit small
    refine ⟨fun other member => ?_, small⟩
    rw [List.mem_singleton.mp member]
    exact isDigit
  have release : forall character, character.isDigit = true ->
      numberValue [character] < 2 ^ 64 ->
      SpellsRelease [character, '.', '0'] [numberValue [character], 0] := by
    intro character isDigit small
    have last := SpellsRelease.last ['0'] (by decide) (digit '0' (by decide) (by decide))
    exact .next [character] ['0'] _ (by simp) (digit character isDigit small) last
  have dots : forall character, character ∈ ['.', '.'] -> isStageSeparator character = true :=
    List.all_eq_true.mp (by decide)
  have suffix : SpellsSuffix ['.', '.'] "rc..1".toList (some ⟨.pre .rc, 1⟩) :=
    .segment [] ['r', 'c'] ['.', '.'] ['1'] (.pre .rc) (by decide)
      (digit '1' (by decide) (by decide)) (by decide) dots
  have doubled : DoublySeparated "7.0rc..1" :=
    ⟨['.', '.'], ⟨[7, 0], some ⟨.pre .rc, 1⟩⟩, by decide, "7.0".toList, "rc..1".toList,
      release '7' (by decide) (by decide), suffix, Or.inl (by decide)⟩
  refine ⟨by decide, not_readable_of_doublySeparated doubled, ?_, by decide⟩
  exact ⟨⟨[6, 0], none⟩, [], by decide, "6.0".toList, [],
    release '6' (by decide) (by decide), .final, Or.inl (by decide)⟩

end Therock
end RocmCli
