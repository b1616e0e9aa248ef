import RocmCli.Therock.PublicVersion

namespace RocmCli
namespace Therock

open Text

/-!
# What the parser reads

The parser reads exactly the texts of the grammar, with any number of
separators between a label and its number.
-/

/-! ## Numbers -/

variable {text : List Char}

theorem parseU64_iff (noPlus : '+' ∉ text) (number : Nat) :
    parseU64 (String.ofList text) = some number ↔
      (text ≠ [] ∧ IsDigits text) ∧ number = numberValue text := by
  have unfolded : parseU64 (String.ofList text) =
      if text.isEmpty || !text.all Char.isDigit then none
      else if numberValue text ≤ maxU64 then some (numberValue text) else none := by
    unfold parseU64
    rw [String.toList_ofList]
    split
    · exact absurd List.mem_cons_self noPlus
    · rfl
  have bound : numberValue text ≤ maxU64 ↔ numberValue text < 2 ^ 64 := by
    unfold maxU64
    omega
  rw [unfolded]
  by_cases readable : text ≠ [] ∧ text.all Char.isDigit = true
  · have digits := List.all_eq_true.mp readable.2
    rw [if_neg (by simpa using readable)]
    by_cases small : numberValue text < 2 ^ 64
    · rw [if_pos (bound.mpr small), Option.some.injEq]
      exact ⟨fun same => ⟨⟨readable.1, digits, small⟩, same.symm⟩, fun both => both.2.symm⟩
    · rw [if_neg (fun le => small (bound.mp le))]
      exact ⟨nofun, fun both => absurd both.1.2.small small⟩
  · rw [if_pos (by simpa [Classical.or_iff_not_imp_left] using readable)]
    constructor
    · exact nofun
    · rintro ⟨⟨nonempty, digits⟩, _⟩
      exact absurd ⟨nonempty, List.all_eq_true.mpr digits.digit⟩ readable

/-- The next character is a digit. -/
def StartsWithDigit (text : List Char) : Prop := text.head?.any Char.isDigit = true

variable {digits rest : List Char}

theorem takeWhile_isDigit
    (isDigits : forall character, character ∈ digits -> character.isDigit = true)
    (ends : ¬ StartsWithDigit rest) : (digits ++ rest).takeWhile Char.isDigit = digits := by
  rw [List.takeWhile_append_of_pos isDigits]
  rcases rest with _ | ⟨head, tail⟩
  · rw [List.takeWhile_nil, List.append_nil]
  · rw [List.takeWhile_cons_of_neg (by simpa [StartsWithDigit] using ends), List.append_nil]

theorem splitLeadingNumber_iff {number : Nat} :
    splitLeadingNumber text = some (number, rest) ↔
      exists digits, (digits ≠ [] ∧ IsDigits digits) ∧ number = numberValue digits ∧
        text = digits ++ rest ∧ ¬ StartsWithDigit rest := by
  have plain : forall digits : List Char,
      (forall character, character ∈ digits -> character.isDigit = true) -> '+' ∉ digits := by
    intro digits isDigits plus
    exact absurd (isDigits '+' plus) (by decide)
  have run : forall character, character ∈ text.takeWhile Char.isDigit ->
      character.isDigit = true := fun _ member => List.mem_takeWhile_imp member
  constructor
  · intro split
    unfold splitLeadingNumber at split
    dsimp only at split
    by_cases empty : (text.takeWhile Char.isDigit).isEmpty = true
    · rw [if_pos empty] at split
      exact (nomatch split)
    · rw [if_neg empty] at split
      rcases parsed : parseU64 (String.ofList (text.takeWhile Char.isDigit)) with _ | value
      · rw [parsed] at split
        exact (nomatch split)
      · rw [parsed, Option.some.injEq, Prod.mk.injEq] at split
        have read := (parseU64_iff (plain _ run) value).mp parsed
        have rest_eq : rest = text.dropWhile Char.isDigit := by
          have dropped : (text.takeWhile Char.isDigit ++ text.dropWhile Char.isDigit).drop
              (text.takeWhile Char.isDigit).length = text.dropWhile Char.isDigit := List.drop_left
          rw [List.takeWhile_append_dropWhile] at dropped
          exact split.2.symm.trans dropped
        refine ⟨text.takeWhile Char.isDigit, read.1, split.1 ▸ read.2, ?_, ?_⟩
        · rw [rest_eq, List.takeWhile_append_dropWhile]
        · have stops := List.head?_dropWhile_not Char.isDigit text
          rw [rest_eq]
          unfold StartsWithDigit
          rcases found : (text.dropWhile Char.isDigit).head? with _ | head
          · decide
          · rw [found] at stops
            simpa using stops
  · rintro ⟨digits, ⟨nonempty, isDigits⟩, value, whole, ends⟩
    have taken : text.takeWhile Char.isDigit = digits := by
      rw [whole, takeWhile_isDigit isDigits.digit ends]
    have parsed := (parseU64_iff (plain _ isDigits.digit) (numberValue digits)).mpr
      ⟨⟨nonempty, isDigits⟩, rfl⟩
    unfold splitLeadingNumber
    dsimp only
    rw [taken, if_neg (by simpa using nonempty), parsed, value, whole, List.drop_left]

/-! ## The release -/

/-- The text goes on with a digit, or with a dot and a digit. -/
def Continues (text : List Char) : Prop :=
  StartsWithDigit text ∨ (nextComponent text).isSome = true

theorem nextComponent_iff {next : List Char} :
    nextComponent text = some next ↔ text = '.' :: next ∧ StartsWithDigit next := by
  unfold nextComponent StartsWithDigit
  split
  · rename_i rest
    by_cases digit : rest.head?.any Char.isDigit = true
    · rw [if_pos digit, Option.some.injEq]
      constructor
      · intro same
        exact ⟨by rw [same], same ▸ digit⟩
      · intro both
        exact (List.cons.inj both.1).2
    · rw [if_neg digit]
      constructor
      · exact nofun
      · intro both
        rw [(List.cons.inj both.1).2] at digit
        exact absurd both.2 digit
  · rename_i other
    constructor
    · exact nofun
    · intro both
      exact absurd both.1 (other next)

theorem startsWithDigit_of_isDigits (isDigits : IsDigits digits) (nonempty : digits ≠ []) :
    StartsWithDigit (digits ++ rest) := by
  rcases digits with _ | ⟨head, tail⟩
  · exact absurd rfl nonempty
  · exact isDigits.digit head List.mem_cons_self

variable {release : List Nat}

theorem SpellsRelease.startsWithDigit (spelled : SpellsRelease text release) (rest : List Char) :
    StartsWithDigit (text ++ rest) := by
  cases spelled with
  | last digits nonempty isDigits => exact startsWithDigit_of_isDigits isDigits nonempty
  | next digits text release nonempty isDigits spelled =>
      rw [List.append_assoc]
      exact startsWithDigit_of_isDigits isDigits nonempty

theorem splitRelease_spells {fuel : Nat} (split : splitRelease fuel text = some (release, rest)) :
    exists releaseText, SpellsRelease releaseText release ∧ text = releaseText ++ rest ∧
      ¬ Continues rest := by
  induction fuel generalizing text release with
  | zero => exact (nomatch split)
  | succ fuel ih =>
      unfold splitRelease at split
      rcases first : splitLeadingNumber text with _ | ⟨number, tail⟩
      · rw [first] at split
        exact (nomatch split)
      · rw [first] at split
        dsimp only at split
        rcases splitLeadingNumber_iff.mp first with ⟨digits, isNumber, value, whole, ends⟩
        rcases more : nextComponent tail with _ | next
        · rw [more, Option.some.injEq, Prod.mk.injEq] at split
          rw [← split.1, ← split.2, value]
          refine ⟨digits, .last digits isNumber.1 isNumber.2, whole, ?_⟩
          rintro (digit | component)
          · exact ends digit
          · rw [more] at component
            exact absurd component (by decide)
        · rw [more] at split
          dsimp only at split
          rcases later : splitRelease fuel next with _ | ⟨numbers, last⟩
          · rw [later] at split
            exact (nomatch split)
          · rw [later, Option.some.injEq, Prod.mk.injEq] at split
            rw [split.2] at later
            rcases ih later with ⟨releaseText, spelled, nextText, stops⟩
            rw [← split.1, value]
            refine ⟨digits ++ '.' :: releaseText, .next digits releaseText numbers isNumber.1
              isNumber.2 spelled, ?_, stops⟩
            rw [whole, (nextComponent_iff.mp more).1, nextText, List.append_assoc, List.cons_append]

/-- The loop has fuel enough for every text. -/
theorem splitRelease_of_spells {releaseText : List Char}
    (spelled : SpellsRelease releaseText release) (stops : ¬ Continues rest) {fuel : Nat}
    (enough : (releaseText ++ rest).length ≤ fuel) :
    splitRelease fuel (releaseText ++ rest) = some (release, rest) := by
  induction spelled generalizing fuel with
  | last digits nonempty isDigits =>
      have pos := List.length_pos_of_ne_nil nonempty
      rcases fuel with _ | fuel
      · rw [List.length_append] at enough
        omega
      · have first : splitLeadingNumber (digits ++ rest) = some (numberValue digits, rest) :=
          splitLeadingNumber_iff.mpr ⟨digits, ⟨nonempty, isDigits⟩, rfl, rfl,
            fun digit => stops (Or.inl digit)⟩
        have last : nextComponent rest = none := by
          rcases component : nextComponent rest with _ | next
          · rfl
          · exact absurd (Or.inr (by rw [component]; rfl)) stops
        unfold splitRelease
        rw [first]
        dsimp only
        rw [last]
  | next digits text release nonempty isDigits spelled ih =>
      have pos := List.length_pos_of_ne_nil nonempty
      have regroup : digits ++ '.' :: text ++ rest = digits ++ '.' :: (text ++ rest) := by simp
      rw [regroup] at enough ⊢
      rw [List.length_append, List.length_cons] at enough
      rcases fuel with _ | fuel
      · omega
      · have notDigit : ¬ StartsWithDigit ('.' :: (text ++ rest)) := by
          unfold StartsWithDigit
          simp
        have first : splitLeadingNumber (digits ++ '.' :: (text ++ rest)) =
            some (numberValue digits, '.' :: (text ++ rest)) :=
          splitLeadingNumber_iff.mpr ⟨digits, ⟨nonempty, isDigits⟩, rfl, rfl, notDigit⟩
        have later := ih (Nat.le_of_add_le_add_right (by omega : _ + 1 ≤ fuel + 1))
        unfold splitRelease
        rw [first]
        dsimp only
        rw [nextComponent_iff.mpr ⟨rfl, spelled.startsWithDigit rest⟩]
        dsimp only
        rw [later]

/-! ## The stage -/

/-- A character that can stand in a label: no separator and no digit. -/
def isLabelCharacter (character : Char) : Bool :=
  !isStageSeparator character && !character.isDigit

variable {label : List Char}

variable {tail : List Char} {stage : VersionStage}

/-- The labels are told apart by what the text starts with, since no label
starts an earlier one. -/
theorem findSome?_stripStart {entries : List (List Char × VersionStage)}
    (apart : entries.Pairwise fun earlier later => ¬ earlier.1 <+: later.1)
    (letters : forall entry, entry ∈ entries -> entry.1.all isLabelCharacter = true)
    (listed : (label, stage) ∈ entries) (ends : tail.head?.any isLabelCharacter = false) :
    (entries.findSome? fun entry =>
      (stripStart entry.1 (label ++ tail)).map fun number => (entry.2, number)) =
        some (stage, tail) := by
  induction entries with
  | nil => exact absurd listed List.not_mem_nil
  | cons first others ih =>
      rw [List.findSome?_cons]
      rcases List.mem_cons.mp listed with same | later
      · have found : stripStart first.1 (label ++ tail) = some tail := by
          rw [← same]
          unfold stripStart
          rw [if_pos (by simp), List.drop_left]
        rw [found, ← same]
        rfl
      · have passed : stripStart first.1 (label ++ tail) = none := by
          unfold stripStart
          apply if_neg
          intro starts
          have start := List.isPrefixOf_iff_prefix.mp starts
          have notStart := (List.pairwise_cons.mp apart).1 _ later
          rcases List.prefix_or_prefix_of_prefix start (List.prefix_append label tail) with
            shorter | ⟨more, longer⟩
          · exact notStart shorter
          · rcases more with _ | ⟨head, rest⟩
            · rw [List.append_nil] at longer
              exact notStart (longer ▸ List.prefix_rfl)
            · have letter : isLabelCharacter head = true := by
                apply List.all_eq_true.mp (letters first List.mem_cons_self)
                rw [← longer]
                simp
              rw [← longer, List.prefix_append_right_inj] at start
              rcases start with ⟨_, same⟩
              rw [← same] at ends
              simp [letter] at ends
        rw [passed]
        exact ih (List.pairwise_cons.mp apart).2
          (fun entry member => letters entry (List.mem_cons_of_mem first member)) later

theorem stageLabels_apart :
    stageLabels.Pairwise fun earlier later => ¬ earlier.1 <+: later.1 := by decide

theorem stageLabels_letters (entry : List Char × VersionStage) (member : entry ∈ stageLabels) :
    entry.1 ≠ [] ∧ entry.1.all isLabelCharacter = true := by
  revert entry
  decide

variable {kind : SegmentKind}

/-- Both tables list the same labels. -/
theorem mem_segmentLabels (listed : (label, kind) ∈ segmentLabels) :
    (label, kind.stage) ∈ stageLabels := by
  have table : forall entry, entry ∈ segmentLabels -> (entry.1, entry.2.stage) ∈ stageLabels := by
    decide
  exact table _ listed

theorem mem_stageLabels (listed : (label, stage) ∈ stageLabels) :
    exists kind : SegmentKind, kind.stage = stage ∧ (label, kind) ∈ segmentLabels := by
  have table : forall entry, entry ∈ stageLabels -> exists other, other ∈ segmentLabels ∧
      other.1 = entry.1 ∧ other.2.stage = entry.2 := by decide
  rcases table _ listed with ⟨⟨other, kind⟩, member, same, sameStage⟩
  dsimp only at same
  rw [← same]
  exact ⟨kind, sameStage, member⟩

theorem stageLabel_of_listed (listed : (label, kind) ∈ segmentLabels)
    (ends : tail.head?.any isLabelCharacter = false) :
    stageLabel (label ++ tail) = some (kind.stage, tail) :=
  findSome?_stripStart stageLabels_apart (fun entry member => (stageLabels_letters entry member).2)
    (mem_segmentLabels listed) ends

theorem stageLabel_listed (found : stageLabel text = some (stage, tail)) :
    exists label kind, (label, kind) ∈ segmentLabels ∧ kind.stage = stage ∧
      text = label ++ tail := by
  rcases List.exists_of_findSome?_eq_some found with ⟨⟨label, entryStage⟩, member, stripped⟩
  unfold stripStart at stripped
  by_cases starts : label.isPrefixOf text = true
  · rw [if_pos starts, Option.map_some, Option.some.injEq, Prod.mk.injEq] at stripped
    rcases mem_stageLabels member with ⟨kind, sameStage, listed⟩
    rcases List.isPrefixOf_iff_prefix.mp starts with ⟨rest, whole⟩
    refine ⟨label, kind, listed, sameStage.trans stripped.1, ?_⟩
    rw [← stripped.2, ← whole, List.drop_left]
  · rw [if_neg starts] at stripped
    exact (nomatch stripped)

/-- At most one separator is stripped, and only from the front. -/
theorem stripStageSeparator_eq (text : List Char) :
    exists separator, separator.length ≤ 1 ∧
      (forall character, character ∈ separator -> isStageSeparator character = true) ∧
      text = separator ++ stripStageSeparator text := by
  rcases text with _ | ⟨head, tail⟩
  · exact ⟨[], Nat.zero_le 1, fun _ member => absurd member List.not_mem_nil, rfl⟩
  · unfold stripStageSeparator
    dsimp only
    by_cases isSeparator : isStageSeparator head = true
    · rw [if_pos isSeparator]
      refine ⟨[head], Nat.le_refl 1, fun character member => ?_, rfl⟩
      rw [List.mem_singleton.mp member]
      exact isSeparator
    · rw [if_neg isSeparator]
      exact ⟨[], Nat.zero_le 1, fun _ member => absurd member List.not_mem_nil, rfl⟩

theorem stripStageSeparator_append {separator : List Char} (one : separator.length ≤ 1)
    (separators : forall character, character ∈ separator -> isStageSeparator character = true)
    (listed : (label, kind) ∈ segmentLabels) :
    stripStageSeparator (separator ++ (label ++ tail)) = label ++ tail := by
  rcases stageLabels_letters _ (mem_segmentLabels listed) with ⟨nonempty, letters⟩
  rcases separator with _ | ⟨head, _ | ⟨second, more⟩⟩
  · rcases label with _ | ⟨letter, letterTail⟩
    · exact absurd rfl nonempty
    · have isLetter := List.all_eq_true.mp letters letter List.mem_cons_self
      have notSeparator : isStageSeparator letter = false := by
        simp only [isLabelCharacter, Bool.and_eq_true, Bool.not_eq_true'] at isLetter
        exact isLetter.1
      exact if_neg (by rw [notSeparator]; decide)
  · exact if_pos (separators head List.mem_cons_self)
  · simp at one

section

variable {between : List Char}
  (separators : forall character, character ∈ between -> isStageSeparator character = true)
  (isDigits : IsDigits digits)
include separators isDigits

theorem head_of_digits : (between ++ digits).head?.any isLabelCharacter = false := by
  rcases whole : between ++ digits with _ | ⟨head, tail⟩
  · rfl
  · have member : head ∈ between ++ digits := by
      rw [whole]
      exact List.mem_cons_self
    show isLabelCharacter head = false
    unfold isLabelCharacter
    rcases List.mem_append.mp member with inside | inside
    · rw [separators head inside]
      rfl
    · rw [isDigits.digit head inside, Bool.not_true, Bool.and_false]

theorem dropWhile_between :
    (between ++ digits).takeWhile isStageSeparator = between ∧
      (between ++ digits).dropWhile isStageSeparator = digits := by
  have stops : digits.takeWhile isStageSeparator = [] := by
    rcases digits with _ | ⟨head, tail⟩
    · rfl
    · have digit := isDigits.digit head List.mem_cons_self
      have notSeparator : ¬ isStageSeparator head = true := by
        intro separator
        simp only [isStageSeparator, Bool.or_eq_true, beq_iff_eq] at separator
        rcases separator with (same | same) | same <;> rw [same] at digit <;>
          exact absurd digit (by decide)
      exact List.takeWhile_cons_of_neg notSeparator
  have front : (between ++ digits).takeWhile isStageSeparator = between := by
    rw [List.takeWhile_append_of_pos separators, stops, List.append_nil]
  refine ⟨front, ?_⟩
  have split : (between ++ digits).takeWhile isStageSeparator ++
      (between ++ digits).dropWhile isStageSeparator = between ++ digits :=
    List.takeWhile_append_dropWhile
  rw [front] at split
  exact List.append_cancel_left split

end

/-- The stage parser reads exactly the suffixes of the grammar. -/
theorem parseVersionStage_iff {suffix : List Char} (noPlus : '+' ∉ suffix)
    (read : VersionStage × Nat) :
    parseVersionStage suffix = some read ↔
      exists between segment, SpellsSuffix between suffix segment ∧ read = segmentStage segment := by
  constructor
  · intro parsed
    unfold parseVersionStage at parsed
    by_cases empty : suffix = []
    · rw [empty] at parsed ⊢
      exact ⟨[], none, .final, (Option.some.inj parsed).symm⟩
    · rw [if_neg (by simpa using empty)] at parsed
      rcases found : stageLabel (stripStageSeparator suffix) with _ | ⟨stage, number⟩
      · rw [found] at parsed
        exact (nomatch parsed)
      · rw [found] at parsed
        dsimp only at parsed
        rcases stageLabel_listed found with ⟨label, kind, listed, sameStage, rest⟩
        rcases stripStageSeparator_eq suffix with ⟨separator, one, separators, whole⟩
        have split : number.takeWhile isStageSeparator ++ number.dropWhile isStageSeparator =
            number := List.takeWhile_append_dropWhile
        have between : forall character, character ∈ separator ++ number.takeWhile isStageSeparator ->
            isStageSeparator character = true := by
          intro character member
          rcases List.mem_append.mp member with inside | inside
          · exact separators character inside
          · exact List.mem_takeWhile_imp inside
        have regroup : suffix = separator ++ (label ++ (number.takeWhile isStageSeparator ++
            number.dropWhile isStageSeparator)) := by
          rw [split, ← rest]
          exact whole
        by_cases omitted : number.dropWhile isStageSeparator = []
        · have none : IsDigits [] := ⟨fun _ member => absurd member List.not_mem_nil, by decide⟩
          rw [omitted] at parsed regroup
          have spelled := SpellsSuffix.segment separator label (number.takeWhile isStageSeparator)
            [] kind listed none one between
          rw [← regroup] at spelled
          refine ⟨_, _, spelled, ?_⟩
          rw [← Option.some.inj parsed, ← sameStage]
          rfl
        · rw [if_neg (by simpa using omitted)] at parsed
          have plain : '+' ∉ number.dropWhile isStageSeparator := by
            intro plus
            apply noPlus
            rw [regroup]
            exact List.mem_append_right _ (List.mem_append_right _ (List.mem_append_right _ plus))
          rcases value : parseU64 (String.ofList (number.dropWhile isStageSeparator)) with _ | read
          · rw [value] at parsed
            exact (nomatch parsed)
          · rw [value] at parsed
            rcases (parseU64_iff plain read).mp value with ⟨⟨_, isDigits⟩, same⟩
            have spelled := SpellsSuffix.segment separator label
              (number.takeWhile isStageSeparator) _ kind listed isDigits one between
            rw [← regroup] at spelled
            refine ⟨_, _, spelled, ?_⟩
            rw [← Option.some.inj parsed, ← sameStage, same]
            rfl
  · rintro ⟨between, segment, spelled, same⟩
    rw [same]
    cases spelled with
    | final => rfl
    | segment separator label between digits kind listed isDigits one separators =>
        have front : forall character, character ∈ separator -> isStageSeparator character = true :=
          fun character member => separators character (List.mem_append_left _ member)
        have middle : forall character, character ∈ between -> isStageSeparator character = true :=
          fun character member => separators character (List.mem_append_right _ member)
        have nonempty : (separator ++ (label ++ (between ++ digits))).isEmpty = false := by
          have labelNonempty := (stageLabels_letters _ (mem_segmentLabels listed)).1
          simp only [List.isEmpty_eq_false_iff]
          simp [labelNonempty]
        unfold parseVersionStage
        rw [nonempty, stripStageSeparator_append one front listed,
          stageLabel_of_listed listed (head_of_digits middle isDigits)]
        dsimp only
        rw [(dropWhile_between middle isDigits).2]
        by_cases omitted : digits = []
        · rw [omitted]
          rfl
        · have plain : '+' ∉ digits := fun plus => absurd (isDigits.digit '+' plus) (by decide)
          rw [if_neg (by decide), if_neg (by simpa using omitted),
            (parseU64_iff plain (numberValue digits)).mpr ⟨⟨omitted, isDigits⟩, rfl⟩]
          rfl

end Therock
end RocmCli
