import RocmCli.Therock.PackageReading
import RocmCli.Therock.VersionOrder

namespace RocmCli
namespace Therock

open Text

/-!
# Two parsers, one order

What both parsers read has no epoch and at most one segment, and there their
keys are in the same order.
-/

/-! ## What the first parser makes of a normalised text -/

/-- The characters of a normalised version. -/
def isNormalisedCharacter (c : Char) : Bool := c.isDigit || ".!abrcpostdev".toList.contains c

theorem normalised_plain {c : Char} (normal : isNormalisedCharacter c = true) :
    isWhitespace c = false ∧ c.toLower = c := by
  have ascii : c.toNat < 128 := by
    rcases Bool.or_eq_true_iff.mp normal with digit | listed
    · have bound : c.val ≤ 57 := (Bool.and_eq_true_iff.mp digit).2 |> of_decide_eq_true
      have small : c.toNat ≤ 57 := UInt32.le_iff_toNat_le.mp bound
      omega
    · have table : ".!abrcpostdev".toList.all (fun other => decide (other.toNat < 128)) = true := by
        decide
      exact of_decide_eq_true (List.all_eq_true.mp table c (List.contains_iff_mem.mp listed))
  have plain : isNormalisedCharacter c = true -> isWhitespace c = false ∧ c.toLower = c := by
    apply forall_toNat_lt (fun c => isNormalisedCharacter c = true ->
      isWhitespace c = false ∧ c.toLower = c) _ ascii
    decide +kernel
  exact plain normal

theorem digits_normalised {digits : List Char} (isDigits : IsDigits digits) :
    forall c, c ∈ digits -> isNormalisedCharacter c = true :=
  fun c isIn => Bool.or_eq_true_iff.mpr (.inl (isDigits.digit c isIn))

theorem append_normalised {front back : List Char}
    (first : forall c, c ∈ front -> isNormalisedCharacter c = true)
    (second : forall c, c ∈ back -> isNormalisedCharacter c = true) :
    forall c, c ∈ front ++ back -> isNormalisedCharacter c = true :=
  fun c isIn => (List.mem_append.mp isIn).elim (first c) (second c)

theorem nothing_normalised : forall c, c ∈ ([] : List Char) -> isNormalisedCharacter c = true :=
  fun _ never => absurd never List.not_mem_nil

variable {text : List Char}

theorem release_normalised {release : List Nat} (spelled : SpellsRelease text release) :
    forall c, c ∈ text -> isNormalisedCharacter c = true := by
  intro c isIn
  rcases spelled.characters c isIn with digit | dot
  · exact Bool.or_eq_true_iff.mpr (.inl digit)
  · rw [dot]
    decide

theorem epoch_normalised {epoch : Nat} (spelled : SpellsEpoch text epoch) :
    forall c, c ∈ text -> isNormalisedCharacter c = true := by
  cases spelled with
  | absent => exact nothing_normalised
  | present digits nonempty isDigits =>
    exact append_normalised (digits_normalised isDigits) (List.all_eq_true.mp (by decide))

theorem pre_normalised {pre : Option (PreLabel × Nat)} (spelled : SpellsPre text pre) :
    forall c, c ∈ text -> isNormalisedCharacter c = true := by
  cases spelled with
  | absent => exact nothing_normalised
  | present label digits nonempty isDigits =>
    refine append_normalised (List.all_eq_true.mp ?_) (digits_normalised isDigits)
    cases label <;> decide

theorem marked_normalised {marker : List Char} {number : Option Nat}
    (isMarker : forall c, c ∈ marker -> isNormalisedCharacter c = true)
    (spelled : SpellsMarked marker text number) :
    forall c, c ∈ text -> isNormalisedCharacter c = true := by
  cases spelled with
  | absent => exact nothing_normalised
  | present digits nonempty isDigits =>
    exact append_normalised isMarker (digits_normalised isDigits)

variable {version : PackageRelease}

/-- A normalised text is read as it is. -/
theorem Normalised.publicText {value : String} (normal : Normalised value version) :
    Therock.publicText value = value.toList.takeWhile (· != '+') := by
  rcases normal with ⟨epochText, releaseText, preText, postText, devText, spellsEpoch, spellsRelease,
    spellsPre, spellsPost, spellsDev, whole⟩
  have normalised : forall c, c ∈ value.toList.takeWhile (· != '+') ->
      isNormalisedCharacter c = true := by
    rw [whole]
    exact append_normalised (epoch_normalised spellsEpoch)
      (append_normalised (release_normalised spellsRelease)
        (append_normalised (pre_normalised spellsPre)
          (append_normalised (marked_normalised (List.all_eq_true.mp (by decide)) spellsPost)
            (marked_normalised (List.all_eq_true.mp (by decide)) spellsDev))))
  have plain : plainText value = value.toList.takeWhile (· != '+') := by
    have noSpace : forall c, c ∈ (String.ofList (value.toList.takeWhile (· != '+'))).toList ->
        isWhitespace c = false := by
      intro c isIn
      rw [String.toList_ofList] at isIn
      exact (normalised_plain (normalised c isIn)).1
    unfold plainText
    rw [trim_of_no_space noSpace, String.toList_ofList]
    refine (List.map_congr_left fun c isIn => (normalised_plain (normalised c isIn)).2).trans ?_
    exact List.map_id' _
  have starts : StartsWithDigit (value.toList.takeWhile (· != '+')) := by
    rw [whole]
    generalize version.epoch = epoch at spellsEpoch
    cases spellsEpoch with
    | absent => exact spellsRelease.startsWithDigit _
    | present digits nonempty isDigits =>
      rw [List.append_assoc]
      exact startsWithDigit_of_isDigits isDigits nonempty
  rw [publicText_eq, plain]
  unfold stripVersionPrefix
  split
  · rename_i rest isV
    rw [isV] at starts
    exact absurd starts (by simp [StartsWithDigit])
  · rfl

/-- What the first parser reads of a segment goes on with digits alone. -/
theorem not_spelled_twice {letters digits more between : List Char} {segment : Option Segment}
    (noDigit : forall c, c ∈ letters -> c.isDigit = false) (nonempty : digits ≠ [])
    (isDigits : IsDigits digits) :
    ¬ SpellsSuffix between (letters ++ (digits ++ '.' :: more)) segment := by
  intro spelled
  generalize isSuffix : letters ++ (digits ++ '.' :: more) = suffix at spelled
  have kept : suffix.dropWhile (fun c => !c.isDigit) = digits ++ '.' :: more := by
    rw [← isSuffix, List.dropWhile_append_of_pos fun c isIn => by rw [noDigit c isIn]; rfl]
    cases digits with
    | nil => exact absurd rfl nonempty
    | cons digit digits =>
      refine List.dropWhile_cons_of_neg ?_
      rw [isDigits.digit digit List.mem_cons_self]
      decide
  cases spelled with
  | final =>
    rw [List.dropWhile_nil] at kept
    exact absurd kept.symm (by simp)
  | segment separator label between' digits' kind listed isDigits' one separators =>
    have separatorFree (c : Char) (isSeparator : isStageSeparator c = true) : c.isDigit = false := by
      simp only [isStageSeparator, Bool.or_eq_true, beq_iff_eq] at isSeparator
      rcases isSeparator with (rfl | rfl) | rfl <;> decide
    have labelFree (c : Char) (isIn : c ∈ label) : c.isDigit = false := by
      have letter := List.all_eq_true.mp (stageLabels_letters _ (mem_segmentLabels listed)).2 c isIn
      simp only [isLabelCharacter, Bool.and_eq_true, Bool.not_eq_true'] at letter
      exact letter.2
    have front : forall c, c ∈ separator ++ (label ++ between) -> (!c.isDigit) = true := by
      intro c isIn
      rw [Bool.not_eq_true']
      rcases List.mem_append.mp isIn with inSeparator | later
      · exact separatorFree c (separators c (List.mem_append_left _ inSeparator))
      · rcases List.mem_append.mp later with inLabel | inBetween
        · exact labelFree c inLabel
        · exact separatorFree c (separators c (List.mem_append_right _ inBetween))
    have regroup : separator ++ (label ++ (between ++ digits')) =
        (separator ++ (label ++ between)) ++ digits' := by
      simp only [List.append_assoc]
    rw [regroup, List.dropWhile_append_of_pos front] at kept
    have dot : '.' ∈ digits' :=
      (List.dropWhile_sublist _).subset (kept ▸ List.mem_append_right _ List.mem_cons_self)
    exact absurd (isDigits'.digit '.' dot) (by decide)

/-- The segment of a version that has one at most. -/
def PackageRelease.segment? (version : PackageRelease) : Option Segment :=
  match version.pre, version.post, version.dev with
  | some (label, number), _, _ => some ⟨.pre label, number⟩
  | none, some number, _ => some ⟨.post, number⟩
  | none, none, some number => some ⟨.dev, number⟩
  | none, none, none => none

/-- At most one of the segments is there. -/
def PackageRelease.Single (version : PackageRelease) : Prop :=
  (version.pre = none ∨ version.post = none) ∧ (version.pre = none ∨ version.dev = none) ∧
    (version.post = none ∨ version.dev = none)

theorem PreLabel.listed (label : PreLabel) : (label.text, SegmentKind.pre label) ∈ segmentLabels := by
  cases label <;> decide

theorem noDigit_of_none {letters : List Char} (none : letters.any Char.isDigit = false) :
    forall c, c ∈ letters -> c.isDigit = false :=
  fun c isIn => Bool.eq_false_iff.mpr (List.any_eq_false.mp none c isIn)

theorem PreLabel.no_digit (label : PreLabel) : forall c, c ∈ label.text -> c.isDigit = false :=
  noDigit_of_none (by cases label <;> decide)

theorem marked_nonempty {marker : List Char} {number : Option Nat}
    (spelled : SpellsMarked marker text number) (isMarker : marker.head? = some '.') :
    (text = [] ∧ number = none) ∨ exists more, text = '.' :: more := by
  cases spelled with
  | absent => exact .inl ⟨rfl, rfl⟩
  | present digits nonempty isDigits =>
    rcases List.head?_eq_some_iff.mp isMarker with ⟨rest, rfl⟩
    exact .inr ⟨_, rfl⟩

/-- The first parser reads one segment at most, and that one. -/
theorem suffix_single {preText postText devText : List Char}
    (spellsPre : SpellsPre preText version.pre)
    (spellsPost : SpellsMarked postMarker postText version.post)
    (spellsDev : SpellsMarked devMarker devText version.dev) {between : List Char}
    {segment : Option Segment}
    (spelled : SpellsSuffix between (preText ++ (postText ++ devText)) segment) :
    version.Single ∧ SpellsSuffix [] (preText ++ (postText ++ devText)) version.segment? := by
  rcases version with ⟨epoch, release, pre, post, dev⟩
  have noSeparators : forall c, c ∈ ([] : List Char) ++ [] -> isStageSeparator c = true :=
    fun _ never => absurd never List.not_mem_nil
  have dot : forall c, c ∈ ['.'] ++ [] -> isStageSeparator c = true :=
    List.all_eq_true.mp (by decide)
  cases spellsPre with
  | present label digits nonempty isDigits =>
    have alone : postText ++ devText = [] ∧ post = none ∧ dev = none := by
      rcases marked_nonempty spellsPost rfl with ⟨rfl, rfl⟩ | ⟨more, rfl⟩
      · rcases marked_nonempty spellsDev rfl with ⟨rfl, rfl⟩ | ⟨more, rfl⟩
        · exact ⟨rfl, rfl, rfl⟩
        · rw [List.append_assoc] at spelled
          exact absurd spelled (not_spelled_twice label.no_digit nonempty isDigits)
      · rw [List.append_assoc] at spelled
        exact absurd spelled (not_spelled_twice label.no_digit nonempty isDigits)
    rcases alone with ⟨empty, rfl, rfl⟩
    rw [empty, List.append_nil]
    exact ⟨⟨.inr rfl, .inr rfl, .inl rfl⟩,
      .segment [] label.text [] digits (.pre label) label.listed isDigits (by decide) noSeparators⟩
  | absent =>
    rw [List.nil_append] at spelled ⊢
    cases spellsPost with
    | present digits nonempty isDigits =>
      have alone : devText = [] ∧ dev = none := by
        rcases marked_nonempty spellsDev rfl with both | ⟨more, rfl⟩
        · exact both
        · rw [List.append_assoc] at spelled
          exact absurd spelled (not_spelled_twice (noDigit_of_none (by decide)) nonempty isDigits)
      rcases alone with ⟨rfl, rfl⟩
      rw [List.append_nil]
      exact ⟨⟨.inl rfl, .inl rfl, .inr rfl⟩,
        .segment ['.'] "post".toList [] digits .post (by decide) isDigits (by decide) dot⟩
    | absent =>
      cases spellsDev with
      | absent => exact ⟨⟨.inl rfl, .inl rfl, .inl rfl⟩, .final⟩
      | present digits nonempty isDigits =>
        exact ⟨⟨.inl rfl, .inl rfl, .inl rfl⟩,
          .segment ['.'] "dev".toList [] digits .dev (by decide) isDigits (by decide) dot⟩

/-- What both parsers read has no epoch and one segment at most, which the first
gives the place of. -/
theorem both_read {value : String} {key : VersionOrderKey} (normal : Normalised value version)
    (parsed : parseVersionForOrdering value = some key) :
    version.epoch = 0 ∧ version.Single ∧
      key = (PublicVersion.mk version.release version.segment?).orderKey := by
  have isPublic := normal.publicText
  rcases normal with ⟨epochText, releaseText, preText, postText, devText, spellsEpoch, spellsRelease,
    spellsPre, spellsPost, spellsDev, whole⟩
  rw [whole] at isPublic
  have noPlus : '+' ∉ preText ++ (postText ++ devText) := by
    intro plus
    have kept : '+' ∈ value.toList.takeWhile (· != '+') := by
      rw [whole]
      exact List.mem_append_right _ (List.mem_append_right _ plus)
    exact absurd (List.mem_takeWhile_imp kept) (by decide)
  unfold parseVersionForOrdering at parsed
  dsimp only at parsed
  rw [isPublic] at parsed
  rcases Option.ite_none_left_eq_some.mp parsed with ⟨_, parsed⟩
  rcases Option.ite_none_left_eq_some.mp parsed with ⟨noEpoch, parsed⟩
  generalize version.epoch = epoch at spellsEpoch ⊢
  cases spellsEpoch with
  | present digits nonempty isDigits =>
    refine absurd ?_ noEpoch
    simp
  | absent =>
    rw [List.nil_append, splitRelease_of_spells spellsRelease
      (suffix_stops spellsPre spellsPost spellsDev) (Nat.le_refl _)] at parsed
    dsimp only at parsed
    cases staged : parseVersionStage (preText ++ (postText ++ devText)) with
    | none =>
      rw [staged] at parsed
      cases parsed
    | some stage =>
      rw [staged] at parsed
      rcases (parseVersionStage_iff noPlus stage).mp staged with ⟨between, segment, spelled, _⟩
      rcases suffix_single spellsPre spellsPost spellsDev spelled with ⟨single, spelled'⟩
      have read := (parseVersionStage_iff noPlus (segmentStage version.segment?)).mpr
        ⟨[], _, spelled', rfl⟩
      have same := Option.some.inj (staged.symm.trans read)
      refine ⟨rfl, single, ?_⟩
      rw [← Option.some.inj parsed, same]
      rfl

/-- The phases of a version with that segment. -/
def segmentPhases : Option Segment -> List (Nat × Nat)
  | some ⟨.pre label, number⟩ => [(label.kind + 1, number), (4, 0)]
  | some ⟨.post, number⟩ => [(5, number), (4, 0)]
  | some ⟨.dev, number⟩ => [(0, number), (4, 0)]
  | none => [(4, 0)]

theorem PackageRelease.Single.phases_eq (single : version.Single) :
    version.phases = segmentPhases version.segment? := by
  rcases version with ⟨epoch, release, pre, post, dev⟩
  rcases single with ⟨prePost, preDev, postDev⟩
  cases pre with
  | some pre =>
    rcases prePost with never | rfl
    · cases never
    · rcases preDev with never | rfl
      · cases never
      · rfl
  | none =>
    cases post with
    | some number =>
      rcases postDev with never | rfl
      · cases never
      · rfl
    | none => cases dev <;> rfl

/-- The phases of one segment are in the order of the stages. -/
theorem comparePhases_segments (left right : Option Segment) :
    comparePhases (segmentPhases left) (segmentPhases right) =
      (comparePair (preKey left) (preKey right)).then
        ((comparePair (postKey left) (postKey right)).then
          (comparePair (devKey left) (devKey right))) := by
  rcases left with _ | ⟨(_ | _ | _) | _ | _, leftNumber⟩ <;>
    rcases right with _ | ⟨(_ | _ | _) | _ | _, rightNumber⟩ <;>
    first | rfl | exact Ordering.then_eq

/-- The normalised versions are read and ordered by PEP 440, and wherever both
parsers read, their keys compare alike. -/
theorem two_orders_agree :
    (forall value version, Normalised value version -> (packageReleaseKey value).isSome = true) ∧
    (forall left right leftVersion rightVersion leftKey rightKey,
      Normalised left leftVersion -> Normalised right rightVersion ->
      packageReleaseKey left = some leftKey -> packageReleaseKey right = some rightKey ->
        compare leftKey rightKey = comparePackageReleases leftVersion rightVersion) ∧
    forall left right leftKey rightKey leftOrder rightOrder,
      packageReleaseKey left = some leftKey -> packageReleaseKey right = some rightKey ->
      parseVersionForOrdering left = some leftOrder ->
      parseVersionForOrdering right = some rightOrder ->
        compare leftKey rightKey = compare leftOrder rightOrder := by
  refine ⟨?_, ?_, ?_⟩
  · intro value version normal
    rw [(packageReleaseKey_iff value _).mpr ⟨version, normal, rfl⟩]
    rfl
  · intro left right leftVersion rightVersion leftKey rightKey isLeft isRight leftRead rightRead
    have leftSame := (packageReleaseKey_iff left _).mpr ⟨leftVersion, isLeft, rfl⟩
    have rightSame := (packageReleaseKey_iff right _).mpr ⟨rightVersion, isRight, rfl⟩
    rw [← Option.some.inj (leftSame.symm.trans leftRead),
      ← Option.some.inj (rightSame.symm.trans rightRead)]
    exact compare_key isLeft.nonempty isRight.nonempty
  · intro left right leftKey rightKey leftOrder rightOrder leftRead rightRead leftParsed rightParsed
    rcases (packageReleaseKey_iff left _).mp leftRead with ⟨leftVersion, isLeft, rfl⟩
    rcases (packageReleaseKey_iff right _).mp rightRead with ⟨rightVersion, isRight, rfl⟩
    rcases both_read isLeft leftParsed with ⟨leftEpoch, leftSingle, rfl⟩
    rcases both_read isRight rightParsed with ⟨rightEpoch, rightSingle, rfl⟩
    rw [compare_key isLeft.nonempty isRight.nonempty, compare_orderKey]
    unfold comparePackageReleases pep440Compare
    rw [leftEpoch, rightEpoch, leftSingle.phases_eq, rightSingle.phases_eq, comparePhases_segments]
    rfl

end Therock
end RocmCli
