import RocmCli.Therock.PackageRelease

namespace RocmCli
namespace Therock

open Text

/-!
# The parser of package releases reads the normalised versions

It reads just the normalised texts, and compares them by PEP 440.
-/

/-! ## Texts -/

theorem bang_not_mem_digits {digits : List Char} (isDigits : IsDigits digits) : '!' ∉ digits :=
  fun bang => absurd (isDigits.digit '!' bang) (by decide)

variable {text : List Char} {release : List Nat}

theorem bang_not_mem_release (spelled : SpellsRelease text release) : '!' ∉ text := by
  induction spelled with
  | last digits nonempty isDigits => exact bang_not_mem_digits isDigits
  | next digits text release nonempty isDigits spelled ih =>
    rw [List.mem_append, List.mem_cons, not_or, not_or]
    exact ⟨bang_not_mem_digits isDigits, by decide, ih⟩

theorem bang_not_mem_pre {pre : Option (PreLabel × Nat)} (spelled : SpellsPre text pre) :
    '!' ∉ text := by
  cases spelled with
  | absent => exact List.not_mem_nil
  | present label digits nonempty isDigits =>
    have labelFree : '!' ∉ label.text := by cases label <;> decide
    rw [List.mem_append, not_or]
    exact ⟨labelFree, bang_not_mem_digits isDigits⟩

theorem bang_not_mem_marked {marker : List Char} {number : Option Nat} (markerFree : '!' ∉ marker)
    (spelled : SpellsMarked marker text number) : '!' ∉ text := by
  cases spelled with
  | absent => exact List.not_mem_nil
  | present digits nonempty isDigits =>
    rw [List.mem_append, not_or]
    exact ⟨markerFree, bang_not_mem_digits isDigits⟩

theorem readEpoch_spells {rest : List Char} {epoch : Nat} (noPlus : '+' ∉ text)
    (read : readEpoch text = some (epoch, rest)) :
    exists spelled, SpellsEpoch spelled epoch ∧ text = spelled ++ rest := by
  unfold readEpoch at read
  cases dropped : text.dropWhile (· != '!') with
  | nil =>
    rw [dropped] at read
    cases read
    exact ⟨[], .absent, rfl⟩
  | cons bang behind =>
    rw [dropped] at read
    have isBang : bang = '!' := by
      have stops := List.head?_dropWhile_not (· != '!') text
      rw [dropped] at stops
      simpa using stops
    have whole : text.takeWhile (· != '!') ++ bang :: behind = text := by
      rw [← dropped, List.takeWhile_append_dropWhile]
    rcases Option.map_eq_some_iff.mp read with ⟨value, parsed, same⟩
    cases same
    have plain : '+' ∉ text.takeWhile (· != '!') := fun plus =>
      noPlus ((List.takeWhile_sublist _).subset plus)
    rcases (parseU64_iff plain epoch).mp parsed with ⟨⟨nonempty, isDigits⟩, rfl⟩
    refine ⟨text.takeWhile (· != '!') ++ ['!'], .present _ nonempty isDigits, ?_⟩
    rw [List.append_assoc, List.singleton_append]
    exact (isBang ▸ whole).symm

theorem readEpoch_of_spells {spelled rest : List Char} {epoch : Nat}
    (spells : SpellsEpoch spelled epoch) (noBang : '!' ∉ rest) :
    readEpoch (spelled ++ rest) = some (epoch, rest) := by
  unfold readEpoch
  cases spells with
  | absent =>
    have dropped : ([] ++ rest).dropWhile (· != '!') = [] :=
      List.dropWhile_eq_nil_iff.mpr fun c isIn =>
        bne_iff_ne.mpr fun bang => noBang (bang ▸ isIn)
    rw [dropped, List.nil_append]
  | present digits nonempty isDigits =>
    have others : forall c, c ∈ digits -> (c != '!') = true := fun c isIn =>
      bne_iff_ne.mpr fun bang => bang_not_mem_digits isDigits (bang ▸ isIn)
    have dropped : (digits ++ ['!'] ++ rest).dropWhile (· != '!') = '!' :: rest := by
      rw [List.append_assoc, List.dropWhile_append_of_pos others]
      rfl
    have taken : (digits ++ ['!'] ++ rest).takeWhile (· != '!') = digits := by
      rw [List.append_assoc, List.takeWhile_append_of_pos others]
      exact List.append_nil _
    have plain : '+' ∉ digits := fun plus => absurd (isDigits.digit '+' plus) (by decide)
    rw [dropped]
    dsimp only
    rw [taken, (parseU64_iff plain _).mpr ⟨⟨nonempty, isDigits⟩, rfl⟩, Option.map_some]

variable {devText : List Char} {dev : Option Nat}

/-- What can follow a pre-release starts with a dot. -/
theorem marked_head {postText : List Char} {post : Option Nat}
    (spellsPost : SpellsMarked postMarker postText post)
    (spellsDev : SpellsMarked devMarker devText dev) :
    (postText ++ devText).head?.all (· == '.') = true := by
  cases spellsPost with
  | present digits nonempty isDigits => rfl
  | absent =>
    cases spellsDev with
    | present digits nonempty isDigits => rfl
    | absent => rfl

/-- What can follow a release does not go on with it. -/
theorem suffix_stops {preText postText : List Char} {pre : Option (PreLabel × Nat)}
    {post : Option Nat} (spellsPre : SpellsPre preText pre)
    (spellsPost : SpellsMarked postMarker postText post)
    (spellsDev : SpellsMarked devMarker devText dev) :
    ¬ Continues (preText ++ (postText ++ devText)) := by
  unfold Continues StartsWithDigit
  cases spellsPre with
  | present label digits nonempty isDigits =>
    cases label <;> simp [PreLabel.text, nextComponent]
  | absent =>
    cases spellsPost with
    | present digits nonempty isDigits => simp [postMarker, nextComponent]
    | absent =>
      cases spellsDev with
      | present digits nonempty isDigits => simp [devMarker, nextComponent]
      | absent => simp [nextComponent]

theorem dev_not_post (spelled : SpellsMarked devMarker devText dev) :
    ¬ StartsWithDigit devText ∧ ¬ postMarker <+: devText := by
  unfold StartsWithDigit
  cases spelled with
  | absent => exact ⟨by decide, by decide⟩
  | present digits nonempty isDigits => exact ⟨by simp [devMarker], by simp [devMarker, postMarker]⟩

/-! ## The parser -/

/-- The parser reads the normalised texts and gives the keys of their versions. -/
theorem packageReleaseKey_iff (value : String) (key : PackageReleaseKey) :
    packageReleaseKey value = some key ↔
      exists version, Normalised value version ∧ key = version.key := by
  have noPlus : '+' ∉ value.toList.takeWhile (· != '+') :=
    fun plus => absurd (List.mem_takeWhile_imp plus) (by decide)
  constructor
  · intro parsed
    unfold packageReleaseKey at parsed
    obtain ⟨⟨epoch, rest⟩, isEpoch, parsed⟩ := Option.bind_eq_some_iff.mp parsed
    obtain ⟨⟨release, rest'⟩, isRelease, parsed⟩ := Option.bind_eq_some_iff.mp parsed
    obtain ⟨⟨pre, afterPre⟩, isPre, parsed⟩ := Option.bind_eq_some_iff.mp parsed
    obtain ⟨⟨post, afterPost⟩, isPost, parsed⟩ := Option.bind_eq_some_iff.mp parsed
    obtain ⟨⟨dev, afterDev⟩, isDev, parsed⟩ := Option.bind_eq_some_iff.mp parsed
    dsimp only at parsed isRelease isPre isPost isDev
    by_cases ends : afterDev.isEmpty = true
    · have isKey := (if_pos ends).symm.trans parsed
      rw [List.isEmpty_iff.mp ends] at isDev
      rcases readEpoch_spells noPlus isEpoch with ⟨epochText, spellsEpoch, whole⟩
      rcases splitRelease_spells isRelease with ⟨releaseText, spellsRelease, rfl, _⟩
      rcases readPre_spells isPre with ⟨preText, label, spellsPre, rfl, rfl⟩
      rcases readMarked_spells isPost with ⟨postText, spellsPost, rfl⟩
      rcases readMarked_spells isDev with ⟨devText, spellsDev, rfl⟩
      rw [List.append_nil] at whole
      exact ⟨⟨epoch, release, label, post, dev⟩, ⟨epochText, releaseText, preText, postText, devText,
        spellsEpoch, spellsRelease, spellsPre, spellsPost, spellsDev, whole⟩,
        (Option.some.inj isKey).symm⟩
    · exact nomatch (if_neg ends).symm.trans parsed
  · rintro ⟨version, ⟨epochText, releaseText, preText, postText, devText, spellsEpoch, spellsRelease,
      spellsPre, spellsPost, spellsDev, whole⟩, rfl⟩
    have noBang : '!' ∉ releaseText ++ (preText ++ (postText ++ devText)) := by
      simp only [List.mem_append, not_or]
      exact ⟨bang_not_mem_release spellsRelease, bang_not_mem_pre spellsPre,
        bang_not_mem_marked (by decide) spellsPost, bang_not_mem_marked (by decide) spellsDev⟩
    have devStops := dev_not_post spellsDev
    have isDev : readMarked devMarker devText = some (version.dev, []) := by
      have read : readMarked devMarker (devText ++ []) = some (version.dev, []) :=
        readMarked_of_spells spellsDev (by unfold StartsWithDigit; decide) (by decide)
      rwa [List.append_nil] at read
    unfold packageReleaseKey
    rw [whole, readEpoch_of_spells spellsEpoch noBang]
    refine Option.bind_eq_some_iff.mpr ⟨_, rfl, ?_⟩
    refine Option.bind_eq_some_iff.mpr ⟨_, splitRelease_of_spells spellsRelease
      (suffix_stops spellsPre spellsPost spellsDev) (Nat.le_refl _), ?_⟩
    refine Option.bind_eq_some_iff.mpr ⟨_, readPre_of_spells spellsPre
      (marked_head spellsPost spellsDev), ?_⟩
    refine Option.bind_eq_some_iff.mpr ⟨_, readMarked_of_spells spellsPost devStops.1 devStops.2, ?_⟩
    exact Option.bind_eq_some_iff.mpr ⟨_, isDev, rfl⟩

/-! ## The order of the keys -/

theorem dropLeadingZeros_eq (nonempty : release ≠ []) :
    dropLeadingZeros release =
      if release.dropWhile (· == 0) = [] then [0] else release.dropWhile (· == 0) := by
  induction release with
  | nil => exact absurd rfl nonempty
  | cons number rest ih =>
    cases rest with
    | nil =>
      by_cases zero : number = 0
      · subst zero
        rfl
      · have kept : [number].dropWhile (· == 0) = [number] :=
          List.dropWhile_cons_of_neg (by simpa using zero)
        rw [kept, if_neg (List.cons_ne_nil _ _)]
        rfl
    | cons next rest =>
      rw [dropLeadingZeros]
      by_cases zero : number = 0
      · subst zero
        rw [if_pos rfl, ih (List.cons_ne_nil _ _)]
        rfl
      · have kept : (number :: next :: rest).dropWhile (· == 0) = number :: next :: rest :=
          List.dropWhile_cons_of_neg (by simpa using zero)
        rw [if_neg zero, kept, if_neg (List.cons_ne_nil _ _)]

theorem popTrailingZeros_eq (nonempty : release ≠ []) :
    popTrailingZeros release =
      if stripTrailingZeros release = [] then [0] else stripTrailingZeros release := by
  unfold popTrailingZeros stripTrailingZeros List.rdropWhile
  rw [dropLeadingZeros_eq (fun empty => nonempty (List.reverse_eq_nil_iff.mp empty))]
  by_cases zeros : release.reverse.dropWhile (· == 0) = []
  · rw [if_pos zeros, if_pos (List.reverse_eq_nil_iff.mpr zeros)]
    rfl
  · rw [if_neg zeros, if_neg fun none => zeros (List.reverse_eq_nil_iff.mp none)]

/-- A release that is not all zeros sorts above the one that is. -/
theorem compare_zero_strip (nonzero : stripTrailingZeros release ≠ []) :
    compare [0] (stripTrailingZeros release) = .lt ∧
      compare (stripTrailingZeros release) [0] = .gt := by
  have below : compare [0] (stripTrailingZeros release) = .lt := by
    cases release with
    | nil => exact absurd rfl nonzero
    | cons number rest =>
      rw [stripTrailingZeros_cons] at nonzero ⊢
      by_cases zeros : number = 0 ∧ stripTrailingZeros rest = []
      · rw [if_pos zeros] at nonzero
        exact absurd rfl nonzero
      · rw [if_neg zeros, List.compare_cons_cons]
        by_cases zero : number = 0
        · have more : stripTrailingZeros rest ≠ [] := fun empty => zeros ⟨zero, empty⟩
          rw [zero, (compare_nil_of_ne_nil more).1]
          rfl
        · rw [Nat.compare_eq_lt.mpr (Nat.pos_of_ne_zero zero)]
          rfl
  refine ⟨below, ?_⟩
  have swapped : compare (stripTrailingZeros release) [0] =
      (compare [0] (stripTrailingZeros release)).swap := Std.OrientedCmp.eq_swap
  rw [swapped, below]
  rfl

theorem compare_popTrailingZeros {left right : List Nat} (leftNonempty : left ≠ [])
    (rightNonempty : right ≠ []) :
    compare (popTrailingZeros left) (popTrailingZeros right) = compareRelease left right := by
  rw [compareRelease_eq, popTrailingZeros_eq leftNonempty, popTrailingZeros_eq rightNonempty]
  by_cases leftZero : stripTrailingZeros left = []
  · rw [if_pos leftZero, leftZero]
    by_cases rightZero : stripTrailingZeros right = []
    · rw [if_pos rightZero, rightZero]
      rfl
    · rw [if_neg rightZero, (compare_zero_strip rightZero).1, (compare_nil_of_ne_nil rightZero).1]
  · rw [if_neg leftZero]
    by_cases rightZero : stripTrailingZeros right = []
    · rw [if_pos rightZero, rightZero, (compare_zero_strip leftZero).2,
        (compare_nil_of_ne_nil leftZero).2]
    · rw [if_neg rightZero]

/-- The phases behind the pre-release. -/
def laterPhases (post dev : Option Nat) : List (Nat × Nat) :=
  (post.map fun number => (5, number)).toList ++
    ((dev.map fun number => (0, number)).toList ++ [(4, 0)])

def devKeyOf (dev : Option Nat) : DevRelease := (dev.map .dev).getD .absent

/-- The fields for the post- and the development release are in the order of the
phases. -/
theorem compare_later (leftPost rightPost leftDev rightDev : Option Nat) :
    (compare leftPost rightPost).then (compare (devKeyOf leftDev) (devKeyOf rightDev)) =
      comparePhases (laterPhases leftPost leftDev) (laterPhases rightPost rightDev) := by
  have devs : compare (devKeyOf leftDev) (devKeyOf rightDev) =
      comparePhases (laterPhases none leftDev) (laterPhases none rightDev) := by
    cases leftDev with
    | none => cases rightDev <;> rfl
    | some leftNumber =>
      cases rightDev with
      | none => rfl
      | some rightNumber =>
        have numbers : comparePhases (laterPhases none (some leftNumber))
            (laterPhases none (some rightNumber)) =
              (compare leftNumber rightNumber).then .eq := rfl
        rw [numbers, Ordering.then_eq]
        exact compare_dev leftNumber rightNumber
  cases leftPost with
  | none =>
    cases rightPost with
    | none => exact devs
    | some right => cases leftDev <;> rfl
  | some left =>
    cases rightPost with
    | none => cases rightDev <;> rfl
    | some right =>
      rw [devs]
      rfl

theorem compare_pre (left right : PackageRelease) :
    (compare left.key.pre right.key.pre).then
      ((compare left.post right.post).then (compare left.key.dev right.key.dev)) =
        comparePhases left.phases right.phases := by
  rcases left with ⟨_, _, leftPre, leftPost, leftDev⟩
  rcases right with ⟨_, _, rightPre, rightPost, rightDev⟩
  have later := compare_later leftPost rightPost leftDev rightDev
  cases leftPre with
  | none =>
    cases rightPre with
    | none =>
      refine Eq.trans ?_ later
      cases leftPost <;> cases rightPost <;> cases leftDev <;> cases rightDev <;> rfl
    | some right =>
      rcases right with ⟨_ | _ | _, number⟩ <;> cases leftPost <;> cases leftDev <;> rfl
  | some left =>
    cases rightPre with
    | none =>
      rcases left with ⟨_ | _ | _, number⟩ <;> cases rightPost <;> cases rightDev <;> rfl
    | some right =>
      have pres : compare (PreRelease.pre left.1.kind left.2) (.pre right.1.kind right.2) =
          comparePair (left.1.kind + 1, left.2) (right.1.kind + 1, right.2) := by
        rw [compare_preRelease]
        rcases left with ⟨_ | _ | _, leftNumber⟩ <;> rcases right with ⟨_ | _ | _, rightNumber⟩ <;> rfl
      exact congrArg₂ Ordering.then pres later

/-- Keys are ordered as their versions. -/
theorem compare_key {left right : PackageRelease} (leftNonempty : left.release ≠ [])
    (rightNonempty : right.release ≠ []) :
    compare left.key right.key = comparePackageReleases left right := by
  unfold comparePackageReleases
  rw [← compare_popTrailingZeros leftNonempty rightNonempty, ← compare_pre]
  rfl

theorem Normalised.nonempty {value : String} {version : PackageRelease}
    (normal : Normalised value version) : version.release ≠ [] := by
  rcases normal with ⟨_, _, _, _, _, _, spelled, _⟩
  intro empty
  rw [empty] at spelled
  cases spelled

end Therock
end RocmCli
