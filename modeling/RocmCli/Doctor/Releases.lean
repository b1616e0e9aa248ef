import RocmCli.Doctor.Report

namespace RocmCli
namespace Doctor

open Text (trim trim_of_no_space)

/-!
# Numeric releases

What is kept of a version is digits, or digits, a dot and digits; both are
what the cutters make of themselves, which is what lets the reader check a
report by running them again.
-/

variable {value : String}

theorem isNumeric_iff :
    isNumeric value = true ↔ value ≠ "" ∧ forall character, character ∈ value.toList ->
      character.isDigit = true := by
  rw [isNumeric, Bool.and_eq_true, List.all_eq_true, decide_eq_true_iff]

variable {character : Char}

theorem not_space_of_isDigit (digit : character.isDigit = true) :
    Text.isWhitespace character = false := by
  have all : forall code : Fin 128, (Char.ofNat code).isDigit = true ->
      Text.isWhitespace (Char.ofNat code) = false := by decide
  have small : character.toNat < 128 := by
    rw [Char.isDigit, Bool.and_eq_true, decide_eq_true_iff, decide_eq_true_iff] at digit
    exact Nat.lt_of_le_of_lt (UInt32.le_iff_toNat_le.mp digit.2) (by decide)
  have known := all ⟨character.toNat, small⟩
  rw [Char.ofNat_toNat] at known
  exact known digit

theorem not_separator_of_isDigit (digit : character.isDigit = true) :
    isReleaseSeparator character = false := by
  refine Bool.eq_false_iff.mpr fun separator => ?_
  rw [isReleaseSeparator, List.contains_iff_mem] at separator
  simp only [List.mem_cons, List.not_mem_nil, or_false] at separator
  rcases separator with rfl | rfl | rfl | rfl <;> exact nomatch digit

theorem not_majorSeparator_of_isDigit (digit : character.isDigit = true) :
    isMajorSeparator character = false := by
  refine Bool.eq_false_iff.mpr fun separator => ?_
  rw [isMajorSeparator, List.contains_iff_mem] at separator
  simp only [List.mem_cons, List.not_mem_nil, or_false] at separator
  rcases separator with rfl | rfl <;> exact nomatch digit

theorem components_of_numeric {isSeparator : Char -> Bool} (numeric : isNumeric value = true)
    (apart : forall character, character.isDigit = true -> isSeparator character = false) :
    components isSeparator value = [value] := by
  have digits := (isNumeric_iff.mp numeric).2
  rw [components, List.splitOnP_eq_singleton fun character member =>
    apart character (digits character member), List.map_singleton, String.ofList_toList]

theorem components_of_pair {isSeparator : Char -> Bool} {major minor : String}
    (majorNumeric : isNumeric major = true) (minorNumeric : isNumeric minor = true)
    (apart : forall character, character.isDigit = true -> isSeparator character = false)
    (dot : isSeparator '.' = true) :
    components isSeparator (major ++ "." ++ minor) = [major, minor] := by
  have majorDigits := (isNumeric_iff.mp majorNumeric).2
  have minorOnly := components_of_numeric minorNumeric apart
  unfold components at minorOnly ⊢
  have whole : (major ++ "." ++ minor).toList = major.toList ++ '.' :: minor.toList := by
    rw [String.toList_append, String.toList_append, List.append_assoc]
    rfl
  rw [whole, List.splitOnP_append_cons_of_forall_mem (fun character member =>
    apart character (majorDigits character member)) '.' dot, List.map_cons, minorOnly,
    String.ofList_toList]

/-! ## Major and minor -/

theorem majorMinor_numeric (numeric : isNumeric value = true) :
    majorMinor value = value := by
  have digits := (isNumeric_iff.mp numeric).2
  have trimmed : trim value = value :=
    trim_of_no_space fun character member => not_space_of_isDigit (digits character member)
  unfold majorMinor
  rw [trimmed, components_of_numeric numeric fun _ => not_separator_of_isDigit]
  exact if_pos numeric

theorem majorMinor_pair {major minor : String} (majorNumeric : isNumeric major = true)
    (minorNumeric : isNumeric minor = true) :
    majorMinor (major ++ "." ++ minor) = major ++ "." ++ minor := by
  have majorDigits := (isNumeric_iff.mp majorNumeric).2
  have minorDigits := (isNumeric_iff.mp minorNumeric).2
  have trimmed : trim (major ++ "." ++ minor) = major ++ "." ++ minor := by
    refine trim_of_no_space fun character member => ?_
    rw [String.toList_append, String.toList_append, List.mem_append, List.mem_append] at member
    rcases member with (inMajor | isDot) | inMinor
    · exact not_space_of_isDigit (majorDigits character inMajor)
    · rw [List.mem_singleton.mp isDot]
      decide
    · exact not_space_of_isDigit (minorDigits character inMinor)
  unfold majorMinor
  rw [trimmed, components_of_pair majorNumeric minorNumeric
    (fun _ => not_separator_of_isDigit) rfl]
  dsimp only
  rw [if_pos majorNumeric, if_pos minorNumeric]

/-- What is kept of a version: nothing, digits, or digits around a dot. -/
inductive Kept : String -> Prop where
  | nothing : Kept ""
  | major {major : String} (numeric : isNumeric major = true) : Kept major
  | pair {major minor : String} (majorNumeric : isNumeric major = true)
      (minorNumeric : isNumeric minor = true) : Kept (major ++ "." ++ minor)

theorem kept_majorMinor (version : String) : Kept (majorMinor version) := by
  unfold majorMinor
  split
  · exact .nothing
  · next major rest _ =>
      split
      · next majorNumeric =>
          split
          · next minor _ =>
              split
              · next minorNumeric => exact .pair majorNumeric minorNumeric
              · exact .major majorNumeric
          · exact .major majorNumeric
      · exact .nothing

theorem majorMinor_of_kept {version : String} (kept : Kept version) :
    majorMinor version = version := by
  cases kept with
  | nothing => decide
  | major numeric => exact majorMinor_numeric numeric
  | pair majorNumeric minorNumeric => exact majorMinor_pair majorNumeric minorNumeric

theorem majorMinor_idem (version : String) : majorMinor (majorMinor version) = majorMinor version :=
  majorMinor_of_kept (kept_majorMinor version)

/-! ## The major alone -/

theorem leadingDigits_numeric (numeric : isNumeric value = true) :
    leadingDigits value = value := by
  unfold leadingDigits
  rw [components_of_numeric numeric fun _ => not_majorSeparator_of_isDigit]
  exact if_pos numeric

/-- What is kept of a major version is digits, or nothing. -/
theorem leadingDigits_cases (version : String) :
    leadingDigits version = "" ∨ isNumeric (leadingDigits version) = true := by
  unfold leadingDigits
  split
  · split
    · next numeric => exact Or.inr numeric
    · exact Or.inl rfl
  · exact Or.inl rfl

theorem leadingDigits_idem (version : String) :
    leadingDigits (leadingDigits version) = leadingDigits version := by
  rcases leadingDigits_cases version with nothing | numeric
  · rw [nothing]
    decide
  · exact leadingDigits_numeric numeric

end Doctor
end RocmCli
