import RocmCli.Support.Text

namespace RocmCli
namespace Text

/-!
# Reading bytes as text, byte by byte

Whatever stands around an ASCII byte, it is read as the character it is, and no
other bytes are.
-/

/-- The characters that bytes are read as. -/
def lossyChars (bytes : List UInt8) : List Char := (fromUtf8Lossy bytes).toList

theorem utf8Trail_le (count : Nat) (low high : UInt8) (bytes : List UInt8) :
    utf8Trail count low high bytes ≤ bytes.length := by
  induction bytes generalizing count low high with
  | nil => cases count <;> exact Nat.le_refl 0
  | cons byte bytes ih =>
    cases count with
    | zero => exact Nat.zero_le _
    | succ count =>
      have rest := ih count 0x80 0xbf
      rw [utf8Trail, List.length_cons]
      split <;> omega

theorem utf8Step_length (lead : UInt8) (rest : List UInt8) :
    (utf8Step lead rest).2 - 1 ≤ rest.length := by
  unfold utf8Step
  split
  · exact Nat.zero_le _
  · split
    · exact Nat.zero_le _
    next length low high _ =>
      have trail := utf8Trail_le (length - 1) low high rest
      dsimp only
      split
      next whole => exact whole ▸ trail
      next => exact (Nat.add_sub_cancel_left 1 _).symm ▸ trail

variable {bytes : List UInt8}

/-- More steps than there are bytes change nothing. -/
theorem utf8Chars_of_le {fuel : Nat} (enough : bytes.length ≤ fuel) :
    utf8Chars fuel bytes = lossyChars bytes := by
  have same : forall more fewer : Nat, forall bytes : List UInt8, bytes.length ≤ fewer ->
      bytes.length ≤ more -> utf8Chars more bytes = utf8Chars fewer bytes := by
    intro more
    induction more with
    | zero =>
      intro fewer bytes _ none
      rw [List.eq_nil_of_length_eq_zero (Nat.le_zero.mp none)]
      cases fewer <;> rfl
    | succ more ih =>
      intro fewer bytes few many
      cases bytes with
      | nil => cases fewer <;> rfl
      | cons lead rest =>
        cases fewer with
        | zero => cases few
        | succ fewer =>
          have dropped : (rest.drop ((utf8Step lead rest).2 - 1)).length ≤ rest.length := by
            rw [List.length_drop]
            omega
          rw [List.length_cons] at few many
          rw [utf8Chars, utf8Chars, ih fewer _ (by omega) (by omega)]
  unfold lossyChars fromUtf8Lossy
  rw [String.toList_ofList]
  exact same fuel bytes.length bytes (Nat.le_refl _) enough

/-- The first character, and the rest behind its bytes. -/
theorem lossyChars_cons (lead : UInt8) (rest : List UInt8) :
    lossyChars (lead :: rest) =
      (utf8Step lead rest).1 :: lossyChars (rest.drop ((utf8Step lead rest).2 - 1)) := by
  have fewer : (rest.drop ((utf8Step lead rest).2 - 1)).length ≤ rest.length := by
    rw [List.length_drop]
    omega
  rw [← utf8Chars_of_le (Nat.le_refl (lead :: rest).length), List.length_cons, utf8Chars,
    utf8Chars_of_le fewer]

/-! ## ASCII bytes -/

variable {lead low high : UInt8}

theorem utf8Lead_low {length : Nat} (isLead : utf8Lead lead = some (length, low, high)) :
    0x80 ≤ low := by
  unfold utf8Lead at isLead
  repeat' split at isLead
  all_goals first | cases isLead; decide | cases isLead

variable {byte : UInt8}

/-- A sequence does not go on behind an ASCII byte. -/
theorem utf8Trail_append (ascii : byte < 0x80) (count : Nat) (least : 0x80 ≤ low) (high : UInt8)
    (front back : List UInt8) :
    utf8Trail count low high (front ++ byte :: back) = utf8Trail count low high front := by
  induction front generalizing count low high with
  | nil =>
    cases count with
    | zero => rfl
    | succ count =>
      have below : ¬ low ≤ byte := by
        intro above
        exact absurd (UInt8.le_trans least above) (UInt8.not_le.mpr ascii)
      show utf8Trail (count + 1) low high (byte :: back) = 0
      rw [utf8Trail, if_neg (by simp [below])]
  | cons first front ih =>
    cases count with
    | zero => rfl
    | succ count =>
      show utf8Trail (count + 1) low high (first :: (front ++ byte :: back)) = _
      rw [utf8Trail, utf8Trail, ih count (by decide)]

theorem utf8Step_append (ascii : byte < 0x80) (lead : UInt8) (front back : List UInt8) :
    utf8Step lead (front ++ byte :: back) = utf8Step lead front := by
  unfold utf8Step
  cases isLead : utf8Lead lead with
  | none => rfl
  | some range =>
    rcases range with ⟨length, low, high⟩
    dsimp only
    have trail := utf8Trail_le (length - 1) low high front
    rw [utf8Trail_append ascii _ (utf8Lead_low isLead), List.take_append_of_le_length trail]

/-- An ASCII byte is read as itself between any others. -/
theorem lossyChars_append (ascii : byte < 0x80) (front back : List UInt8) :
    lossyChars (front ++ byte :: back) =
      lossyChars front ++ Char.ofNat byte.toNat :: lossyChars back := by
  induction length : front.length using Nat.strong_induction_on generalizing front with
  | h size ih =>
    cases front with
    | nil => exact fromUtf8Lossy_ascii ascii back
    | cons lead rest =>
      have drops := utf8Step_length lead rest
      rw [List.cons_append, lossyChars_cons, lossyChars_cons, utf8Step_append ascii,
        List.drop_append_of_le_length drops, List.cons_append]
      rw [List.length_cons] at length
      rw [ih _ (by rw [List.length_drop]; omega) _ rfl]

/-- ASCII bytes are read one by one. -/
theorem lossyChars_ascii (ascii : forall byte, byte ∈ bytes -> byte < 0x80) :
    lossyChars bytes = bytes.map fun byte => Char.ofNat byte.toNat := by
  induction bytes with
  | nil => rfl
  | cons byte bytes ih =>
    have first := lossyChars_append (ascii byte List.mem_cons_self) [] bytes
    rw [List.nil_append] at first
    rw [first, ih fun other member => ascii other (List.mem_cons_of_mem byte member)]
    rfl

/-- A character of a code is that code, or nothing. -/
theorem toNat_ofNat (code : Nat) : (Char.ofNat code).toNat = code ∨ (Char.ofNat code).toNat = 0 := by
  unfold Char.ofNat
  split
  next valid => exact Or.inl UInt32.toNat_ofNatLT
  next => exact Or.inr rfl

/-- A sequence that is whole goes on with a byte in its range. -/
theorem utf8Trail_whole {count : Nat} {rest : List UInt8}
    (whole : utf8Trail (count + 1) low high rest = count + 1) : exists first others,
      rest = first :: others ∧ low ≤ first ∧ first ≤ high ∧
        utf8Trail count 0x80 0xbf others = count := by
  cases rest with
  | nil => cases whole
  | cons first others =>
    rw [utf8Trail] at whole
    split at whole
    next inRange =>
      rw [Bool.and_eq_true, decide_eq_true_eq, decide_eq_true_eq] at inRange
      exact ⟨first, others, rfl, inRange.1, inRange.2, by omega⟩
    next => cases whole

/-- The leads of sequences of two, three and four bytes. -/
theorem utf8Lead_cases {length : Nat} (isLead : utf8Lead lead = some (length, low, high)) :
    (length = 2 ∧ 2 ≤ lead.toNat % 32) ∨
      (length = 3 ∧ (1 ≤ lead.toNat % 16 ∨ 0xa0 ≤ low ∧ high ≤ 0xbf)) ∨
      (length = 4 ∧ (1 ≤ lead.toNat % 8 ∨ 0x90 ≤ low ∧ high ≤ 0xbf)) := by
  unfold utf8Lead at isLead
  repeat' split at isLead
  all_goals cases isLead
  all_goals
    rename_i inRange
    simp only [Bool.and_eq_true, decide_eq_true_eq, beq_iff_eq, UInt8.le_iff_toNat_le,
      ← UInt8.toNat_inj] at inRange ⊢
    simp at inRange ⊢ <;> omega

/-- What other bytes are read as lies above ASCII, or counts nothing. -/
theorem utf8Step_wide (wide : 0x80 ≤ lead) (rest : List UInt8) :
    128 ≤ (utf8Step lead rest).1.toNat ∨ (utf8Step lead rest).1.toNat = 0 := by
  have replaced : 128 ≤ (Char.ofNat 0xfffd).toNat := by decide
  unfold utf8Step
  rw [if_neg (UInt8.not_lt.mpr wide)]
  cases isLead : utf8Lead lead with
  | none => exact Or.inl replaced
  | some range =>
    rcases range with ⟨length, low, high⟩
    dsimp only
    split
    next whole =>
      dsimp only
      rw [whole]
      have large : 128 ≤ (rest.take (length - 1)).foldl (fun code byte => code * 64 + byte.toNat % 64)
          (lead.toNat % 2 ^ (7 - length)) := by
        rcases utf8Lead_cases isLead with ⟨rfl, start⟩ | ⟨rfl, start⟩ | ⟨rfl, start⟩
        · rcases utf8Trail_whole whole with ⟨second, _, rfl, _, _, _⟩
          show 128 ≤ lead.toNat % 32 * 64 + second.toNat % 64
          omega
        · rcases utf8Trail_whole whole with ⟨second, _, rfl, least, most, later⟩
          rcases utf8Trail_whole later with ⟨third, _, rfl, _, _, _⟩
          rw [UInt8.le_iff_toNat_le] at least most
          show 128 ≤ (lead.toNat % 16 * 64 + second.toNat % 64) * 64 + third.toNat % 64
          rcases start with large | ⟨low, high⟩
          · omega
          · rw [UInt8.le_iff_toNat_le] at low high
            have bounds : (0xa0 : UInt8).toNat = 160 ∧ (0xbf : UInt8).toNat = 191 := by decide
            omega
        · rcases utf8Trail_whole whole with ⟨second, _, rfl, least, most, later⟩
          rcases utf8Trail_whole later with ⟨third, _, rfl, _, _, last⟩
          rcases utf8Trail_whole last with ⟨fourth, _, rfl, _, _, _⟩
          rw [UInt8.le_iff_toNat_le] at least most
          show 128 ≤ ((lead.toNat % 8 * 64 + second.toNat % 64) * 64 + third.toNat % 64) * 64 +
            fourth.toNat % 64
          rcases start with large | ⟨low, high⟩
          · omega
          · rw [UInt8.le_iff_toNat_le] at low high
            have bounds : (0x90 : UInt8).toNat = 144 ∧ (0xbf : UInt8).toNat = 191 := by decide
            omega
      rcases toNat_ofNat ((rest.take (length - 1)).foldl
          (fun code byte => code * 64 + byte.toNat % 64) (lead.toNat % 2 ^ (7 - length))) with
        isCode | nothing
      · left
        rw [isCode]
        exact large
      · exact Or.inr nothing
    next => exact Or.inl replaced

/-- An ASCII character is read from its byte. -/
theorem mem_lossyChars {character : Char} (ascii : character.toNat < 128)
    (counts : character.toNat ≠ 0) (member : character ∈ lossyChars bytes) :
    UInt8.ofNat character.toNat ∈ bytes := by
  induction length : bytes.length using Nat.strong_induction_on generalizing bytes with
  | h size ih =>
    cases bytes with
    | nil => cases member
    | cons lead rest =>
      rw [List.length_cons] at length
      rw [lossyChars_cons] at member
      rcases List.mem_cons.mp member with here | later
      · by_cases narrow : lead < 0x80
        · have step : utf8Step lead rest = (Char.ofNat lead.toNat, 1) := if_pos narrow
          have isLead : character = Char.ofNat lead.toNat := here.trans (congrArg Prod.fst step)
          rcases toNat_ofNat lead.toNat with isCode | nothing
          · rw [isLead, isCode, UInt8.ofNat_toNat]
            exact List.mem_cons_self
          · rw [← isLead] at nothing
            exact absurd nothing counts
        · rcases utf8Step_wide (UInt8.not_lt.mp narrow) rest with above | nothing
          · rw [← here] at above
            omega
          · rw [← here] at nothing
            exact absurd nothing counts
      · have inside := ih _ (by rw [List.length_drop]; omega) later rfl
        exact List.mem_cons_of_mem lead (List.mem_of_mem_drop inside)

end Text
end RocmCli
