import Mathlib.Data.List.Infix

namespace RocmCli
namespace Support.Occurrences

/-!
# Occurrences of a pattern

A scan lists the occurrences of a pattern one after the other and goes on behind
each, so it passes over those that overlap one it has listed.  It lists only
occurrences, and all of them where the pattern does not overlap itself.
-/

variable {Symbol : Type u} [DecidableEq Symbol]

/-- The pattern stands at a position of a text. -/
def OccursAt (pattern text : List Symbol) (position : Nat) : Prop :=
  position ≤ text.length ∧ pattern <+: text.drop position

/-- Scan the rest of a text from a position, some symbols of which belong to the
last occurrence. -/
def scan (pattern : List Symbol) : Nat -> Nat -> List Symbol -> List Nat
  | position, 0, [] => if pattern = [] then [position] else []
  | _, _ + 1, [] => []
  | position, 0, symbol :: rest =>
      if pattern <+: symbol :: rest then
        position :: scan pattern (position + 1) (pattern.length - 1) rest
      else scan pattern (position + 1) 0 rest
  | position, skip + 1, _ :: rest => scan pattern (position + 1) skip rest

/-- The positions of the occurrences that do not overlap an earlier one of the
list. -/
def matchIndices (pattern text : List Symbol) : List Nat := scan pattern 0 0 text

variable {pattern : List Symbol}

theorem mem_scan {position skip found : Nat} {text : List Symbol}
    (listed : found ∈ scan pattern position skip text) :
    exists offset, found = position + offset ∧ OccursAt pattern text offset := by
  fun_induction scan pattern position skip text with
  | case1 position empty =>
      rw [List.mem_singleton] at listed
      subst empty
      exact ⟨0, listed, Nat.le_refl _, List.nil_prefix⟩
  | case2 => cases listed
  | case3 => cases listed
  | case4 position symbol rest here ih =>
      rcases List.mem_cons.mp listed with same | later
      · exact ⟨0, same, Nat.zero_le _, here⟩
      · rcases ih later with ⟨offset, same, within, there⟩
        exact ⟨offset + 1, by omega, Nat.succ_le_succ within, there⟩
  | case5 position symbol rest elsewhere ih =>
      rcases ih listed with ⟨offset, same, within, there⟩
      exact ⟨offset + 1, by omega, Nat.succ_le_succ within, there⟩
  | case6 position skip symbol rest ih =>
      rcases ih listed with ⟨offset, same, within, there⟩
      exact ⟨offset + 1, by omega, Nat.succ_le_succ within, there⟩

theorem occursAt_of_mem {text : List Symbol} {found : Nat}
    (listed : found ∈ matchIndices pattern text) : OccursAt pattern text found := by
  rcases mem_scan listed with ⟨offset, same, occurs⟩
  rw [same, Nat.zero_add]
  exact occurs

/-- Part of the pattern at its end is also at its beginning. -/
def Overlaps (pattern : List Symbol) : Prop :=
  exists shift, 0 < shift ∧ shift < pattern.length ∧ pattern.drop shift <+: pattern

omit [DecidableEq Symbol] in
/-- Two occurrences that begin less than the pattern's length apart overlap. -/
theorem overlaps_of_occurrences {text : List Symbol} {shift : Nat} (positive : 0 < shift)
    (close : shift < pattern.length) (first : pattern <+: text) (second : pattern <+: text.drop shift) :
    Overlaps pattern := by
  refine ⟨shift, positive, close, ?_⟩
  rcases first with ⟨back, rfl⟩
  rw [List.drop_append_of_le_length (Nat.le_of_lt close)] at second
  refine List.prefix_of_prefix_length_le (List.prefix_append _ back) second ?_
  rw [List.length_drop]
  exact Nat.sub_le _ _

theorem scan_complete (apart : ¬ Overlaps pattern) {position skip offset : Nat}
    {text : List Symbol} (occurs : OccursAt pattern text offset) (behind : skip ≤ offset) :
    position + offset ∈ scan pattern position skip text := by
  fun_induction scan pattern position skip text generalizing offset with
  | case1 position empty =>
      have zero : offset = 0 := Nat.le_zero.mp occurs.1
      rw [zero]
      exact List.mem_singleton_self _
  | case2 position nonempty =>
      rcases occurs with ⟨_, there⟩
      rw [List.drop_nil] at there
      exact absurd (List.prefix_nil.mp there) nonempty
  | case3 position skip =>
      have zero : offset = 0 := Nat.le_zero.mp occurs.1
      omega
  | case4 position symbol rest here ih =>
      cases offset with
      | zero => exact List.mem_cons_self
      | succ offset =>
          have later : OccursAt pattern rest offset := ⟨Nat.le_of_succ_le_succ occurs.1, occurs.2⟩
          have far : pattern.length - 1 ≤ offset := by
            by_contra close
            exact apart (overlaps_of_occurrences (Nat.succ_pos offset) (by omega) here occurs.2)
          have listed := ih later far
          rw [Nat.add_assoc, Nat.add_comm 1] at listed
          exact List.mem_cons_of_mem _ listed
  | case5 position symbol rest elsewhere ih =>
      cases offset with
      | zero => exact absurd occurs.2 elsewhere
      | succ offset =>
          have later : OccursAt pattern rest offset := ⟨Nat.le_of_succ_le_succ occurs.1, occurs.2⟩
          have listed := ih later (Nat.zero_le _)
          rw [Nat.add_assoc, Nat.add_comm 1] at listed
          exact listed
  | case6 position skip symbol rest ih =>
      cases offset with
      | zero => exact absurd behind (Nat.not_succ_le_zero _)
      | succ offset =>
          have later : OccursAt pattern rest offset := ⟨Nat.le_of_succ_le_succ occurs.1, occurs.2⟩
          have listed := ih later (Nat.le_of_succ_le_succ behind)
          rw [Nat.add_assoc, Nat.add_comm 1] at listed
          exact listed

/-- A pattern that does not overlap itself is found wherever it stands. -/
theorem mem_matchIndices (apart : ¬ Overlaps pattern) {text : List Symbol} {position : Nat}
    (occurs : OccursAt pattern text position) : position ∈ matchIndices pattern text := by
  have listed := @scan_complete _ _ _ apart 0 0 position text occurs (Nat.zero_le _)
  rw [Nat.zero_add] at listed
  exact listed

end Support.Occurrences
end RocmCli
