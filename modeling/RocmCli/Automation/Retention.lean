import RocmCli.Automation.Proposals

namespace RocmCli
namespace Automation

/-!
# What a compaction keeps

The positions a compaction removes are the front of the reviewed proposals'
keys in order.  Everything here follows from one fact: sorted, the keys are
those removed followed by those kept, each position once.
-/

variable {V : Type u}

/-! ## Retaining by position -/

section Retain

variable {A : Type v} {B : Type w}

theorem retainFrom_sublist (dropped : List Nat) (index : Nat) (items : List A) :
    List.Sublist (retainFrom dropped index items) items := by
  induction items generalizing index with
  | nil => exact List.Sublist.refl []
  | cons item rest ih =>
      rw [retainFrom]
      split
      · exact (ih (index + 1)).cons item
      · exact (ih (index + 1)).cons_cons item

theorem mem_retainFrom {dropped : List Nat} {index : Nat} {items : List A} {item : A} :
    item ∈ retainFrom dropped index items ↔
      exists position, items[position]? = some item ∧ index + position ∉ dropped := by
  induction items generalizing index with
  | nil => simp [retainFrom]
  | cons head rest ih =>
      rw [retainFrom]
      have later : item ∈ retainFrom dropped (index + 1) rest ↔
          exists position, (head :: rest)[position + 1]? = some item ∧
            index + (position + 1) ∉ dropped := by
        rw [ih]
        simp only [List.getElem?_cons_succ, Nat.add_right_comm index 1, Nat.add_assoc]
      by_cases gone : dropped.contains index = true
      · have member : index ∈ dropped := by simpa using gone
        rw [if_pos gone, later]
        constructor
        · rintro ⟨position, found, kept⟩
          exact ⟨position + 1, found, kept⟩
        · rintro ⟨position, found, kept⟩
          cases position with
          | zero => exact absurd member kept
          | succ position => exact ⟨position, found, kept⟩
      · have notMember : index ∉ dropped := by simpa using gone
        rw [if_neg gone, List.mem_cons, later]
        constructor
        · rintro (rfl | ⟨position, found, kept⟩)
          · exact ⟨0, rfl, notMember⟩
          · exact ⟨position + 1, found, kept⟩
        · rintro ⟨position, found, kept⟩
          cases position with
          | zero => exact Or.inl (by simpa using found.symm)
          | succ position => exact Or.inr ⟨position, found, kept⟩

theorem retainFrom_zip (dropped : List Nat) (index : Nat) {left : List A} {right : List B}
    (lengths : left.length = right.length) :
    retainFrom dropped index (left.zip right) =
      (retainFrom dropped index left).zip (retainFrom dropped index right) := by
  induction left generalizing index right with
  | nil => rfl
  | cons head rest ih =>
      cases right with
      | nil => cases lengths
      | cons other others =>
          have shorter := ih (index + 1) (Nat.succ.inj lengths)
          rw [List.zip_cons_cons, retainFrom, retainFrom, retainFrom, shorter]
          split <;> rfl

theorem retainFrom_length (dropped : List Nat) (index : Nat) {left : List A} {right : List B}
    (lengths : left.length = right.length) :
    (retainFrom dropped index left).length = (retainFrom dropped index right).length := by
  induction left generalizing index right with
  | nil =>
      rw [List.eq_nil_of_length_eq_zero lengths.symm]
      rfl
  | cons head rest ih =>
      cases right with
      | nil => cases lengths
      | cons other others =>
          have shorter := ih (index + 1) (Nat.succ.inj lengths)
          rw [retainFrom, retainFrom]
          split
          · exact shorter
          · rw [List.length_cons, List.length_cons, shorter]

/-- Counting what is retained counts positions. -/
theorem countP_retainFrom (dropped : List Nat) (index : Nat) (items : List A)
    (counted : A -> Bool) :
    (retainFrom dropped index items).countP counted =
      (((items.zipIdx index).filter (fun entry => counted entry.1)).map Prod.snd).countP
        (fun position => !dropped.contains position) := by
  induction items generalizing index with
  | nil => rfl
  | cons item rest ih =>
      rw [retainFrom, List.zipIdx_cons, List.filter_cons]
      cases gone : dropped.contains index <;> cases isCounted : counted item <;>
        simp [isCounted, gone, ih, -List.contains_eq_mem]

end Retain

/-! ## The order of the keys -/

theorem reviewKeyLe_iff (left right : ReviewKey) :
    reviewKeyLe left right = true ↔
      (left.1 = false ∧ right.1 = true) ∨ (left.1 = right.1 ∧
        (left.2.1 < right.2.1 ∨ (left.2.1 = right.2.1 ∧ left.2.2 ≤ right.2.2))) := by
  simp [reviewKeyLe]

theorem reviewKeyLe_trans (first second third : ReviewKey)
    (early : reviewKeyLe first second = true) (late : reviewKeyLe second third = true) :
    reviewKeyLe first third = true := by
  rw [reviewKeyLe_iff] at early late ⊢
  rcases early with ⟨firstOld, secondNew⟩ | ⟨sameFlag, early⟩ <;>
    rcases late with ⟨secondOld, thirdNew⟩ | ⟨sameFlag', late⟩
  · exact Or.inl ⟨firstOld, thirdNew⟩
  · exact Or.inl ⟨firstOld, sameFlag' ▸ secondNew⟩
  · exact Or.inl ⟨sameFlag.trans secondOld, thirdNew⟩
  · exact Or.inr ⟨sameFlag.trans sameFlag', by omega⟩

theorem reviewKeyLe_total (left right : ReviewKey) :
    (reviewKeyLe left right || reviewKeyLe right left) = true := by
  rw [Bool.or_eq_true, reviewKeyLe_iff, reviewKeyLe_iff]
  cases left.1 <;> cases right.1 <;> simp <;> omega

/-- Keys of different positions are strictly ordered. -/
theorem reviewKeyLe_strict {left right : ReviewKey} (le : reviewKeyLe left right = true)
    (apart : left.2.2 ≠ right.2.2) : reviewKeyLe right left = false := by
  rw [← Bool.not_eq_true]
  intro back
  rw [reviewKeyLe_iff] at le back
  rcases le with ⟨leftOld, rightNew⟩ | ⟨sameFlag, le⟩
  · rcases back with ⟨rightOld, leftNew⟩ | ⟨sameFlag, back⟩
    · rw [rightOld] at rightNew
      cases rightNew
    · rw [sameFlag, leftOld] at rightNew
      cases rightNew
  · rcases back with ⟨rightOld, leftNew⟩ | ⟨sameFlag', back⟩
    · rw [← sameFlag, leftNew] at rightOld
      cases rightOld
    · omega

/-! ## Which positions go -/

variable {keep : Nat} {justReviewed : String} {proposals : List (AutomationProposalRecord V)}

/-- The keys in order, cut where the compaction cuts them. -/
def sortedKeys (justReviewed : String) (proposals : List (AutomationProposalRecord V)) :
    List ReviewKey :=
  (reviewedKeys justReviewed proposals).mergeSort reviewKeyLe

variable {key : ReviewKey}

theorem mem_reviewedKeys :
    key ∈ reviewedKeys justReviewed proposals ↔
      exists proposal, proposals[key.2.2]? = some proposal ∧ proposal.reviewed = true ∧
        key = reviewKey justReviewed proposal key.2.2 := by
  rw [reviewedKeys, List.mem_map]
  constructor
  · rintro ⟨⟨proposal, index⟩, member, rfl⟩
    rcases List.mem_filter.mp member with ⟨indexed, reviewed⟩
    exact ⟨proposal, List.mem_zipIdx_iff_getElem?.mp indexed, reviewed, rfl⟩
  · rintro ⟨proposal, found, reviewed, shape⟩
    refine ⟨(proposal, key.2.2), ?_, shape.symm⟩
    exact List.mem_filter.mpr ⟨List.mem_zipIdx_iff_getElem?.mpr found, reviewed⟩

theorem mem_sortedKeys :
    key ∈ sortedKeys justReviewed proposals ↔ key ∈ reviewedKeys justReviewed proposals :=
  List.mem_mergeSort

/-- The positions of the reviewed proposals, in file order. -/
theorem positions_reviewedKeys (justReviewed : String)
    (proposals : List (AutomationProposalRecord V)) :
    (reviewedKeys justReviewed proposals).map (fun key => key.2.2) =
      (proposals.zipIdx.filter (fun entry => entry.1.reviewed)).map Prod.snd := by
  rw [reviewedKeys, List.map_map]
  rfl

theorem positions_nodup (justReviewed : String) (proposals : List (AutomationProposalRecord V)) :
    ((sortedKeys justReviewed proposals).map (fun key => key.2.2)).Nodup := by
  have permutation := List.Perm.map (fun key : ReviewKey => key.2.2)
    (List.mergeSort_perm (reviewedKeys justReviewed proposals) reviewKeyLe)
  rw [sortedKeys, permutation.nodup_iff, positions_reviewedKeys]
  refine List.Nodup.sublist (List.Sublist.map _ List.filter_sublist) ?_
  rw [List.zipIdx_map_snd]
  exact List.nodup_range'

variable {position : Nat}

theorem mem_droppedPositions :
    position ∈ droppedPositions keep justReviewed proposals ↔
      exists key, key ∈ (sortedKeys justReviewed proposals).take
        ((reviewedKeys justReviewed proposals).length - keep) ∧ key.2.2 = position :=
  List.mem_map

/-- Every key is among those removed or those kept, by its position. -/
theorem key_dropped_iff (member : key ∈ sortedKeys justReviewed proposals) :
    key ∈ (sortedKeys justReviewed proposals).drop
        ((reviewedKeys justReviewed proposals).length - keep) ↔
      key.2.2 ∉ droppedPositions keep justReviewed proposals := by
  have nodup := positions_nodup justReviewed proposals
  rw [← List.take_append_drop ((reviewedKeys justReviewed proposals).length - keep)
    (sortedKeys justReviewed proposals), List.map_append, List.nodup_append] at nodup
  constructor
  · intro kept dropped
    rcases mem_droppedPositions.mp dropped with ⟨other, taken, same⟩
    exact nodup.2.2 _ (List.mem_map_of_mem taken) _ (List.mem_map_of_mem kept) same
  · intro notDropped
    rw [← List.take_append_drop ((reviewedKeys justReviewed proposals).length - keep)
      (sortedKeys justReviewed proposals)] at member
    rcases List.mem_append.mp member with taken | kept
    · exact absurd (mem_droppedPositions.mpr ⟨key, taken, rfl⟩) notDropped
    · exact kept

/-- Only reviewed proposals are removed. -/
theorem droppedPositions_reviewed
    (dropped : position ∈ droppedPositions keep justReviewed proposals) :
    exists proposal, proposals[position]? = some proposal ∧ proposal.reviewed = true := by
  rcases mem_droppedPositions.mp dropped with ⟨key, taken, rfl⟩
  rcases mem_reviewedKeys.mp (mem_sortedKeys.mp (List.mem_of_mem_take taken)) with
    ⟨proposal, found, reviewed, -⟩
  exact ⟨proposal, found, reviewed⟩

/-- What is removed comes before every reviewed proposal that is kept. -/
theorem droppedPositions_oldest {removed kept : Nat} {old new : AutomationProposalRecord V}
    (dropped : removed ∈ droppedPositions keep justReviewed proposals)
    (oldFound : proposals[removed]? = some old)
    (notDropped : kept ∉ droppedPositions keep justReviewed proposals)
    (newFound : proposals[kept]? = some new) (newReviewed : new.reviewed = true) :
    reviewKeyLe (reviewKey justReviewed new kept) (reviewKey justReviewed old removed) =
      false := by
  rcases mem_droppedPositions.mp dropped with ⟨key, taken, rfl⟩
  rcases mem_reviewedKeys.mp (mem_sortedKeys.mp (List.mem_of_mem_take taken)) with
    ⟨proposal, found, -, shape⟩
  obtain rfl : old = proposal := Option.some.inj (oldFound.symm.trans found)
  have newKey : reviewKey justReviewed new kept ∈ sortedKeys justReviewed proposals :=
    mem_sortedKeys.mpr (mem_reviewedKeys.mpr ⟨new, newFound, newReviewed, rfl⟩)
  have inDrop := (key_dropped_iff newKey).mpr notDropped
  have sorted := List.pairwise_mergeSort reviewKeyLe_trans reviewKeyLe_total
    (reviewedKeys justReviewed proposals)
  rw [← sortedKeys, ← List.take_append_drop ((reviewedKeys justReviewed proposals).length - keep)
    (sortedKeys justReviewed proposals), List.pairwise_append] at sorted
  rw [← shape]
  apply reviewKeyLe_strict (sorted.2.2 key taken _ inDrop)
  intro same
  have samePosition : key.2.2 = kept := same
  exact notDropped (samePosition ▸ dropped)

/-- The proposal just reviewed stays, as the only one with its id. -/
theorem justReviewed_kept {proposal : AutomationProposalRecord V} (positive : 0 < keep)
    (found : proposals[position]? = some proposal) (isIt : proposal.proposalId = justReviewed)
    (only : forall other twin, proposals[other]? = some twin ->
      twin.proposalId = justReviewed -> other = position) :
    position ∉ droppedPositions keep justReviewed proposals := by
  intro dropped
  rcases mem_droppedPositions.mp dropped with ⟨key, taken, rfl⟩
  have someDropped : 0 < (reviewedKeys justReviewed proposals).length - keep := by
    cases excess : (reviewedKeys justReviewed proposals).length - keep with
    | zero =>
        rw [excess] at taken
        cases taken
    | succ more => exact Nat.succ_pos more
  -- Something is kept, and the order puts it after the proposal just reviewed.
  have someKept : (sortedKeys justReviewed proposals).drop
      ((reviewedKeys justReviewed proposals).length - keep) ≠ [] := by
    apply List.ne_nil_of_length_pos
    rw [List.length_drop, sortedKeys, List.length_mergeSort]
    omega
  rcases List.exists_mem_of_ne_nil _ someKept with ⟨last, kept⟩
  have lastMember := List.mem_of_mem_drop kept
  rcases mem_reviewedKeys.mp (mem_sortedKeys.mp lastMember) with
    ⟨twin, twinFound, twinReviewed, shape⟩
  have lastKept := (key_dropped_iff lastMember).mp kept
  have order := droppedPositions_oldest dropped found lastKept twinFound twinReviewed
  have twinId : twin.proposalId = justReviewed := by
    by_contra different
    have strict : reviewKeyLe (reviewKey justReviewed twin last.2.2)
        (reviewKey justReviewed proposal key.2.2) = true :=
      (reviewKeyLe_iff _ _).mpr (Or.inl ⟨by simpa [reviewKey] using different,
        by simp [reviewKey, isIt]⟩)
    rw [strict] at order
    cases order
  have same := only _ _ twinFound twinId
  rw [same] at lastKept
  exact lastKept dropped

/-- A compaction leaves at most `keep` reviewed proposals. -/
theorem countP_compact (keep : Nat) (justReviewed : String)
    (proposals : List (AutomationProposalRecord V)) :
    (compactReviewedProposals keep justReviewed proposals).countP
      AutomationProposalRecord.reviewed ≤ keep := by
  rw [compactReviewedProposals, countP_retainFrom, ← positions_reviewedKeys justReviewed]
  have permutation := List.Perm.map (fun key : ReviewKey => key.2.2)
    (List.mergeSort_perm (reviewedKeys justReviewed proposals) reviewKeyLe)
  rw [← permutation.countP_eq, ← sortedKeys,
    ← List.take_append_drop ((reviewedKeys justReviewed proposals).length - keep)
      (sortedKeys justReviewed proposals), List.map_append, List.countP_append]
  have noneTaken : List.countP (fun position =>
      !(droppedPositions keep justReviewed proposals).contains position)
      (((sortedKeys justReviewed proposals).take
        ((reviewedKeys justReviewed proposals).length - keep)).map (fun key => key.2.2)) = 0 := by
    apply List.countP_eq_zero.mpr
    intro position member
    rcases List.mem_map.mp member with ⟨key, taken, rfl⟩
    simpa using mem_droppedPositions.mpr ⟨key, taken, rfl⟩
  rw [noneTaken, Nat.zero_add]
  refine List.countP_le_length.trans ?_
  rw [List.length_map, List.length_drop, sortedKeys, List.length_mergeSort]
  omega

end Automation
end RocmCli
