import Mathlib.Data.List.Sort

namespace RocmCli
namespace Listings

/-!
# Entries in the order of a listing

A folder is listed in an order that nobody chooses.  What is computed from a
listing may depend on that order: a search takes what comes first, and keeping
the latest of dated entries takes the last of several that are equally late.
A sort by a key that tells the entries apart does not depend on it.
-/

variable {Entry : Type u}

/-! ## The latest entry -/

/-- The later of two dated entries, and the second when they are equally late. -/
def later : Option (Nat × Entry) -> Option (Nat × Entry) -> Option (Nat × Entry)
  | some left, some right => if right.1 < left.1 then some left else some right
  | none, some right => some right
  | some left, none => some left
  | none, none => none

def latest (entries : List (Nat × Entry)) : Option (Nat × Entry) :=
  entries.foldl (fun best entry => later best (some entry)) none

@[simp] theorem later_none (left : Option (Nat × Entry)) : later left none = left := by
  cases left <;> rfl

@[simp] theorem none_later (right : Option (Nat × Entry)) : later none right = right := by
  cases right <;> rfl

theorem later_assoc (first second third : Option (Nat × Entry)) :
    later (later first second) third = later first (later second third) := by
  cases first with
  | none => rw [none_later, none_later]
  | some first =>
      cases second with
      | none => rw [later_none, none_later]
      | some second =>
          cases third with
          | none => rw [later_none, later_none]
          | some third =>
              by_cases left : second.1 < first.1
              · by_cases right : third.1 < second.1
                · have outer : third.1 < first.1 := right.trans left
                  simp only [later, if_pos left, if_pos right, if_pos outer]
                · simp only [later, if_pos left, if_neg right]
              · by_cases right : third.1 < second.1
                · simp only [later, if_neg left, if_pos right]
                · have outer : ¬ third.1 < first.1 := by omega
                  simp only [later, if_neg left, if_neg right, if_neg outer]

theorem foldl_later (entries : List (Nat × Entry)) (start : Option (Nat × Entry)) :
    entries.foldl (fun best entry => later best (some entry)) start =
      later start (latest entries) := by
  induction entries generalizing start with
  | nil => exact (later_none start).symm
  | cons entry rest ih =>
      rw [latest, List.foldl_cons, List.foldl_cons, ih, none_later,
        ih, later_assoc]

theorem latest_append (first second : List (Nat × Entry)) :
    latest (first ++ second) = later (latest first) (latest second) := by
  rw [latest, List.foldl_append, foldl_later second]
  rfl

/-- The entry is there, and none is later. -/
def IsLatest (entries : List (Nat × Entry)) (entry : Nat × Entry) : Prop :=
  entry ∈ entries ∧ forall other, other ∈ entries -> other.1 ≤ entry.1

theorem latest_eq_none {entries : List (Nat × Entry)} : latest entries = none ↔ entries = [] := by
  refine ⟨fun none => ?_, fun empty => by rw [empty]; rfl⟩
  cases entries with
  | nil => rfl
  | cons entry rest =>
      rw [latest, List.foldl_cons, none_later, foldl_later] at none
      cases isLatest : latest rest with
      | none =>
          rw [isLatest] at none
          cases none
      | some other =>
          rw [isLatest] at none
          dsimp only [later] at none
          split at none <;> cases none

variable {entry : Nat × Entry}

theorem isLatest_of_latest {entries : List (Nat × Entry)} (isLatest : latest entries = some entry) :
    IsLatest entries entry := by
  induction entries generalizing entry with
  | nil => cases isLatest
  | cons first rest ih =>
      rw [latest, List.foldl_cons, none_later, foldl_later] at isLatest
      cases after : latest rest with
      | none =>
          rw [after] at isLatest
          cases isLatest
          rw [latest_eq_none.mp after]
          exact ⟨List.mem_cons_self .., fun other member => by
            rw [List.mem_singleton.mp member]⟩
      | some best =>
          rw [after] at isLatest
          have known := ih after
          dsimp only [later] at isLatest
          split at isLatest
          · next earlier =>
              cases isLatest
              refine ⟨List.mem_cons_self .., fun other member => ?_⟩
              rcases List.mem_cons.mp member with rfl | later
              · exact le_refl _
              · exact (known.2 other later).trans (Nat.le_of_lt earlier)
          · next notEarlier =>
              cases isLatest
              refine ⟨List.mem_cons_of_mem _ known.1, fun other member => ?_⟩
              rcases List.mem_cons.mp member with rfl | later
              · exact Nat.le_of_not_lt notEarlier
              · exact known.2 other later

/-- What comes last and is the latest is taken. -/
theorem latest_concat {entries : List (Nat × Entry)}
    (isLatest : forall other, other ∈ entries -> other.1 ≤ entry.1) :
    latest (entries ++ [entry]) = some entry := by
  rw [latest_append]
  cases before : latest entries with
  | none => rfl
  | some best =>
      have notLater : ¬ entry.1 < best.1 :=
        Nat.not_lt.mpr (isLatest best (isLatest_of_latest before).1)
      exact if_neg notLater

/-- Of two groups, the second decides if it has an entry that is the latest. -/
theorem latest_append_cases {first second : List (Nat × Entry)}
    (isLatest : latest (first ++ second) = some entry) :
    IsLatest (first ++ second) entry ∧
      (entry ∈ second ∨ forall other, other ∈ second -> other.1 < entry.1) := by
  refine ⟨isLatest_of_latest isLatest, ?_⟩
  rw [latest_append] at isLatest
  cases right : latest second with
  | none =>
      rw [latest_eq_none.mp right]
      exact Or.inr fun other member => nomatch member
  | some best =>
      have known := isLatest_of_latest right
      cases left : latest first with
      | none =>
          rw [left, right] at isLatest
          cases isLatest
          exact Or.inl known.1
      | some before =>
          rw [left, right] at isLatest
          dsimp only [later] at isLatest
          split at isLatest
          · next earlier =>
              cases isLatest
              exact Or.inr fun other member => (known.2 other member).trans_lt earlier
          · cases isLatest
            exact Or.inl known.1

/-! ## Sorting -/

section Sorting

variable {Key : Type v} [LinearOrder Key] (key : Entry -> Key)

def sortBy (entries : List Entry) : List Entry :=
  entries.insertionSort fun left right => key left ≤ key right

theorem sortBy_perm (entries : List Entry) : (sortBy key entries).Perm entries :=
  List.perm_insertionSort _ entries

theorem sortBy_pairwise (entries : List Entry) :
    (sortBy key entries).Pairwise fun left right => key left ≤ key right := by
  have total : Std.Total fun left right : Entry => key left ≤ key right :=
    ⟨fun left right => le_total (key left) (key right)⟩
  have trans : IsTrans Entry fun left right => key left ≤ key right :=
    ⟨fun _ _ _ => le_trans⟩
  exact List.pairwise_insertionSort _ entries

variable {entries : List Entry}

/-- A sort by what tells the entries apart does not depend on their order. -/
theorem sortBy_congr {others : List Entry} (perm : entries.Perm others)
    (apart : forall left right, left ∈ entries -> right ∈ entries -> key left = key right ->
      left = right) : sortBy key entries = sortBy key others := by
  refine List.Perm.eq_of_pairwise ?_ (sortBy_pairwise key entries) (sortBy_pairwise key others)
    (((sortBy_perm key entries).trans perm).trans (sortBy_perm key others).symm)
  intro left right leftMember rightMember below above
  exact apart left right ((sortBy_perm key entries).mem_iff.mp leftMember)
    (perm.mem_iff.mpr ((sortBy_perm key others).mem_iff.mp rightMember)) (le_antisymm below above)

/-- The entry is there, and no key is below its key. -/
def IsFirst (entries : List Entry) (entry : Entry) : Prop :=
  entry ∈ entries ∧ forall other, other ∈ entries -> key entry ≤ key other

theorem head_sortBy {entry : Entry} (isHead : (sortBy key entries).head? = some entry) :
    IsFirst key entries entry := by
  rcases List.head?_eq_some_iff.mp isHead with ⟨rest, sorted⟩
  have pairwise := sortBy_pairwise key entries
  have perm := sortBy_perm key entries
  rw [sorted] at pairwise perm
  refine ⟨perm.mem_iff.mp (List.mem_cons_self ..), fun other member => ?_⟩
  rcases List.mem_cons.mp (perm.mem_iff.mpr member) with rfl | later
  · exact le_refl _
  · exact (List.pairwise_cons.mp pairwise).1 other later

theorem sortBy_eq_nil : sortBy key entries = [] ↔ entries = [] := by
  refine ⟨fun empty => ?_, fun empty => by rw [empty]; rfl⟩
  have perm := sortBy_perm key entries
  rw [empty] at perm
  exact perm.symm.eq_nil

theorem head_of_isFirst {entry : Entry}
    (apart : forall left right, left ∈ entries -> right ∈ entries -> key left = key right ->
      left = right) (isFirst : IsFirst key entries entry) :
    (sortBy key entries).head? = some entry := by
  cases sorted : (sortBy key entries).head? with
  | none =>
      have empty := (sortBy_eq_nil key).mp (List.head?_eq_none_iff.mp sorted)
      rw [empty] at isFirst
      exact absurd isFirst.1 List.not_mem_nil
  | some other =>
      have known := head_sortBy key sorted
      have same := apart other entry known.1 isFirst.1
        (le_antisymm (known.2 entry isFirst.1) (isFirst.2 other known.1))
      rw [same]

/-- Those that a sort puts first are those that few come before. -/
theorem mem_take_sortBy {entry : Entry} (member : entry ∈ entries)
    (apart : forall left right, left ∈ entries -> right ∈ entries -> key left = key right ->
      left = right) (nodup : entries.Nodup) (count : Nat) :
    entry ∈ (sortBy key entries).take count ↔
      (entries.filter fun other => key other < key entry).length < count := by
  have perm := sortBy_perm key entries
  rcases List.append_of_mem (perm.mem_iff.mpr member) with ⟨front, back, sorted⟩
  have pairwise := sortBy_pairwise key entries
  have distinct := perm.nodup_iff.mpr nodup
  rw [sorted] at perm pairwise distinct
  have isFront : entry ∉ front := fun inside =>
    (List.nodup_append.mp distinct).2.2 entry inside entry List.mem_cons_self rfl
  have below : front.filter (fun other => key other < key entry) = front := by
    refine List.filter_eq_self.mpr fun other inFront => decide_eq_true ?_
    refine lt_of_le_of_ne ((List.pairwise_append.mp pairwise).2.2 other inFront entry
      List.mem_cons_self) fun same => ?_
    have equal := apart other entry (perm.mem_iff.mp (List.mem_append_left _ inFront)) member same
    exact isFront (equal ▸ inFront)
  have above : (entry :: back).filter (fun other => key other < key entry) = [] := by
    refine List.filter_eq_nil_iff.mpr fun other inBack => ?_
    rw [decide_eq_true_eq, not_lt]
    rcases List.mem_cons.mp inBack with rfl | later
    · exact le_refl _
    · exact (List.pairwise_cons.mp (List.pairwise_append.mp pairwise).2.1).1 other later
  have counted : (entries.filter fun other => key other < key entry).length = front.length := by
    rw [← (perm.filter _).length_eq, List.filter_append, below, above, List.append_nil]
  rw [sorted, counted]
  constructor
  · intro taken
    by_contra long
    rw [List.take_append_of_le_length (Nat.le_of_not_lt long)] at taken
    exact isFront (List.mem_of_mem_take taken)
  · intro short
    rw [List.take_append, List.take_of_length_le (Nat.le_of_lt short)]
    refine List.mem_append_right _ ?_
    rcases Nat.exists_eq_succ_of_ne_zero (Nat.sub_ne_zero_of_lt short) with ⟨more, some'⟩
    rw [some']
    exact List.mem_cons_self

end Sorting

/-! ## Groups -/

/-- Entries in groups are the entries. -/
theorem flatMap_groups {Group : Type v} [DecidableEq Group] (groupOf : Entry -> Group)
    {groups : List Group} (distinct : groups.Nodup) (entries : List Entry) :
    (groups.flatMap fun group => entries.filter fun entry => groupOf entry = group).Perm
      (entries.filter fun entry => groupOf entry ∈ groups) := by
  induction groups with
  | nil => rw [List.flatMap_nil, List.filter_eq_nil_iff.mpr (fun entry _ => by simp)]
  | cons group groups ih =>
    rcases List.nodup_cons.mp distinct with ⟨isNew, distinct'⟩
    rw [List.flatMap_cons]
    refine ((ih distinct').append_left _).trans ?_
    have divided := List.filter_append_perm (fun entry => decide (groupOf entry = group))
      (entries.filter fun entry => groupOf entry ∈ group :: groups)
    refine List.Perm.trans (List.Perm.of_eq ?_) divided
    rw [List.filter_filter, List.filter_filter]
    refine congrArg₂ (· ++ ·) ?_ ?_
    · refine List.filter_congr fun entry _ => ?_
      by_cases here : groupOf entry = group <;> simp [here]
    · refine List.filter_congr fun entry _ => ?_
      by_cases here : groupOf entry = group
      · simp [here, isNew]
      · simp [here]

theorem flatMap_all_groups {Group : Type v} [DecidableEq Group] (groupOf : Entry -> Group)
    {groups : List Group} (distinct : groups.Nodup) {entries : List Entry}
    (all : forall entry, entry ∈ entries -> groupOf entry ∈ groups) :
    (groups.flatMap fun group => entries.filter fun entry => groupOf entry = group).Perm entries :=
  (flatMap_groups groupOf distinct entries).trans (List.Perm.of_eq
    (List.filter_eq_self.mpr fun entry member => decide_eq_true (all entry member)))

/-! ## Orders that bring an entry to one end -/

theorem exists_first {entries : List Entry} {entry : Entry} (member : entry ∈ entries) :
    exists rest, (entry :: rest).Perm entries := by
  rcases List.append_of_mem member with ⟨before, after, rfl⟩
  exact ⟨before ++ after, List.perm_middle.symm⟩

theorem exists_last {entries : List Entry} {entry : Entry} (member : entry ∈ entries) :
    exists rest, (rest ++ [entry]).Perm entries := by
  rcases exists_first member with ⟨rest, perm⟩
  exact ⟨rest, (List.perm_append_singleton ..).trans perm⟩

end Listings
end RocmCli
