import Mathlib.Data.List.Basic

namespace RocmCli
namespace BestFirst

/-!
# The best that will do

A search goes through what there is from the greatest down and takes the first
that will do.  It finds the greatest that will do, whatever the order it was
given them in.
-/

variable {Item Found : Type} (compareItems : Item -> Item -> Ordering)

def atMost (left right : Item) : Bool := (compareItems left right).isLE

def descending (items : List Item) : List Item := (items.mergeSort (atMost compareItems)).reverse

variable {items : List Item}

theorem mem_descending {item : Item} : item ∈ descending compareItems items ↔ item ∈ items := by
  rw [descending, List.mem_reverse, List.mem_mergeSort]

variable [Std.TransCmp compareItems]

theorem descending_pairwise (items : List Item) :
    (descending compareItems items).Pairwise fun left right =>
      (compareItems right left).isLE = true := by
  have transitive : forall left middle right, atMost compareItems left middle = true ->
      atMost compareItems middle right = true -> atMost compareItems left right = true :=
    fun _ _ _ => Std.TransCmp.isLE_trans
  have total : forall left right,
      (atMost compareItems left right || atMost compareItems right left) = true := by
    intro left right
    have swapped : compareItems right left = (compareItems left right).swap := Std.OrientedCmp.eq_swap
    unfold atMost
    rw [swapped]
    cases compareItems left right <;> rfl
  exact List.pairwise_reverse.mpr (List.pairwise_mergeSort transitive total items)

variable {compareItems}

/-- What the search finds is found at the greatest item that will do. -/
theorem findSome_descending {look : Item -> Option Found} {found : Found}
    (finds : (descending compareItems items).findSome? look = some found) :
    exists item, item ∈ items ∧ look item = some found ∧
      forall other, other ∈ items -> look other ≠ none -> (compareItems other item).isLE = true := by
  rcases List.findSome?_eq_some_iff.mp finds with ⟨front, item, back, sorted, isFound, before⟩
  have pairwise := descending_pairwise compareItems items
  have member (other : Item) : other ∈ items ↔ other ∈ front ++ item :: back := by
    rw [← sorted, mem_descending]
  rw [sorted] at pairwise
  refine ⟨item, (member item).mpr (List.mem_append_right _ List.mem_cons_self), isFound, ?_⟩
  intro other isOther looks
  rcases List.mem_append.mp ((member other).mp isOther) with inFront | later
  · exact absurd (before other inFront) looks
  · rcases List.mem_cons.mp later with rfl | inBack
    · have same : compareItems other other = .eq := Std.ReflCmp.compare_self
      rw [same]
      rfl
    · exact (List.pairwise_cons.mp (List.pairwise_append.mp pairwise).2.1).1 other inBack

omit [Std.TransCmp compareItems] in
theorem findSome_descending_none {look : Item -> Option Found} :
    (descending compareItems items).findSome? look = none ↔
      forall item, item ∈ items -> look item = none := by
  rw [List.findSome?_eq_none_iff]
  exact forall_congr' fun item => by rw [mem_descending]

/-- The last of a sort is the greatest. -/
theorem greatest_of_getLast {item : Item}
    (isLast : (items.mergeSort (atMost compareItems)).getLast? = some item) :
    item ∈ items ∧ forall other, other ∈ items -> (compareItems other item).isLE = true := by
  have isHead : (descending compareItems items).head? = some item := by
    rw [descending, List.head?_reverse, isLast]
  rcases List.head?_eq_some_iff.mp isHead with ⟨back, sorted⟩
  have pairwise := descending_pairwise compareItems items
  rw [sorted] at pairwise
  have member (other : Item) : other ∈ items ↔ other ∈ item :: back := by
    rw [← sorted, mem_descending]
  refine ⟨(member item).mpr List.mem_cons_self, fun other isOther => ?_⟩
  rcases List.mem_cons.mp ((member other).mp isOther) with rfl | later
  · have same : compareItems other other = .eq := Std.ReflCmp.compare_self
    rw [same]
    rfl
  · exact (List.pairwise_cons.mp pairwise).1 other later

omit [Std.TransCmp compareItems] in
theorem getLast_eq_none (isNone : (items.mergeSort (atMost compareItems)).getLast? = none) :
    items = [] := by
  have empty := List.getLast?_eq_none_iff.mp isNone
  have perm := List.mergeSort_perm items (atMost compareItems)
  rw [empty] at perm
  exact perm.symm.eq_nil

/-! ## The greatest in one pass -/

variable (compareItems) in
/-- The greatest item of a list, the last of those that are equally great. -/
def maxBy : List Item -> Option Item
  | [] => none
  | item :: rest =>
      some (rest.foldl
        (fun best next => if compareItems best next = .gt then best else next) item)

/-- The pass keeps the greatest of what it has seen. -/
theorem greatest_of_foldl (items : List Item) (item : Item) :
    let best := items.foldl
      (fun best next => if compareItems best next = .gt then best else next) item
    best ∈ item :: items ∧
      forall other, other ∈ item :: items -> (compareItems other best).isLE = true := by
  induction items generalizing item with
  | nil =>
      refine ⟨List.mem_cons_self, fun other member => ?_⟩
      have same : compareItems item item = .eq := Std.ReflCmp.compare_self
      rw [List.mem_singleton.mp member, List.foldl_nil, same]
      rfl
  | cons next rest ih =>
      simp only [List.foldl_cons]
      by_cases keeps : compareItems item next = .gt
      · have later := ih item
        simp only [if_pos keeps]
        refine ⟨?_, fun other member => ?_⟩
        · rcases List.mem_cons.mp later.1 with same | inRest
          · exact List.mem_cons.mpr (Or.inl same)
          · exact List.mem_cons_of_mem _ (List.mem_cons_of_mem _ inRest)
        · rcases List.mem_cons.mp member with rfl | member
          · exact later.2 other List.mem_cons_self
          · rcases List.mem_cons.mp member with rfl | inRest
            · have swapped : compareItems other item = (compareItems item other).swap :=
                Std.OrientedCmp.eq_swap
              have below : (compareItems other item).isLE = true := by
                rw [swapped, keeps]
                rfl
              exact Std.TransCmp.isLE_trans below (later.2 item List.mem_cons_self)
            · exact later.2 other (List.mem_cons_of_mem _ inRest)
      · have later := ih next
        simp only [if_neg keeps]
        refine ⟨List.mem_cons_of_mem _ later.1, fun other member => ?_⟩
        rcases List.mem_cons.mp member with rfl | member
        · have below : (compareItems other next).isLE = true := by
            cases order : compareItems other next with
            | lt => rfl
            | eq => rfl
            | gt => exact absurd order keeps
          exact Std.TransCmp.isLE_trans below (later.2 next List.mem_cons_self)
        · exact later.2 other member

theorem maxBy_greatest {best : Item} (found : maxBy compareItems items = some best) :
    best ∈ items ∧ forall other, other ∈ items -> (compareItems other best).isLE = true := by
  cases items with
  | nil => cases found
  | cons item rest =>
      cases found
      exact greatest_of_foldl rest item

omit [Std.TransCmp compareItems] in
theorem maxBy_eq_none (absent : maxBy compareItems items = none) : items = [] := by
  cases items with
  | nil => rfl
  | cons item rest => cases absent

end BestFirst
end RocmCli
