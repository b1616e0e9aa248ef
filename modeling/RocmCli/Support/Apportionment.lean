import Mathlib.Algebra.BigOperators.Ring.List
import Mathlib.Tactic.Positivity
import Mathlib.Tactic.Ring

namespace RocmCli
namespace Support.Apportionment

/-!
# Splitting an amount over a list

An amount is divided over claimants in proportion to their weights, and the
parts are credited to positions of a table of totals.  The module says what the
parts of one amount add up to, how a part shrinks when a claimant joins, and
what a table holds after any list of credits.
-/

/-! ## Readings of which none may be missing -/

section Readings

variable {Value Item : Type}

/-- All the readings of a list, when none of them is missing. -/
def collect : List (Option Value) -> Option (List Value)
  | [] => some []
  | none :: _ => none
  | some value :: rest => (collect rest).map (value :: ·)

@[simp] theorem collect_nil : collect ([] : List (Option Value)) = some [] := rfl

theorem collect_eq_some {readings : List (Option Value)} {values : List Value}
    (all : collect readings = some values) : readings = values.map some := by
  induction readings generalizing values with
  | nil =>
      cases all
      rfl
  | cons first rest ih =>
      cases first with
      | none => cases all
      | some value =>
          rcases Option.map_eq_some_iff.mp all with ⟨others, found, same⟩
          rw [← same, ih found]
          rfl

/-- A collection succeeds exactly when each of its readings is there. -/
theorem collect_isSome_iff (readings : List (Option Value)) :
    (collect readings).isSome <-> forall reading, reading ∈ readings -> reading.isSome := by
  induction readings with
  | nil => simp
  | cons first rest ih =>
      cases first with
      | none => simp [collect]
      | some value => simp [collect, ih]

/-- Collecting does not depend on the order beyond the order of its result. -/
theorem collect_perm {first second : List (Option Value)} (same : first.Perm second)
    {values : List Value} (all : collect first = some values) :
    exists others, collect second = some others ∧ values.Perm others := by
  have there : (collect second).isSome := by
    rw [collect_isSome_iff]
    intro reading member
    have whole : (collect first).isSome := by rw [all]; rfl
    exact (collect_isSome_iff first).mp whole reading (same.mem_iff.mpr member)
  rcases Option.isSome_iff_exists.mp there with ⟨others, found⟩
  refine ⟨others, found, ?_⟩
  rw [collect_eq_some all, collect_eq_some found] at same
  have unwrapped := same.filterMap id
  simpa [List.filterMap_map] using unwrapped

end Readings

/-! ## The parts of one amount -/

section Parts

variable {Item : Type}

/-- Proportional parts add up to the whole. -/
theorem sum_proportions {weights : List ℚ} (total : weights.sum ≠ 0) :
    (weights.map (· / weights.sum)).sum = 1 := by
  have scaled : forall (c : ℚ) (list : List ℚ), (list.map (· / c)).sum = list.sum / c := by
    intro c list
    induction list with
    | nil => simp
    | cons weight rest ih =>
        rw [List.map_cons, List.sum_cons, List.sum_cons, ih, add_div]
  rw [scaled, div_self total]

/-- Equal parts add up to the whole. -/
theorem sum_equal_parts {items : List Item} (some_item : items ≠ []) :
    (items.map fun _ => (1 : ℚ) / items.length).sum = 1 := by
  have length : (items.length : ℚ) ≠ 0 := by
    simpa using some_item
  rw [List.map_const', List.sum_replicate, nsmul_eq_mul, mul_one_div, div_self length]

/-- Parts of which only some items get one add up over those items. -/
theorem sum_selected (items : List Item) (selected : Item -> Bool) (whole : ℚ) (parts : Item -> ℚ) :
    (items.map fun item => if selected item then whole * parts item else 0).sum =
      whole * ((items.filter selected).map parts).sum := by
  induction items with
  | nil => simp
  | cons item rest ih =>
      rw [List.map_cons, List.sum_cons, ih]
      cases isSelected : selected item with
      | true => simp [isSelected, mul_add]
      | false => simp [isSelected]

/-- Two nested sums may change places. -/
theorem sum_comm {Other : Type} (items : List Item) (others : List Other)
    (value : Item -> Other -> ℚ) :
    (items.map fun item => (others.map fun other => value item other).sum).sum =
      (others.map fun other => (items.map fun item => value item other).sum).sum := by
  induction items with
  | nil => simp
  | cons item rest ih =>
      simp only [List.map_cons, List.sum_cons, ih]
      rw [← List.sum_map_add]

end Parts

/-! ## A table of totals -/

section Totals

variable {M : Type} [AddCommMonoid M]

/-- Add an amount at one position of a table. -/
def credit (totals : List M) (entry : Nat × M) : List M :=
  totals.modify entry.1 fun total => total + entry.2

theorem credit_getElem? (totals : List M) (entry : Nat × M) (position : Nat) :
    (credit totals entry)[position]? =
      totals[position]?.map (· + if entry.1 = position then entry.2 else 0) := by
  rw [credit, List.getElem?_modify]
  by_cases here : entry.1 = position
  · simp [here]
  · simp [here]

/-- After a list of credits every position holds its first total and whatever
was credited to it. -/
theorem credits_getElem? (entries : List (Nat × M)) (totals : List M) (position : Nat) :
    (entries.foldl credit totals)[position]? =
      totals[position]?.map
        (· + (entries.map fun entry => if entry.1 = position then entry.2 else 0).sum) := by
  induction entries generalizing totals with
  | nil => simp
  | cons entry rest ih =>
      rw [List.foldl_cons, ih, credit_getElem?, Option.map_map,
        List.map_cons, List.sum_cons]
      refine congrFun (congrArg Option.map ?_) _
      funext total
      exact add_assoc _ _ _

/-- The marks a list of positions leaves in a table of flags. -/
theorem marks_getElem? (positions : List Nat) (flags : List Bool) (position : Nat) :
    (positions.foldl (fun flags marked => flags.set marked true) flags)[position]? =
      flags[position]?.map (· || decide (position ∈ positions)) := by
  induction positions generalizing flags with
  | nil => simp
  | cons marked rest ih =>
      rw [List.foldl_cons, ih, List.getElem?_set]
      by_cases here : marked = position
      · subst here
        by_cases inside : marked < flags.length
        · simp [inside]
        · simp [inside]
      · have other : position ≠ marked := fun same => here same.symm
        simp [here, other]

/-- A sum over a list without duplicates that looks for one position finds the
value there, or nothing. -/
theorem sum_at_position {positions : List Nat} (distinct : positions.Nodup) (value : Nat -> M)
    (position : Nat) :
    (positions.map fun other => if other = position then value other else 0).sum =
      if position ∈ positions then value position else 0 := by
  induction positions with
  | nil => simp
  | cons first rest ih =>
      have parts := List.nodup_cons.mp distinct
      rw [List.map_cons, List.sum_cons, ih parts.2]
      by_cases here : first = position
      · subst here
        rw [if_pos rfl, if_neg parts.1, if_pos List.mem_cons_self, add_zero]
      · have other : position ≠ first := fun same => here same.symm
        rw [if_neg here, zero_add]
        simp [other]

end Totals

/-! ## Places of a list -/

section Places

variable {Item : Type}

theorem filterMap_range_getElem? (items : List Item) :
    ((List.range items.length).filterMap fun k => items[k]?) = items := by
  have looked : ((List.range items.length).map fun k => items[k]?) = items.map some := by
    apply List.ext_getElem
    · simp
    · intro k first second
      simp
  have unwrapped := congrArg (List.filterMap id) looked
  simpa [List.filterMap_map, Function.comp_def] using unwrapped

/-- An item put into a list moves what stands behind it by one place. -/
theorem getElem?_insert (before after : List Item) (item : Item) (k : Nat) :
    (before ++ item :: after)[if k < before.length then k else k + 1]? = (before ++ after)[k]? := by
  by_cases inside : k < before.length
  · rw [if_pos inside, List.getElem?_append_left inside, List.getElem?_append_left inside]
  · have beyond : before.length ≤ k := Nat.le_of_not_lt inside
    rw [if_neg inside, List.getElem?_append_right (by omega), List.getElem?_append_right beyond,
      Nat.succ_sub beyond, List.getElem?_cons_succ]

end Places

end Support.Apportionment
end RocmCli
