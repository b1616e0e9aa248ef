import RocmCli.Gpu.AutoSelection

namespace RocmCli
namespace Gpu

open Support.Binary64 BestFirst

/-!
# Which of the ordinals is chosen

The three passes fall through to each other.  Together they prefer, among the
ordinals that may be chosen, one that no service uses; among those the lowest
idle one, and without an idle one the one with the most free memory.
-/

/-! ## Idle GPUs -/

/-- At least nine tenths of the VRAM is free. -/
def GpuVramUsage.NineTenthsFree (usage : GpuVramUsage) : Prop :=
  (9 / 10 : ℚ) ≤ (usage.totalMb - usage.usedMb : Nat) / (usage.totalMb : ℚ)

/-- Two fractions of small whole numbers that differ, differ by more than
rounding can hide. -/
theorem nine_tenths_apart {free total : Nat} (positive : 0 < total) (within : free ≤ total)
    (small : total < 2 ^ 40) :
    (9 / 10 : ℚ) = free / total ∨
      ((9 / 10 : ℚ) + free / total) / 2 ^ 53 < |(9 / 10 : ℚ) - free / total| := by
  have totalPositive : (0 : ℚ) < total := by exact_mod_cast positive
  have atMost : (free / total : ℚ) ≤ 1 := by
    rw [div_le_one totalPositive]
    exact_mod_cast within
  have totalSmall : (total : ℚ) < 2 ^ 40 := by exact_mod_cast small
  have difference : (9 / 10 : ℚ) - free / total = (9 * total - 10 * free) / (10 * total) := by
    field_simp
  by_cases same : 9 * total = 10 * free
  · left
    have cast : (9 : ℚ) * total = 10 * free := by exact_mod_cast same
    rw [eq_div_iff totalPositive.ne']
    linarith
  · right
    have numerator : (1 : ℚ) ≤ |(9 : ℚ) * total - 10 * free| := by
      have whole : (1 : ℤ) ≤ |(9 : ℤ) * total - 10 * free| := by
        apply Int.one_le_abs
        omega
      exact_mod_cast whole
    rw [difference, abs_div, abs_of_pos (show (0 : ℚ) < 10 * total by positivity)]
    calc ((9 / 10 : ℚ) + free / total) / 2 ^ 53
        ≤ (9 / 10 + 1) / 2 ^ 53 := by gcongr
      _ < 1 / (10 * 2 ^ 40) := by norm_num
      _ ≤ 1 / (10 * total) := by gcongr
      _ ≤ |(9 : ℚ) * total - 10 * free| / (10 * total) := by gcongr

/-- The binary64 test of the first pass is the exact one. -/
theorem freeFraction_iff {usage : GpuVramUsage} (small : usage.totalMb < 2 ^ 40) :
    (usage.freeFraction.any fun free => decide (autoFreeVramFraction ≤ free)) = true <->
      usage.NineTenthsFree := by
  unfold GpuVramUsage.freeFraction GpuVramUsage.NineTenthsFree
  by_cases unknown : usage.totalMb = 0
  · rw [if_pos unknown, unknown]
    norm_num
  · have positive : 0 < usage.totalMb := Nat.pos_of_ne_zero unknown
    have within : usage.totalMb - usage.usedMb ≤ usage.totalMb := Nat.sub_le _ _
    rw [if_neg unknown, Option.any_some, decide_eq_true_iff, GpuVramUsage.freeMb,
      nearest_natCast (by omega), nearest_natCast (by omega)]
    exact nearest_le_nearest_iff (by norm_num) (by positivity)
      (nine_tenths_apart positive within small)

/-! ## The order of preference -/

/-- A row says that an ordinal's GPU is idle. -/
def Idle (vram : Option (List GpuVramUsage)) (index : Nat) : Prop :=
  exists row, row ∈ rowsOf vram ∧ row.index = index ∧ row.NineTenthsFree

/-- An ordinal has more free memory than another, or as much and a lower index;
an ordinal without a row comes after all others. -/
def MoreFree (vram : Option (List GpuVramUsage)) (index other : Nat) : Prop :=
  match freeFor vram index, freeFor vram other with
  | some free, some otherFree => otherFree < free ∨ otherFree = free ∧ index ≤ other
  | some _, none => True
  | none, some _ => False
  | none, none => index ≤ other

/-- The ordinal that is to be chosen. -/
structure Preferred (choosable : Nat -> Prop) (busy : List Nat)
    (vram : Option (List GpuVramUsage)) (index : Nat) : Prop where
  may_be_chosen : choosable index
  not_busy : (exists other, choosable other ∧ other ∉ busy) -> index ∉ busy
  lowest_idle : forall other, choosable other -> other ∉ busy -> Idle vram other ->
    Idle vram index ∧ index ≤ other
  most_free : (forall other, choosable other -> other ∉ busy -> ¬ Idle vram other) ->
    forall other, choosable other -> other ∉ busy -> MoreFree vram index other
  lowest_busy : (forall other, choosable other -> other ∈ busy) ->
    forall other, choosable other -> index ≤ other

section

variable {detected : Option Nat} {visible : Option (List Nat)} {busy : List Nat}
  {vram : Option (List GpuVramUsage)}

instance (vram : Option (List GpuVramUsage)) : Std.TransCmp (compareFree vram) := by
  have reversed : Std.TransCmp fun left right : Nat => compare right left :=
    Std.TransCmp.opposite
  exact inferInstanceAs (Std.TransCmp (compareLex (compareOn (freeFor vram)) _))

variable {index : Nat}

theorem moreFree_of_compareFree {other : Nat} (order : (compareFree vram other index).isLE = true) :
    MoreFree vram index other := by
  unfold compareFree compareLex compareOn at order
  unfold MoreFree
  cases mine : freeFor vram index with
  | none =>
      cases theirs : freeFor vram other with
      | none =>
          rw [mine, theirs] at order
          exact Nat.isLE_compare.mp order
      | some otherFree =>
          rw [mine, theirs] at order
          cases order
  | some free =>
      cases theirs : freeFor vram other with
      | none => trivial
      | some otherFree =>
          rw [mine, theirs] at order
          change ((compare otherFree free).then (compare index other)).isLE = true at order
          cases figures : compare otherFree free with
          | lt => exact Or.inl (Nat.compare_eq_lt.mp figures)
          | eq =>
              rw [figures] at order
              exact Or.inr ⟨Nat.compare_eq_eq.mp figures, Nat.isLE_compare.mp order⟩
          | gt =>
              rw [figures] at order
              cases order

/-! ## The lookups -/

/-- With distinct rows a lookup finds the one row of an ordinal. -/
theorem usageFor_eq_some (distinct : ((rowsOf vram).map GpuVramUsage.index).Nodup)
    {row : GpuVramUsage} :
    usageFor vram index = some row <-> row ∈ rowsOf vram ∧ row.index = index := by
  cases vram with
  | none => simp [usageFor, rowsOf]
  | some rows =>
      simp only [usageFor, rowsOf, Option.bind_some, Option.getD_some] at *
      constructor
      · intro found
        exact ⟨List.mem_of_find?_eq_some found, by simpa using List.find?_some found⟩
      · rintro ⟨member, rfl⟩
        have there : (rows.find? fun other => other.index = row.index).isSome := by
          rw [List.find?_isSome]
          exact ⟨row, member, decide_eq_true rfl⟩
        rcases Option.isSome_iff_exists.mp there with ⟨other, found⟩
        have named : other.index = row.index := by simpa using List.find?_some found
        have same := List.inj_on_of_nodup_map distinct (List.mem_of_find?_eq_some found) member named
        rw [found, same]

/-- The first pass takes the idle ordinals. -/
theorem isIdle_iff (distinct : ((rowsOf vram).map GpuVramUsage.index).Nodup)
    (small : forall row, row ∈ rowsOf vram -> row.totalMb < 2 ^ 40) (index : Nat) :
    isIdle vram index = true <-> Idle vram index := by
  unfold isIdle Idle
  constructor
  · intro idle
    cases found : usageFor vram index with
    | none =>
        rw [found] at idle
        cases idle
    | some row =>
        rw [found, Option.bind_some] at idle
        have there := (usageFor_eq_some distinct).mp found
        exact ⟨row, there.1, there.2, (freeFraction_iff (small row there.1)).mp idle⟩
  · rintro ⟨row, member, named, free⟩
    rw [(usageFor_eq_some distinct).mpr ⟨member, named⟩, Option.bind_some]
    exact (freeFraction_iff (small row member)).mpr free

/-- The first item of a strictly sorted list that passes a test is the lowest. -/
theorem find_lowest {ordinals : List Nat} (sorted : ordinals.Pairwise (· < ·)) {test : Nat -> Bool}
    (found : ordinals.find? test = some index) :
    index ∈ ordinals ∧ test index = true ∧
      forall other, other ∈ ordinals -> test other = true -> index ≤ other := by
  rcases List.find?_eq_some_iff_append.mp found with ⟨passes, front, back, rfl, before⟩
  refine ⟨List.mem_append_right _ List.mem_cons_self, passes, fun other member tested => ?_⟩
  rcases List.mem_append.mp member with inFront | later
  · have failed := before other inFront
    simp [tested] at failed
  · rcases List.mem_cons.mp later with rfl | inBack
    · exact Nat.le_refl _
    · have order := (List.pairwise_cons.mp (List.pairwise_append.mp sorted).2.1).1 other inBack
      omega

variable {others : List Nat}

theorem head_lowest {lowest : Nat} (sorted : (lowest :: others).Pairwise (· < ·)) {other : Nat}
    (member : other ∈ lowest :: others) : lowest ≤ other := by
  rcases List.mem_cons.mp member with rfl | inRest
  · exact Nat.le_refl _
  · exact ((List.pairwise_cons.mp sorted).1 other inRest).le

/-! ## The choice -/

/-- The ordinals that may be chosen, as the selection lists them. -/
def candidatesFor (detected : Option Nat) (visible : Option (List Nat))
    (vram : Option (List GpuVramUsage)) : List Nat :=
  reported detected visible vram ((effectiveGpuCount detected vram).getD 0)

theorem mem_candidatesFor (small : forall count, detected = some count -> count < 2 ^ 32)
    (counted : (effectiveGpuCount detected vram).getD 0 ≠ 0) (index : Nat) :
    index ∈ candidatesFor detected visible vram <-> Choosable detected visible vram index := by
  rw [candidatesFor, mem_reported, mem_namedOrdinals small counted, Choosable]

/-- The best of the listed ordinals. -/
structure BestOf (vram : Option (List GpuVramUsage)) (candidates : List Nat) (index : Nat) : Prop where
  listed : index ∈ candidates
  lowest_idle : forall other, other ∈ candidates -> Idle vram other ->
    Idle vram index ∧ index ≤ other
  most_free : (forall other, other ∈ candidates -> ¬ Idle vram other) ->
    forall other, other ∈ candidates -> MoreFree vram index other

/-- Without telemetry it is the lowest. -/
theorem BestOf.of_unreported {first : Nat} {rest : List Nat}
    (sorted : (first :: rest).Pairwise (· < ·)) : BestOf none (first :: rest) first := by
  refine ⟨List.mem_cons_self, ?_, fun _ other listed => head_lowest sorted listed⟩
  rintro other _ ⟨row, isRow, _⟩
  exact absurd isRow List.not_mem_nil

section

variable (distinct : ((rowsOf vram).map GpuVramUsage.index).Nodup)
  (small : forall row, row ∈ rowsOf vram -> row.totalMb < 2 ^ 40)
include distinct small

theorem BestOf.of_idle {candidates : List Nat} (sorted : candidates.Pairwise (· < ·))
    (idle : candidates.find? (isIdle vram) = some index) :
    BestOf vram candidates index := by
  rcases find_lowest sorted idle with ⟨listed, isIdle, lowestIdle⟩
  have tested := (isIdle_iff distinct small index).mp isIdle
  refine ⟨listed, ?_, fun noneIdle => absurd tested (noneIdle index listed)⟩
  intro other otherListed otherIdle
  exact ⟨tested, lowestIdle other otherListed ((isIdle_iff distinct small other).mpr otherIdle)⟩

theorem BestOf.of_greatest {candidates : List Nat}
    (noneIdle : candidates.find? (isIdle vram) = none)
    (greatest : maxBy (compareFree vram) candidates = some index) :
    BestOf vram candidates index := by
  have isGreatest := maxBy_greatest greatest
  refine ⟨isGreatest.1, ?_, fun _ other listed => moreFree_of_compareFree (isGreatest.2 other listed)⟩
  intro other listed otherIdle
  exact absurd ((isIdle_iff distinct small other).mpr otherIdle)
    (List.find?_eq_none.mp noneIdle other listed)

/-- The passes choose the best of a sorted list that is not empty. -/
theorem ranked_best {first : Nat} {rest : List Nat} (sorted : (first :: rest).Pairwise (· < ·)) :
    exists index,
      (if vram.isSome then
        ((first :: rest).find? (isIdle vram)).or (maxBy (compareFree vram) (first :: rest))
      else none).or (some first) = some index ∧ BestOf vram (first :: rest) index := by
  cases telemetry : vram with
  | none => exact ⟨first, rfl, BestOf.of_unreported sorted⟩
  | some rows =>
      rw [telemetry] at distinct small
      rw [if_pos Option.isSome_some]
      cases idle : (first :: rest).find? (isIdle (some rows)) with
      | some index => exact ⟨index, rfl, BestOf.of_idle distinct small sorted idle⟩
      | none =>
          cases greatest : maxBy (compareFree (some rows)) (first :: rest) with
          | none => cases maxBy_eq_none greatest
          | some index => exact ⟨index, rfl, BestOf.of_greatest distinct small idle greatest⟩

end

/-- Where every ordinal is busy the lowest is preferred. -/
theorem Preferred.of_all_busy {lowest : Nat} (sorted : (lowest :: others).Pairwise (· < ·))
    (allBusy : forall other, other ∈ lowest :: others -> other ∈ busy) :
    Preferred (fun index => index ∈ lowest :: others) busy vram lowest where
  may_be_chosen := List.mem_cons_self
  not_busy := by
    rintro ⟨other, choosable, free⟩
    exact absurd (allBusy other choosable) free
  lowest_idle other choosable free := absurd (allBusy other choosable) free
  most_free _ other choosable free := absurd (allBusy other choosable) free
  lowest_busy _ other choosable := head_lowest sorted choosable

/-- Where one is not, the best of those that are not is preferred. -/
theorem BestOf.preferred {choosable : Nat -> Prop} {candidates : List Nat}
    (best : BestOf vram candidates index)
    (member : forall other, other ∈ candidates <-> choosable other ∧ other ∉ busy) :
    Preferred choosable busy vram index := by
  have parts := (member index).mp best.listed
  refine ⟨parts.1, fun _ => parts.2, ?_, ?_, ?_⟩
  · intro other isChoosable free
    exact best.lowest_idle other ((member other).mpr ⟨isChoosable, free⟩)
  · intro noneIdle other isChoosable free
    refine best.most_free ?_ other ((member other).mpr ⟨isChoosable, free⟩)
    intro another anotherListed
    have both := (member another).mp anotherListed
    exact noneIdle another both.1 both.2
  · intro allBusy
    exact absurd (allBusy index parts.1) parts.2

/-- What the passes choose from a sorted list is the preferred ordinal. -/
theorem chosen_preferred (distinct : ((rowsOf vram).map GpuVramUsage.index).Nodup)
    (small : forall row, row ∈ rowsOf vram -> row.totalMb < 2 ^ 40) {lowest : Nat}
    (sorted : (lowest :: others).Pairwise (· < ·)) :
    let candidates := (lowest :: others).filter fun index => !busy.contains index
    let ranked :=
      if vram.isSome then
        (candidates.find? (isIdle vram)).or (maxBy (compareFree vram) candidates)
      else none
    Preferred (fun index => index ∈ lowest :: others) busy vram
      ((ranked.or candidates.head?).getD lowest) := by
  intro candidates ranked
  have member (index : Nat) :
      index ∈ candidates <-> index ∈ lowest :: others ∧ index ∉ busy := by
    simp [candidates]
  have candidatesSorted : candidates.Pairwise (· < ·) := sorted.filter _
  cases candidatesAre : candidates with
  | nil =>
      have nothing : ranked.or candidates.head? = none := by
        simp only [ranked, candidatesAre]
        cases vram <;> rfl
      rw [candidatesAre] at nothing
      rw [nothing, Option.getD_none]
      refine Preferred.of_all_busy sorted fun other choosable => ?_
      by_contra free
      have listed := (member other).mpr ⟨choosable, free⟩
      rw [candidatesAre] at listed
      exact List.not_mem_nil listed
  | cons first rest =>
      rw [candidatesAre] at candidatesSorted
      rcases ranked_best distinct small candidatesSorted with ⟨index, chosen, best⟩
      have found : ranked.or (first :: rest).head? = some index := by
        simp only [ranked, candidatesAre]
        exact chosen
      rw [found, Option.getD_some]
      rw [← candidatesAre] at best
      exact best.preferred member

theorem selectAutoGpuIndex_of_nil (empty : candidatesFor detected visible vram = []) :
    selectAutoGpuIndex detected visible busy vram = [] := by
  unfold candidatesFor at empty
  simp only [selectAutoGpuIndex, empty]
  split <;> rfl

/-- A selection with something to choose from chooses the preferred ordinal. -/
theorem selectAutoGpuIndex_of_cons (distinct : ((rowsOf vram).map GpuVramUsage.index).Nodup)
    (small : forall row, row ∈ rowsOf vram -> row.totalMb < 2 ^ 40)
    (counted : (effectiveGpuCount detected vram).getD 0 ≠ 0) {lowest : Nat}
    (listed : candidatesFor detected visible vram = lowest :: others) :
    exists index, selectAutoGpuIndex detected visible busy vram = [index] ∧
      Preferred (fun index => index ∈ lowest :: others) busy vram index := by
  have sorted : (lowest :: others).Pairwise (· < ·) := by
    rw [← listed]
    exact reported_pairwise _
  unfold candidatesFor at listed
  refine ⟨_, ?_, chosen_preferred distinct small sorted⟩
  simp only [selectAutoGpuIndex, if_neg counted, listed]
  split <;> rename_i ranked
  · rw [ranked]
    rfl
  · rw [ranked]
    rfl

/-! ## Independence of the orders -/

/-- Two optional lists that hold the same in some order. -/
def Reordered {Item : Type} : Option (List Item) -> Option (List Item) -> Prop
  | none, none => True
  | some first, some second => first.Perm second
  | _, _ => False

theorem Reordered.getD {Item : Type} {first second : Option (List Item)}
    (same : Reordered first second) : (first.getD []).Perm (second.getD []) := by
  cases first with
  | none =>
      cases second with
      | none => exact List.Perm.refl _
      | some items => exact same.elim
  | some items =>
      cases second with
      | none => exact same.elim
      | some others => exact same

theorem Reordered.isSome {Item : Type} {first second : Option (List Item)}
    (same : Reordered first second) : first.isSome = second.isSome := by
  cases first with
  | none =>
      cases second with
      | none => rfl
      | some items => exact same.elim
  | some items =>
      cases second with
      | none => exact same.elim
      | some others => rfl

theorem Reordered.length {Item : Type} {first second : Option (List Item)}
    (same : Reordered first second) : first.map List.length = second.map List.length := by
  cases first with
  | none =>
      cases second with
      | none => rfl
      | some items => exact same.elim
  | some items =>
      cases second with
      | none => exact same.elim
      | some others => exact congrArg some same.length_eq

variable {visible' : Option (List Nat)} {vram' : Option (List GpuVramUsage)}

theorem usageFor_reordered (distinct : ((rowsOf vram).map GpuVramUsage.index).Nodup)
    (same : Reordered vram vram') : usageFor vram = usageFor vram' := by
  have rows : (rowsOf vram).Perm (rowsOf vram') := same.getD
  have distinct' : ((rowsOf vram').map GpuVramUsage.index).Nodup :=
    (rows.map _).nodup_iff.mp distinct
  funext index
  apply Option.ext
  intro row
  rw [usageFor_eq_some distinct, usageFor_eq_some distinct', rows.mem_iff]

theorem namedOrdinals_reordered (same : Reordered vram vram') (count index : Nat) :
    index ∈ namedOrdinals detected vram count <-> index ∈ namedOrdinals detected vram' count := by
  cases vram with
  | none =>
      cases vram' with
      | none => exact Iff.rfl
      | some rows => exact same.elim
  | some rows =>
      cases vram' with
      | none => exact same.elim
      | some others =>
          have permuted : (rows.map GpuVramUsage.index).Perm (others.map GpuVramUsage.index) :=
            List.Perm.map _ same
          simp only [namedOrdinals, permuted.all_eq]
          split
          · exact (permuted.append_right _).mem_iff
          · exact permuted.mem_iff

theorem reported_reordered (sameVisible : Reordered visible visible')
    (sameRows : Reordered vram vram') (count : Nat) :
    reported detected visible vram count = reported detected visible' vram' count := by
  have strict (vis : Option (List Nat)) (rows : Option (List GpuVramUsage)) :=
    @reported_pairwise detected vis rows count
  have same (index : Nat) : index ∈ reported detected visible vram count <->
      index ∈ reported detected visible' vram' count := by
    rw [mem_reported, mem_reported, namedOrdinals_reordered sameRows]
    refine and_congr_right fun _ => ?_
    cases visible with
    | none =>
        cases visible' with
        | none => exact Iff.rfl
        | some set => exact sameVisible.elim
    | some set =>
        cases visible' with
        | none => exact sameVisible.elim
        | some others =>
            have member : index ∈ set <-> index ∈ others := List.Perm.mem_iff sameVisible
            simp [member]
  have permuted := (List.perm_ext_iff_of_nodup ((strict visible vram).imp Nat.ne_of_lt)
    ((strict visible' vram').imp Nat.ne_of_lt)).mpr same
  exact List.Perm.eq_of_pairwise (fun _ _ _ _ first second => absurd first (Nat.lt_asymm second))
    (strict visible vram) (strict visible' vram') permuted

theorem selectAutoGpuIndex_reordered {busy' : List Nat}
    (distinct : ((rowsOf vram).map GpuVramUsage.index).Nodup)
    (sameVisible : Reordered visible visible') (sameBusy : busy.Perm busy')
    (sameRows : Reordered vram vram') :
    selectAutoGpuIndex detected visible busy vram =
      selectAutoGpuIndex detected visible' busy' vram' := by
  have usage := usageFor_reordered distinct sameRows
  have idle : isIdle vram = isIdle vram' := by
    funext index
    rw [isIdle, isIdle, usage]
  have order : compareFree vram = compareFree vram' := by
    have free : freeFor vram = freeFor vram' := by
      funext index
      rw [freeFor, freeFor, usage]
    rw [compareFree, compareFree, free]
  have counts : effectiveGpuCount detected vram = effectiveGpuCount detected vram' := by
    rw [effectiveGpuCount, effectiveGpuCount, sameRows.length]
  have used : (fun index => !busy.contains index) = fun index => !busy'.contains index := by
    funext index
    rw [sameBusy.contains_eq]
  simp only [selectAutoGpuIndex, counts, reported_reordered sameVisible sameRows, idle, order, used,
    sameRows.isSome]

end

/-! ## The whole selection -/

/-- An automatic selection returns nothing exactly when there is nothing to
choose from, and else exactly the preferred ordinal.  No order matters to it,
and where a visible set is known an explicit selection of the same ordinal is
accepted. -/
theorem selectAutoGpuIndex_preferred (detected : Option Nat) (visible : Option (List Nat))
    (busy : List Nat) (vram : Option (List GpuVramUsage))
    (countSmall : forall count, detected = some count -> count < 2 ^ 32)
    (distinct : ((rowsOf vram).map GpuVramUsage.index).Nodup)
    (figures : forall row, row ∈ rowsOf vram ->
      row.index < 2 ^ 32 ∧ row.usedMb < 2 ^ 40 ∧ row.totalMb < 2 ^ 40) :
    (selectAutoGpuIndex detected visible busy vram = [] <->
        (effectiveGpuCount detected vram).getD 0 = 0 ∨
          forall index, ¬ Choosable detected visible vram index) ∧
      (selectAutoGpuIndex detected visible busy vram ≠ [] ->
        exists index, selectAutoGpuIndex detected visible busy vram = [index] ∧
          Preferred (Choosable detected visible vram) busy vram index ∧
          forall set, visible = some set -> forall count mask maskUnresolved,
            validatePinnedGpuIndex index count (some set) mask maskUnresolved =
              .ok { indices := [index], uncheckedWarning := none }) ∧
      forall visible' busy' vram', Reordered visible visible' -> busy.Perm busy' ->
        Reordered vram vram' ->
        selectAutoGpuIndex detected visible busy vram =
          selectAutoGpuIndex detected visible' busy' vram' := by
  have small (row : GpuVramUsage) (member : row ∈ rowsOf vram) : row.totalMb < 2 ^ 40 :=
    (figures row member).2.2
  have chosen (something : selectAutoGpuIndex detected visible busy vram ≠ []) :
      (effectiveGpuCount detected vram).getD 0 ≠ 0 ∧
        exists lowest others, candidatesFor detected visible vram = lowest :: others := by
    constructor
    · intro uncounted
      apply something
      simp only [selectAutoGpuIndex, if_pos uncounted]
    · cases listed : candidatesFor detected visible vram with
      | nil => exact absurd (selectAutoGpuIndex_of_nil listed) something
      | cons lowest others => exact ⟨lowest, others, rfl⟩
  refine ⟨⟨?_, ?_⟩, ?_, ?_⟩
  · intro nothing
    by_cases counted : (effectiveGpuCount detected vram).getD 0 = 0
    · exact Or.inl counted
    · right
      intro index choosable
      have member := (mem_candidatesFor countSmall counted index).mpr choosable
      cases listed : candidatesFor detected visible vram with
      | nil =>
          rw [listed] at member
          exact List.not_mem_nil member
      | cons lowest others =>
          rcases selectAutoGpuIndex_of_cons distinct small counted listed with ⟨_, one, _⟩
          rw [nothing] at one
          cases one
  · intro none_there
    by_contra something
    rcases chosen something with ⟨counted, lowest, others, listed⟩
    rcases none_there with uncounted | unchoosable
    · exact counted uncounted
    · have member : lowest ∈ candidatesFor detected visible vram := by
        rw [listed]
        exact List.mem_cons_self
      exact unchoosable lowest ((mem_candidatesFor countSmall counted lowest).mp member)
  · intro something
    rcases chosen something with ⟨counted, lowest, others, listed⟩
    have member (index : Nat) :
        index ∈ candidatesFor detected visible vram <-> Choosable detected visible vram index :=
      mem_candidatesFor countSmall counted index
    rcases selectAutoGpuIndex_of_cons distinct small counted listed with ⟨index, one, preferred⟩
    rw [← listed] at preferred
    simp only [member] at preferred
    refine ⟨index, one, preferred, ?_⟩
    rintro set rfl count mask maskUnresolved
    have inSet := preferred.may_be_chosen.2 set rfl
    have filled : set.isEmpty = false := List.isEmpty_eq_false_iff.mpr (List.ne_nil_of_mem inSet)
    simp [validatePinnedGpuIndex, filled, inSet]
  · intro visible' busy' vram' sameVisible sameBusy sameRows
    exact selectAutoGpuIndex_reordered distinct sameVisible sameBusy sameRows

theorem selectAutoGpuIndex_preferred_masked :
    selectAutoGpuIndex (some 3) (some [2, 1]) [1] (some [⟨1, 0, 16384⟩]) = [] <->
      (effectiveGpuCount (some 3) (some [⟨1, 0, 16384⟩])).getD 0 = 0 ∨
        forall index, ¬ Choosable (some 3) (some [2, 1]) (some [⟨1, 0, 16384⟩]) index :=
  (selectAutoGpuIndex_preferred (some 3) (some [2, 1]) [1] (some [⟨1, 0, 16384⟩])
    (fun count same => by cases same; decide) (by decide)
    (fun row member => by
      rw [rowsOf, Option.getD_some, List.mem_singleton] at member
      subst member
      decide)).1

end Gpu
end RocmCli
