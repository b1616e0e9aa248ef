import RocmCli.Support.BestFirst
import RocmCli.Support.Binary64
import Mathlib.Data.List.Sort

namespace RocmCli
namespace Gpu

open Support.Binary64 BestFirst

/-!
# Automatic GPU choice

The ordinals a selection may hand out come from telemetry rows, from a device
count, or from both, cut to the visible set.  Three passes rank them.  The
choice is characterised by which ordinals exist and which of them is preferred,
without the passes, and it satisfies the check of an explicit ordinal.
-/

/-! ## The data -/

/-- A GPU's local VRAM occupancy. -/
structure GpuVramUsage where
  index : Nat
  usedMb : Nat
  totalMb : Nat
deriving DecidableEq, Repr

namespace GpuVramUsage

/-- VRAM currently free, in MiB. -/
def freeMb (usage : GpuVramUsage) : Nat := usage.totalMb - usage.usedMb

/-- The fraction of the VRAM that is free, in binary64; nothing when the total
is unknown. -/
def freeFraction (usage : GpuVramUsage) : Option ℚ :=
  if usage.totalMb = 0 then none
  else some (nearest (nearest usage.freeMb / nearest usage.totalMb))

end GpuVramUsage

def autoFreeVramFraction : ℚ := nearest (9 / 10)

/-- The GPU count to rank candidates over. -/
def effectiveGpuCount (detected : Option Nat) (vram : Option (List GpuVramUsage)) : Option Nat :=
  (detected.filter fun count => 0 < count).or
    ((vram.map List.length).filter fun count => 0 < count)

/-! ## The selection -/

/-- Remove ordinals that follow their like. -/
def dedup : List Nat -> List Nat
  | [] => []
  | [only] => [only]
  | first :: second :: rest =>
      if first = second then dedup (second :: rest) else first :: dedup (second :: rest)

/-- The ordinals `0..count as u32`. -/
def ordinalsBelow (count : Nat) : List Nat := List.range (count % 2 ^ 32)

/-- The ordinals that the telemetry rows and the device count speak for. -/
def namedOrdinals (detected : Option Nat) (vram : Option (List GpuVramUsage)) (count : Nat) :
    List Nat :=
  match vram with
  | some rows =>
      let indices := rows.map GpuVramUsage.index
      let countIsIndependentlySourced := detected.any fun detected => 0 < detected
      let rowsAreADenseRangeSubset := indices.all fun index => index < count
      if countIsIndependentlySourced && rowsAreADenseRangeSubset then
        indices ++ ordinalsBelow count
      else indices
  | none => ordinalsBelow count

/-- The ordinals a selection may hand out, lowest first. -/
def reported (detected : Option Nat) (visible : Option (List Nat))
    (vram : Option (List GpuVramUsage)) (count : Nat) : List Nat :=
  let ordinals := dedup ((namedOrdinals detected vram count).mergeSort fun left right =>
    decide (left ≤ right))
  match visible with
  | some visible => ordinals.filter fun index => visible.contains index
  | none => ordinals

def usageFor (vram : Option (List GpuVramUsage)) (index : Nat) : Option GpuVramUsage :=
  vram.bind fun rows => rows.find? fun row => row.index = index

/-- Whether the first pass takes an ordinal. -/
def isIdle (vram : Option (List GpuVramUsage)) (index : Nat) : Bool :=
  ((usageFor vram index).bind GpuVramUsage.freeFraction).any fun free =>
    autoFreeVramFraction ≤ free

/-- The free VRAM of an ordinal, where a row reports it. -/
def freeFor (vram : Option (List GpuVramUsage)) (index : Nat) : Option Nat :=
  (usageFor vram index).map GpuVramUsage.freeMb

/-- How the second pass compares two ordinals: by free VRAM, and for equal
figures the other way round. -/
def compareFree (vram : Option (List GpuVramUsage)) : Nat -> Nat -> Ordering :=
  compareLex (compareOn (freeFor vram)) fun left right => compare right left

def selectAutoGpuIndex (detected : Option Nat) (visible : Option (List Nat)) (busy : List Nat)
    (vram : Option (List GpuVramUsage)) : List Nat :=
  let count := (effectiveGpuCount detected vram).getD 0
  if count = 0 then []
  else
    match reported detected visible vram count with
    | [] => []
    | lowest :: others =>
        let candidates := (lowest :: others).filter fun index => !busy.contains index
        let ranked :=
          if vram.isSome then
            (candidates.find? (isIdle vram)).or (maxBy (compareFree vram) candidates)
          else none
        match ranked.or candidates.head? with
        | some index => [index]
        | none => [lowest]

/-! ## An explicit ordinal -/

/-- An explicit ordinal that was let through. -/
structure PinnedGpuIndex where
  indices : List Nat
  uncheckedWarning : Option String
deriving DecidableEq, Repr

def uncheckedIndexWarning (index : Nat) (maskUnresolved : Bool) (mask : Option String) : String :=
  if maskUnresolved then
    "HIP_VISIBLE_DEVICES could not be resolved to GPU ordinals on this host (an empty value, " ++
      "a UUID, or an ordinal past the adapters Windows lists), so `--gpu " ++ toString index ++
      "` was checked only against the GPU count, not against that mask"
  else
    match mask with
    | some vars =>
        vars ++ " is set but the usable GPUs could not be listed to apply it to, so `--gpu " ++
          toString index ++ "` was checked only against the GPU count, not against that mask"
    | none =>
        "could not list the AMD GPUs on this host, so `--gpu " ++ toString index ++
          "` was not checked against them"

def validatePinnedGpuIndex (index : Nat) (detected : Option Nat) (visible : Option (List Nat))
    (mask : Option String) (maskUnresolved : Bool) : Except String PinnedGpuIndex :=
  match visible with
  | some visible =>
      if visible.isEmpty then
        match mask with
        | some vars =>
            .error ("no usable AMD GPU is available under the active visibility mask (" ++ vars ++
              "); `--gpu " ++ toString index ++ "` cannot be honoured")
        | none =>
            .error ("no usable AMD GPU is present on this host; `--gpu " ++ toString index ++
              "` cannot be honoured")
      else if !visible.contains index then
        let list := ", ".intercalate (visible.map toString)
        match mask with
        | some vars =>
            .error ("--gpu index " ++ toString index ++
              " is not available under the active visibility mask (" ++ vars ++
              "); usable GPU indices: [" ++ list ++ "]")
        | none =>
            .error ("--gpu index " ++ toString index ++
              " is not present on this host; usable GPU indices: [" ++ list ++ "]")
      else .ok { indices := [index], uncheckedWarning := none }
  | none =>
      match detected with
      | none =>
          .ok { indices := [index]
                uncheckedWarning := some (uncheckedIndexWarning index maskUnresolved mask) }
      | some count =>
          if count = 0 then
            .error ("--gpu index " ++ toString index ++
              " cannot be honoured; no GPUs were detected" ++
              if maskUnresolved then
                " (HIP_VISIBLE_DEVICES could not be resolved to GPU ordinals)"
              else "")
          else if count ≤ index then
            .error ("--gpu index " ++ toString index ++ " is out of range; " ++ toString count ++
              " GPU(s) detected (valid indices 0.." ++ toString (count - 1) ++ ")" ++
              if maskUnresolved then
                "; HIP_VISIBLE_DEVICES could not be resolved to GPU ordinals, so the count is " ++
                  "the only bound"
              else "")
          else
            .ok { indices := [index]
                  uncheckedWarning :=
                    if maskUnresolved || mask.isSome then
                      some (uncheckedIndexWarning index maskUnresolved mask)
                    else none }

/-! ## Which ordinals may be chosen -/

def rowsOf (vram : Option (List GpuVramUsage)) : List GpuVramUsage := vram.getD []

/-- The ordinals that exist: those a row names and, where no row speaks against
a dense range, those below the count. -/
def Present (detected : Option Nat) (vram : Option (List GpuVramUsage)) (index : Nat) : Prop :=
  (exists row, row ∈ rowsOf vram ∧ row.index = index) ∨
    ((rowsOf vram = [] ∨ exists count, detected = some count ∧ 0 < count ∧
        forall row, row ∈ rowsOf vram -> row.index < count) ∧
      index < (effectiveGpuCount detected vram).getD 0)

/-- The ordinals that exist and are visible. -/
def Choosable (detected : Option Nat) (visible : Option (List Nat))
    (vram : Option (List GpuVramUsage)) (index : Nat) : Prop :=
  Present detected vram index ∧ forall set, visible = some set -> index ∈ set

section

variable {detected : Option Nat} {visible : Option (List Nat)} {busy : List Nat}
  {vram : Option (List GpuVramUsage)}

@[simp] theorem mem_dedup (ordinals : List Nat) (index : Nat) :
    index ∈ dedup ordinals <-> index ∈ ordinals := by
  fun_induction dedup ordinals with
  | case1 => exact Iff.rfl
  | case2 only => exact Iff.rfl
  | case3 second rest ih => simp [ih]
  | case4 first second rest _ ih => simp [ih]

/-- A sorted list without its repetitions is strictly sorted. -/
theorem dedup_pairwise {ordinals : List Nat} (sorted : ordinals.Pairwise (· ≤ ·)) :
    (dedup ordinals).Pairwise (· < ·) := by
  fun_induction dedup ordinals with
  | case1 => exact List.Pairwise.nil
  | case2 only => exact List.pairwise_singleton _ _
  | case3 second rest ih =>
      exact ih (List.pairwise_cons.mp sorted).2
  | case4 first second rest different ih =>
      have parts := List.pairwise_cons.mp sorted
      refine List.pairwise_cons.mpr ⟨fun index member => ?_, ih parts.2⟩
      have first_le := parts.1 second List.mem_cons_self
      rcases List.mem_cons.mp ((mem_dedup _ _).mp member) with rfl | inRest
      · omega
      · have second_le := (List.pairwise_cons.mp parts.2).1 index inRest
        omega

theorem reported_pairwise (count : Nat) :
    (reported detected visible vram count).Pairwise (· < ·) := by
  have sorted : ((namedOrdinals detected vram count).mergeSort fun left right =>
      decide (left ≤ right)).Pairwise (· ≤ ·) := by
    have transitive (low middle high : Nat) (first : decide (low ≤ middle) = true)
        (second : decide (middle ≤ high) = true) : decide (low ≤ high) = true :=
      decide_eq_true (Nat.le_trans (of_decide_eq_true first) (of_decide_eq_true second))
    have total (left right : Nat) : (decide (left ≤ right) || decide (right ≤ left)) = true := by
      rcases Nat.le_total left right with order | order <;> simp [order]
    exact (List.pairwise_mergeSort transitive total _).imp of_decide_eq_true
  have strict := dedup_pairwise sorted
  unfold reported
  cases visible with
  | none => exact strict
  | some set => exact strict.filter _

theorem mem_reported (count index : Nat) :
    index ∈ reported detected visible vram count <->
      index ∈ namedOrdinals detected vram count ∧ forall set, visible = some set -> index ∈ set := by
  unfold reported
  cases visible with
  | none => simp
  | some set => simp

theorem mem_ordinalsBelow {count index : Nat} (small : count < 2 ^ 32) :
    index ∈ ordinalsBelow count <-> index < count := by
  rw [ordinalsBelow, List.mem_range, Nat.mod_eq_of_lt small]

theorem effectiveGpuCount_some {count : Nat} (positive : 0 < count) :
    effectiveGpuCount (some count) vram = some count := by
  rw [effectiveGpuCount, Option.filter_some, if_pos (decide_eq_true positive), Option.some_or]

/-- Without a count of its own, a selection has as many ordinals as rows. -/
theorem effectiveGpuCount_none (alone : ¬ exists count, detected = some count ∧ 0 < count) :
    effectiveGpuCount detected vram = (vram.map List.length).filter fun count => 0 < count := by
  have filtered : (detected.filter fun count => decide (0 < count)) = none := by
    rw [Option.filter_eq_none_iff]
    intro count found positive
    exact alone ⟨count, found, of_decide_eq_true positive⟩
  rw [effectiveGpuCount, filtered, Option.none_or]

/-- The rows and the count speak for the ordinals that exist. -/
theorem mem_namedOrdinals (small : forall count, detected = some count -> count < 2 ^ 32)
    (counted : (effectiveGpuCount detected vram).getD 0 ≠ 0) (index : Nat) :
    index ∈ namedOrdinals detected vram ((effectiveGpuCount detected vram).getD 0) <->
      Present detected vram index := by
  by_cases independent : exists count, detected = some count ∧ 0 < count
  · rcases independent with ⟨count, rfl, positive⟩
    have below := small count rfl
    rw [Present, effectiveGpuCount_some positive, Option.getD_some]
    cases vram with
    | none =>
        simp only [namedOrdinals, mem_ordinalsBelow below, rowsOf, Option.getD_none]
        simp
    | some rows =>
        by_cases dense : forall row, row ∈ rows -> row.index < count
        · have all : (rows.map GpuVramUsage.index).all (fun index => decide (index < count)) =
              true := by simpa using dense
          have bounded : rowsOf (some rows) = [] ∨ exists number, some count = some number ∧
              0 < number ∧ forall row, row ∈ rowsOf (some rows) -> row.index < number :=
            Or.inr ⟨count, rfl, positive, dense⟩
          simp only [namedOrdinals, all, Option.any_some, positive, decide_true, Bool.and_self,
            if_true, List.mem_append, mem_ordinalsBelow below, bounded, true_and, List.mem_map]
          exact Iff.rfl
        · have notAll : (rows.map GpuVramUsage.index).all (fun index => decide (index < count)) =
              false := by
            apply Bool.eq_false_iff.mpr
            intro all
            exact dense (by simpa using all)
          have some_row : rows ≠ [] := by
            rintro rfl
            exact dense fun row member => absurd member List.not_mem_nil
          simp only [namedOrdinals, notAll, Bool.and_false, rowsOf, Option.getD_some]
          constructor
          · intro member
            left
            simpa using member
          · rintro (row | ⟨empty | ⟨other, same, _, bounded⟩, _⟩)
            · simpa using row
            · exact absurd empty some_row
            · cases same
              exact absurd bounded dense
  · rw [effectiveGpuCount_none independent] at counted
    cases vram with
    | none => exact absurd rfl counted
    | some rows =>
        have alone : (detected.any fun detected => decide (0 < detected)) = false := by
          cases detected with
          | none => rfl
          | some count =>
              apply decide_eq_false
              intro positive
              exact independent ⟨count, rfl, positive⟩
        have some_row : rows ≠ [] := by
          rintro rfl
          exact counted rfl
        simp only [namedOrdinals, alone, Bool.false_and, Present, rowsOf, Option.getD_some]
        constructor
        · intro member
          left
          simpa using member
        · rintro (row | ⟨empty | ⟨count, found, positive, _⟩, _⟩)
          · simpa using row
          · exact absurd empty some_row
          · exact absurd ⟨count, found, positive⟩ independent

end

end Gpu
end RocmCli
