import RocmCli.Support.Apportionment
import RocmCli.Support.Text

namespace RocmCli
namespace Telemetry

open Support.Apportionment

/-!
# Board power attributed to instances

Two nested loops credit every reporting GPU's power to the instances that
occupy it.  The result is shown to be one function of each single instance, and
from that function the conservation law, the independence of both orders and
the effect of a further instance are read off.
-/

/-! ## The data -/

/-- A discovered serving instance, as far as power attribution reads it. -/
structure Instance where
  containerId : String
  gpuIds : List String
deriving DecidableEq, Repr

/-- A power figure as an exact number; infinities and NaN are not finite. -/
inductive PowerFigure where
  | finite (watts : ℚ)
  | notFinite
deriving DecidableEq, Repr

/-- One GPU of a metrics snapshot, as far as power attribution reads it. -/
structure GpuMetrics where
  deviceId : String
  powerW : PowerFigure
deriving DecidableEq, Repr

/-- The VRAM reading of each container in MB, where there is one. -/
abbrev PerContainerVramMb := String -> Option Nat

/-! ## Joining identifiers -/

def normalizeGpuId (id : String) : String := (Text.stripPrefix "gpu-" id).getD id

def deviceIn (deviceId : String) (gpuIds : List String) : Bool :=
  gpuIds.any fun id => normalizeGpuId id == normalizeGpuId deviceId

/-! ## Attributing power -/

/-- The two vectors the outer loop fills. -/
structure Tally where
  watts : List ℚ
  matched : List Bool

/-- The power that counts: a finite and positive figure. -/
def positivePower (gpu : GpuMetrics) : Option ℚ :=
  match gpu.powerW with
  | .finite watts => if 0 < watts then some watts else none
  | .notFinite => none

/-- The positions of the instances that name a GPU. -/
def occupants (instances : List Instance) (gpu : GpuMetrics) : List Nat :=
  (instances.zipIdx.filter fun entry => deviceIn gpu.deviceId entry.1.gpuIds).map fun entry =>
    entry.2

/-- The VRAM of an instance on one of its GPUs; a zero reading is none. -/
def weightOf (perContainerVramMb : PerContainerVramMb) (inst : Instance) : Option ℚ :=
  ((perContainerVramMb inst.containerId).filter fun mb => 0 < mb).map fun mb : Nat =>
    (mb : ℚ) / (max inst.gpuIds.length 1 : Nat)

def weightsOf (instances : List Instance) (perContainerVramMb : PerContainerVramMb)
    (occupants : List Nat) : Option (List ℚ) :=
  collect (occupants.map fun k => instances[k]?.bind (weightOf perContainerVramMb))

/-- The share of the occupant at a position of the list of occupants. -/
def shareAt (weights : Option (List ℚ)) (count position : Nat) : ℚ :=
  match weights with
  | some weights =>
      if 0 < weights.sum then weights.getD position 0 / weights.sum else 1 / count
  | none => 1 / count

/-- One round of the inner loop. -/
def creditOccupant (power : ℚ) (weights : Option (List ℚ)) (count : Nat) (tally : Tally)
    (entry : Nat × Nat) : Tally :=
  { watts := credit tally.watts (entry.1, power * shareAt weights count entry.2)
    matched := tally.matched.set entry.1 true }

/-- One round of the outer loop. -/
def attributeGpu (instances : List Instance) (perContainerVramMb : PerContainerVramMb)
    (tally : Tally) (gpu : GpuMetrics) : Tally :=
  match positivePower gpu with
  | none => tally
  | some power =>
      let occupants := occupants instances gpu
      let weights := weightsOf instances perContainerVramMb occupants
      occupants.zipIdx.foldl (creditOccupant power weights occupants.length) tally

def attributePowerW (instances : List Instance) (gpus : List GpuMetrics)
    (perContainerVramMb : PerContainerVramMb) : List (Option ℚ) :=
  let tally := gpus.foldl (attributeGpu instances perContainerVramMb)
    { watts := List.replicate instances.length 0
      matched := List.replicate instances.length false }
  List.zipWith (fun watts matched => if matched then some watts else none)
    tally.watts tally.matched

/-! ## One instance's part of one GPU -/

/-- Whether an instance names a GPU. -/
def occupies (gpu : GpuMetrics) (inst : Instance) : Bool := deviceIn gpu.deviceId inst.gpuIds

/-- Whether an instance names a GPU whose power counts. -/
def drawsFrom (inst : Instance) (gpu : GpuMetrics) : Bool :=
  (positivePower gpu).isSome && occupies gpu inst

/-- The share of a GPU that one of its occupants gets. -/
def share (instances : List Instance) (perContainerVramMb : PerContainerVramMb)
    (gpu : GpuMetrics) (inst : Instance) : ℚ :=
  match collect ((instances.filter (occupies gpu)).map (weightOf perContainerVramMb)) with
  | some weights => (weightOf perContainerVramMb inst).getD 0 / weights.sum
  | none => 1 / (instances.filter (occupies gpu)).length

/-- The power of a GPU that an instance is attributed. -/
def part (instances : List Instance) (perContainerVramMb : PerContainerVramMb)
    (gpu : GpuMetrics) (inst : Instance) : ℚ :=
  if occupies gpu inst then
    (positivePower gpu).getD 0 * share instances perContainerVramMb gpu inst
  else 0

/-- What an instance is attributed of all GPUs. -/
def attributed (instances : List Instance) (gpus : List GpuMetrics)
    (perContainerVramMb : PerContainerVramMb) (inst : Instance) : Option ℚ :=
  if gpus.any (drawsFrom inst) then
    some ((gpus.map fun gpu => part instances perContainerVramMb gpu inst).sum)
  else none

section

variable {instances : List Instance} {perContainerVramMb : PerContainerVramMb} {gpu : GpuMetrics}

/-! ## The list of occupants -/

theorem occupants_nodup : (occupants instances gpu).Nodup := by
  have positions : (instances.zipIdx.map fun entry => entry.2).Nodup := by
    rw [List.zipIdx_map_snd]
    exact List.nodup_range'
  exact (List.filter_sublist.map _).nodup positions

theorem mem_occupants {k : Nat} :
    k ∈ occupants instances gpu <->
      exists inst, instances[k]? = some inst ∧ occupies gpu inst = true := by
  simp only [occupants, List.mem_map, List.mem_filter, Prod.exists, occupies]
  constructor
  · rintro ⟨inst, position, ⟨member, names⟩, rfl⟩
    exact ⟨inst, List.mem_zipIdx_iff_getElem?.mp member, names⟩
  · rintro ⟨inst, found, names⟩
    exact ⟨inst, k, ⟨List.mem_zipIdx_iff_getElem?.mpr found, names⟩, rfl⟩

/-- Looking the occupants up gives the instances that name the GPU. -/
theorem occupants_lookup (instances : List Instance) (gpu : GpuMetrics) :
    (occupants instances gpu).map (fun k => instances[k]?) =
      (instances.filter (occupies gpu)).map some := by
  have found (entry : Instance × Nat)
      (member : entry ∈ instances.zipIdx.filter fun entry => occupies gpu entry.1) :
      instances[entry.2]? = some entry.1 :=
    List.mem_zipIdx_iff_getElem?.mp (List.mem_of_mem_filter member)
  have first : instances.zipIdx.map (fun entry => entry.1) = instances := List.zipIdx_map_fst 0 _
  calc (occupants instances gpu).map (fun k => instances[k]?)
      = (instances.zipIdx.filter fun entry => occupies gpu entry.1).map
          (fun entry => instances[entry.2]?) := List.map_map
    _ = (instances.zipIdx.filter fun entry => occupies gpu entry.1).map
          (fun entry => some entry.1) := List.map_congr_left found
    _ = (((instances.zipIdx.map fun entry => entry.1).filter (occupies gpu)).map some) := by
        rw [List.filter_map, List.map_map]
        rfl
    _ = (instances.filter (occupies gpu)).map some := by rw [first]

theorem occupants_length :
    (occupants instances gpu).length = (instances.filter (occupies gpu)).length := by
  have same := congrArg List.length (occupants_lookup instances gpu)
  rwa [List.length_map, List.length_map] at same

theorem weightsOf_occupants :
    weightsOf instances perContainerVramMb (occupants instances gpu) =
      collect ((instances.filter (occupies gpu)).map (weightOf perContainerVramMb)) := by
  have looked : (occupants instances gpu).map
      (fun k => instances[k]?.bind (weightOf perContainerVramMb)) =
        ((occupants instances gpu).map fun k => instances[k]?).map
          (·.bind (weightOf perContainerVramMb)) := by
    rw [List.map_map]
    rfl
  rw [weightsOf, looked, occupants_lookup, List.map_map]
  rfl

variable {inst : Instance}

theorem weightOf_pos {weight : ℚ} (found : weightOf perContainerVramMb inst = some weight) :
    0 < weight := by
  rcases Option.map_eq_some_iff.mp found with ⟨mb, read, rfl⟩
  have positive : 0 < mb := by
    have passes := (Option.filter_eq_some_iff.mp read).2
    simpa using passes
  have spread : 0 < max inst.gpuIds.length 1 := by omega
  positivity

/-- Weights that are all known add up to a positive number. -/
theorem weights_pos {items : List Instance} {weights : List ℚ}
    (all : collect (items.map (weightOf perContainerVramMb)) = some weights)
    (some_item : items ≠ []) : 0 < weights.sum := by
  have same := collect_eq_some all
  apply List.sum_pos
  · intro weight member
    have inside : some weight ∈ items.map (weightOf perContainerVramMb) := by
      rw [same]
      exact List.mem_map_of_mem member
    rcases List.mem_map.mp inside with ⟨inst, _, found⟩
    exact weightOf_pos found
  · rintro rfl
    exact some_item (List.map_eq_nil_iff.mp same)

/-! ## One round -/

/-- The share at an occupant's place is the share of the instance there. -/
theorem shareAt_eq {position k : Nat} (listed : (occupants instances gpu)[position]? = some k)
    (found : instances[k]? = some inst) :
    shareAt (weightsOf instances perContainerVramMb (occupants instances gpu))
        (occupants instances gpu).length position =
      share instances perContainerVramMb gpu inst := by
  have placed : (instances.filter (occupies gpu))[position]? = some inst := by
    have same := congrArg (·[position]?) (occupants_lookup instances gpu)
    simpa [listed, found] using same.symm
  rw [weightsOf_occupants, occupants_length]
  unfold shareAt share
  cases all : collect ((instances.filter (occupies gpu)).map (weightOf perContainerVramMb)) with
  | none => rfl
  | some weights =>
      have some_item : instances.filter (occupies gpu) ≠ [] :=
        List.ne_nil_of_mem (List.mem_of_getElem? placed)
      have reading := congrArg (·[position]?) (collect_eq_some all)
      simp only [List.getElem?_map, placed, Option.map_some] at reading
      rcases Option.map_eq_some_iff.mp reading.symm with ⟨weight, there, same⟩
      simp only [if_pos (weights_pos all some_item), List.getD_eq_getElem?_getD, there, ← same,
        Option.getD_some]

/-- What one GPU adds to a place of the table. -/
theorem attributeGpu_watts (tally : Tally) (place : Nat) :
    (attributeGpu instances perContainerVramMb tally gpu).watts[place]? =
      tally.watts[place]?.map
        (· + instances[place]?.elim 0 (part instances perContainerVramMb gpu)) := by
  cases counts : positivePower gpu with
  | none =>
      have nothing : instances[place]?.elim 0 (part instances perContainerVramMb gpu) = 0 := by
        cases instances[place]? with
        | none => rfl
        | some inst => simp [part, counts]
      simp [attributeGpu, counts, nothing]
  | some power =>
      let weights := weightsOf instances perContainerVramMb (occupants instances gpu)
      let amount (k : Nat) : ℚ := instances[k]?.elim 0 (part instances perContainerVramMb gpu)
      have credited : (attributeGpu instances perContainerVramMb tally gpu).watts =
          ((occupants instances gpu).zipIdx.map fun entry =>
            (entry.1, power * shareAt weights (occupants instances gpu).length entry.2)).foldl
              credit tally.watts := by
        rw [List.foldl_map]
        simp only [attributeGpu, counts]
        refine (List.foldl_hom Tally.watts ?_).symm
        intro _ _
        rfl
      have each (entry : Nat × Nat) (member : entry ∈ (occupants instances gpu).zipIdx) :
          (if entry.1 = place then
              power * shareAt weights (occupants instances gpu).length entry.2 else 0) =
            if entry.1 = place then amount entry.1 else 0 := by
        have listed := List.mem_zipIdx_iff_getElem?.mp member
        rcases mem_occupants.mp (List.mem_of_getElem? listed) with ⟨inst, found, names⟩
        rw [shareAt_eq listed found]
        simp [amount, found, part, names, counts]
      have total : ((occupants instances gpu).zipIdx.map fun entry =>
          if entry.1 = place then amount entry.1 else 0).sum = amount place := by
        have first := List.zipIdx_map_fst 0 (occupants instances gpu)
        have projected : ((occupants instances gpu).zipIdx.map fun entry =>
            if entry.1 = place then amount entry.1 else 0) =
              (occupants instances gpu).map fun k => if k = place then amount k else 0 := by
          conv_rhs => rw [← first, List.map_map]
          rfl
        rw [projected, sum_at_position occupants_nodup]
        by_cases listed : place ∈ occupants instances gpu
        · rw [if_pos listed]
        · rw [if_neg listed]
          cases found : instances[place]? with
          | none => simp [amount, found]
          | some inst =>
              have free : occupies gpu inst = false := by
                apply Bool.eq_false_iff.mpr
                intro names
                exact listed (mem_occupants.mpr ⟨inst, found, names⟩)
              simp [amount, found, part, free]
      rw [credited, credits_getElem?, List.map_map]
      refine congrArg (fun sum : ℚ => tally.watts[place]?.map (· + sum)) ?_
      exact (congrArg List.sum (List.map_congr_left each)).trans total

/-- What one GPU marks. -/
theorem attributeGpu_matched (tally : Tally) (place : Nat) :
    (attributeGpu instances perContainerVramMb tally gpu).matched[place]? =
      tally.matched[place]?.map
        (· || instances[place]?.any fun inst => drawsFrom inst gpu) := by
  cases counts : positivePower gpu with
  | none =>
      have nothing : (instances[place]?.any fun inst => drawsFrom inst gpu) = false := by
        cases instances[place]? with
        | none => rfl
        | some inst => simp [drawsFrom, counts]
      simp [attributeGpu, counts, nothing]
  | some power =>
      have marked : (attributeGpu instances perContainerVramMb tally gpu).matched =
          (occupants instances gpu).foldl (fun flags k => flags.set k true) tally.matched := by
        have first := List.zipIdx_map_fst 0 (occupants instances gpu)
        conv_rhs => rw [← first, List.foldl_map]
        simp only [attributeGpu, counts]
        refine (List.foldl_hom Tally.matched ?_).symm
        intro _ _
        rfl
      have listed : decide (place ∈ occupants instances gpu) =
          instances[place]?.any fun inst => drawsFrom inst gpu := by
        rw [Bool.eq_iff_iff, decide_eq_true_iff, mem_occupants, Option.any_eq_true]
        simp [drawsFrom, counts]
      rw [marked, marks_getElem?, listed]

/-! ## All rounds -/

theorem attributeGpus_watts (gpus : List GpuMetrics) (tally : Tally) (place : Nat) :
    (gpus.foldl (attributeGpu instances perContainerVramMb) tally).watts[place]? =
      tally.watts[place]?.map (· + instances[place]?.elim 0 fun inst =>
        (gpus.map fun gpu => part instances perContainerVramMb gpu inst).sum) := by
  induction gpus generalizing tally with
  | nil => cases instances[place]? <;> simp
  | cons gpu rest ih =>
      rw [List.foldl_cons, ih, attributeGpu_watts, Option.map_map]
      refine congrFun (congrArg Option.map ?_) _
      funext watts
      cases instances[place]? with
      | none => simp
      | some inst => simp [add_assoc]

theorem attributeGpus_matched (gpus : List GpuMetrics) (tally : Tally) (place : Nat) :
    (gpus.foldl (attributeGpu instances perContainerVramMb) tally).matched[place]? =
      tally.matched[place]?.map
        (· || instances[place]?.any fun inst => gpus.any (drawsFrom inst)) := by
  induction gpus generalizing tally with
  | nil => cases instances[place]? <;> simp
  | cons gpu rest ih =>
      rw [List.foldl_cons, ih, attributeGpu_matched, Option.map_map]
      refine congrFun (congrArg Option.map ?_) _
      funext flag
      cases instances[place]? with
      | none => simp
      | some inst => simp [Bool.or_assoc]

/-- Both loops together give every instance what it is attributed. -/
theorem attributePowerW_eq (instances : List Instance) (gpus : List GpuMetrics)
    (perContainerVramMb : PerContainerVramMb) :
    attributePowerW instances gpus perContainerVramMb =
      instances.map (attributed instances gpus perContainerVramMb) := by
  apply List.ext_getElem?
  intro place
  simp only [attributePowerW, List.getElem?_zipWith, attributeGpus_watts, attributeGpus_matched,
    List.getElem?_map, List.getElem?_replicate]
  by_cases inside : place < instances.length
  · simp [inside, attributed]
  · simp [inside]

/-! ## The laws of the shares -/

theorem share_perm {others : List Instance} (same : instances.Perm others) (inst : Instance) :
    share instances perContainerVramMb gpu inst = share others perContainerVramMb gpu inst := by
  have occupying := same.filter (occupies gpu)
  have readings := occupying.map (weightOf perContainerVramMb)
  unfold share
  cases all : collect ((instances.filter (occupies gpu)).map (weightOf perContainerVramMb)) with
  | some weights =>
      rcases collect_perm readings all with ⟨others, found, permuted⟩
      simp only [found, permuted.sum_eq]
  | none =>
      have missing : collect ((others.filter (occupies gpu)).map
          (weightOf perContainerVramMb)) = none := by
        cases found : collect ((others.filter (occupies gpu)).map
            (weightOf perContainerVramMb)) with
        | none => rfl
        | some weights =>
            rcases collect_perm readings.symm found with ⟨_, there, _⟩
            rw [all] at there
            cases there
      simp only [missing, occupying.length_eq]

/-- An occupant's share is positive. -/
theorem share_pos (perContainerVramMb : PerContainerVramMb) (member : inst ∈ instances)
    (names : occupies gpu inst = true) : 0 < share instances perContainerVramMb gpu inst := by
  have inside : inst ∈ instances.filter (occupies gpu) := List.mem_filter.mpr ⟨member, names⟩
  unfold share
  cases all : collect ((instances.filter (occupies gpu)).map (weightOf perContainerVramMb)) with
  | none =>
      have count : 0 < (instances.filter (occupies gpu)).length := List.length_pos_of_mem inside
      positivity
  | some weights =>
      have read : weightOf perContainerVramMb inst ∈ weights.map some := by
        rw [← collect_eq_some all]
        exact List.mem_map_of_mem inside
      rcases List.mem_map.mp read with ⟨weight, _, same⟩
      have own := weightOf_pos same.symm
      have whole := weights_pos all (List.ne_nil_of_mem inside)
      simp only [← same, Option.getD_some]
      positivity

/-- The shares of a GPU's occupants add up to the whole GPU. -/
theorem sum_shares (perContainerVramMb : PerContainerVramMb)
    (occupied : instances.filter (occupies gpu) ≠ []) :
    ((instances.filter (occupies gpu)).map
      (share instances perContainerVramMb gpu)).sum = 1 := by
  unfold share
  cases all : collect ((instances.filter (occupies gpu)).map (weightOf perContainerVramMb)) with
  | none => exact sum_equal_parts occupied
  | some weights =>
      have proportions : (instances.filter (occupies gpu)).map
          (fun inst => (weightOf perContainerVramMb inst).getD 0 / weights.sum) =
            weights.map (· / weights.sum) := by
        have same := congrArg (List.map fun reading : Option ℚ => reading.getD 0 / weights.sum)
          (collect_eq_some all)
        rw [List.map_map, List.map_map] at same
        exact same
      rw [proportions, sum_proportions (weights_pos all occupied).ne']

theorem share_le_one (perContainerVramMb : PerContainerVramMb) (member : inst ∈ instances)
    (names : occupies gpu inst = true) : share instances perContainerVramMb gpu inst ≤ 1 := by
  have inside : inst ∈ instances.filter (occupies gpu) := List.mem_filter.mpr ⟨member, names⟩
  have total := sum_shares perContainerVramMb (List.ne_nil_of_mem inside)
  rw [← total]
  apply List.single_le_sum
  · intro other isShare
    rcases List.mem_map.mp isShare with ⟨occupant, isOccupant, rfl⟩
    have parts := List.mem_filter.mp isOccupant
    exact (share_pos _ parts.1 parts.2).le
  · exact List.mem_map_of_mem inside

/-- A further instance leaves nobody a greater share of a GPU whose occupants
all have a reading. -/
theorem share_cons_le {added : Instance}
    (read : forall other, other ∈ added :: instances -> occupies gpu other = true ->
      (weightOf perContainerVramMb other).isSome) (member : inst ∈ instances)
    (names : occupies gpu inst = true) :
    share (added :: instances) perContainerVramMb gpu inst ≤
      share instances perContainerVramMb gpu inst := by
  cases joins : occupies gpu added with
  | false =>
      have same : (added :: instances).filter (occupies gpu) =
          instances.filter (occupies gpu) := List.filter_cons_of_neg (by simp [joins])
      unfold share
      rw [same]
  | true =>
      have inside : inst ∈ instances.filter (occupies gpu) := List.mem_filter.mpr ⟨member, names⟩
      have whole : (collect ((instances.filter (occupies gpu)).map
          (weightOf perContainerVramMb))).isSome := by
        rw [collect_isSome_iff]
        intro reading isReading
        rcases List.mem_map.mp isReading with ⟨other, isOccupant, rfl⟩
        have parts := List.mem_filter.mp isOccupant
        exact read other (List.mem_cons_of_mem _ parts.1) parts.2
      rcases Option.isSome_iff_exists.mp whole with ⟨weights, all⟩
      rcases Option.isSome_iff_exists.mp (read added List.mem_cons_self joins) with ⟨more, weighs⟩
      rcases Option.isSome_iff_exists.mp
        (read inst (List.mem_cons_of_mem _ member) names) with ⟨own, weight⟩
      have grown : collect (((added :: instances).filter (occupies gpu)).map
          (weightOf perContainerVramMb)) = some (more :: weights) := by
        rw [List.filter_cons_of_pos joins, List.map_cons, weighs, collect, all]
        rfl
      have positive := weights_pos all (List.ne_nil_of_mem inside)
      have joined := weightOf_pos weighs
      have ownPositive := weightOf_pos weight
      unfold share
      simp only [grown, all, weight, Option.getD_some, List.sum_cons]
      gcongr
      exact le_add_of_nonneg_left joined.le

/-! ## The laws of the parts -/

theorem part_of_not_draws (draws : drawsFrom inst gpu = false) :
    part instances perContainerVramMb gpu inst = 0 := by
  cases counts : positivePower gpu with
  | none => simp [part, counts]
  | some power =>
      have free : occupies gpu inst = false := by simpa [drawsFrom, counts] using draws
      simp [part, free]

theorem positivePower_pos {power : ℚ} (counts : positivePower gpu = some power) : 0 < power := by
  unfold positivePower at counts
  split at counts
  · split at counts
    · cases counts
      assumption
    · cases counts
  · cases counts

/-- What an instance draws of a GPU it occupies is something, and no more than
the GPU reports. -/
theorem part_bounds (member : inst ∈ instances) (draws : drawsFrom inst gpu = true) :
    0 < part instances perContainerVramMb gpu inst ∧
      part instances perContainerVramMb gpu inst ≤ (positivePower gpu).getD 0 := by
  have both := Bool.and_eq_true_iff.mp draws
  rcases Option.isSome_iff_exists.mp both.1 with ⟨power, counts⟩
  have positive := positivePower_pos counts
  have lower := share_pos perContainerVramMb member both.2
  have upper := share_le_one perContainerVramMb member both.2
  simp only [part, counts, both.2, if_true, Option.getD_some]
  constructor
  · positivity
  · exact mul_le_of_le_one_right positive.le upper

/-- The parts of one GPU add up to its power, when somebody draws from it. -/
theorem sum_parts :
    (instances.map (part instances perContainerVramMb gpu)).sum =
      if instances.any fun inst => drawsFrom inst gpu then (positivePower gpu).getD 0 else 0 := by
  have selected := sum_selected instances (occupies gpu) ((positivePower gpu).getD 0)
    (share instances perContainerVramMb gpu)
  refine selected.trans ?_
  cases counts : positivePower gpu with
  | none => simp [drawsFrom, counts]
  | some power =>
      cases occupied : instances.any (occupies gpu) with
      | false =>
          have nobody : instances.filter (occupies gpu) = [] := by
            apply List.filter_eq_nil_iff.mpr
            exact List.any_eq_false.mp occupied
          simp [drawsFrom, counts, occupied, nobody]
      | true =>
          have somebody : instances.filter (occupies gpu) ≠ [] := by
            rcases List.any_eq_true.mp occupied with ⟨inst, member, names⟩
            exact List.ne_nil_of_mem (List.mem_filter.mpr ⟨member, names⟩)
          simp [drawsFrom, counts, occupied, sum_shares _ somebody]

theorem attributed_getD (gpus : List GpuMetrics) (inst : Instance) :
    (attributed instances gpus perContainerVramMb inst).getD 0 =
      (gpus.map fun gpu => part instances perContainerVramMb gpu inst).sum := by
  unfold attributed
  cases draws : gpus.any (drawsFrom inst) with
  | true => simp
  | false =>
      have nothing : (gpus.map fun gpu => part instances perContainerVramMb gpu inst) =
          gpus.map fun _ => 0 := by
        apply List.map_congr_left
        intro gpu member
        apply part_of_not_draws
        simpa using List.any_eq_false.mp draws gpu member
      simp [nothing]

/-- What an instance is attributed is nothing exactly when it draws from no
GPU, and else lies between zero and what its GPUs report. -/
theorem attributed_bounds {gpus : List GpuMetrics} (member : inst ∈ instances) :
    (attributed instances gpus perContainerVramMb inst = none <->
      forall gpu, gpu ∈ gpus -> drawsFrom inst gpu = false) ∧
      forall watts, attributed instances gpus perContainerVramMb inst = some watts ->
        0 < watts ∧
          watts ≤ ((gpus.filter (drawsFrom inst)).map fun gpu =>
            (positivePower gpu).getD 0).sum := by
  constructor
  · unfold attributed
    cases draws : gpus.any (drawsFrom inst) with
    | true =>
        rcases List.any_eq_true.mp draws with ⟨gpu, isGpu, drawn⟩
        constructor
        · intro absent
          cases absent
        · intro free
          rw [free gpu isGpu] at drawn
          cases drawn
    | false =>
        refine ⟨fun _ gpu isGpu => ?_, fun _ => rfl⟩
        simpa using List.any_eq_false.mp draws gpu isGpu
  · intro watts found
    have drawsAny : gpus.any (drawsFrom inst) = true := by
      by_contra none_drawn
      rw [attributed, if_neg none_drawn] at found
      cases found
    have selected : (gpus.map fun gpu => part instances perContainerVramMb gpu inst).sum =
        ((gpus.filter (drawsFrom inst)).map fun gpu =>
          part instances perContainerVramMb gpu inst).sum := by
      have one := sum_selected gpus (drawsFrom inst) 1
        fun gpu => part instances perContainerVramMb gpu inst
      rw [one_mul] at one
      rw [← one]
      refine congrArg List.sum (List.map_congr_left fun gpu _ => ?_)
      cases draws : drawsFrom inst gpu with
      | true => simp
      | false => simpa using part_of_not_draws draws
    rw [attributed, if_pos drawsAny, selected, Option.some_inj] at found
    rw [← found]
    constructor
    · apply List.sum_pos
      · intro amount isAmount
        rcases List.mem_map.mp isAmount with ⟨gpu, isGpu, rfl⟩
        exact (part_bounds member (List.mem_filter.mp isGpu).2).1
      · rcases List.any_eq_true.mp drawsAny with ⟨gpu, isGpu, drawn⟩
        exact List.ne_nil_of_mem
          (List.mem_map_of_mem (List.mem_filter.mpr ⟨isGpu, drawn⟩))
    · apply List.sum_le_sum
      intro gpu isGpu
      exact (part_bounds member (List.mem_filter.mp isGpu).2).2

theorem attributed_perm_instances {others : List Instance} (same : instances.Perm others)
    (gpus : List GpuMetrics) (inst : Instance) :
    attributed instances gpus perContainerVramMb inst =
      attributed others gpus perContainerVramMb inst := by
  simp only [attributed, part, share_perm same]

theorem attributed_perm_gpus {gpus others : List GpuMetrics} (same : gpus.Perm others)
    (inst : Instance) :
    attributed instances gpus perContainerVramMb inst =
      attributed instances others perContainerVramMb inst := by
  simp only [attributed, same.any_eq, (same.map _).sum_eq]

/-- The figures of two lists of GPUs, taken together. -/
def addWatts : Option ℚ -> Option ℚ -> Option ℚ
  | none, right => right
  | some left, none => some left
  | some left, some right => some (left + right)

theorem attributed_append (gpus others : List GpuMetrics) (inst : Instance) :
    attributed instances (gpus ++ others) perContainerVramMb inst =
      addWatts (attributed instances gpus perContainerVramMb inst)
        (attributed instances others perContainerVramMb inst) := by
  have nothing {list : List GpuMetrics} (free : list.any (drawsFrom inst) = false) :
      (list.map fun gpu => part instances perContainerVramMb gpu inst).sum = 0 := by
    rw [← attributed_getD, attributed, if_neg (by simp [free])]
    rfl
  unfold attributed
  cases first : gpus.any (drawsFrom inst) with
  | true =>
      cases second : others.any (drawsFrom inst) with
      | true => simp [first, second, addWatts]
      | false => simp [first, second, addWatts, nothing second]
  | false =>
      cases second : others.any (drawsFrom inst) with
      | true => simp [first, second, addWatts, nothing first]
      | false => simp [first, second, addWatts]

/-- What a further instance does to the figure of another on one GPU whose
occupants all have a reading. -/
theorem attributed_cons_le {added : Instance} {before after : Option ℚ}
    (read : forall other, other ∈ added :: instances -> occupies gpu other = true ->
      (weightOf perContainerVramMb other).isSome) (member : inst ∈ instances)
    (first : attributed instances [gpu] perContainerVramMb inst = before)
    (second : attributed (added :: instances) [gpu] perContainerVramMb inst = after) :
    after.getD 0 ≤ before.getD 0 := by
  rw [← first, ← second, attributed_getD, attributed_getD]
  simp only [List.map_cons, List.map_nil, List.sum_singleton]
  cases draws : drawsFrom inst gpu with
  | false => rw [part_of_not_draws draws, part_of_not_draws draws]
  | true =>
      have both := Bool.and_eq_true_iff.mp draws
      rcases Option.isSome_iff_exists.mp both.1 with ⟨power, counts⟩
      have positive := positivePower_pos counts
      have smaller := share_cons_le read member both.2
      simp only [part, both.2, if_true, counts, Option.getD_some]
      exact mul_le_mul_of_nonneg_left smaller positive.le

end

/-- A container's VRAM reading; the figure zero is none. -/
def HasReading (perContainerVramMb : PerContainerVramMb) (inst : Instance) : Prop :=
  exists mb, perContainerVramMb inst.containerId = some mb ∧ 0 < mb

theorem weightOf_isSome {perContainerVramMb : PerContainerVramMb} {inst : Instance}
    (read : HasReading perContainerVramMb inst) :
    (weightOf perContainerVramMb inst).isSome := by
  rcases read with ⟨mb, found, positive⟩
  simp [weightOf, found, positive]

/-- Attribution conserves board power.  The figures add up to the power of the
GPUs somebody occupies; each lies between nothing and its GPUs' power; neither
order matters; and the figures of several GPUs are those of each GPU added up,
on each of which a further instance takes from the others where all occupants
have a reading. -/
theorem attributePowerW_conserves (instances : List Instance) (gpus : List GpuMetrics)
    (perContainerVramMb : PerContainerVramMb) :
    ((attributePowerW instances gpus perContainerVramMb).map (·.getD 0)).sum =
        ((gpus.filter fun gpu => instances.any fun inst => drawsFrom inst gpu).map fun gpu =>
          (positivePower gpu).getD 0).sum ∧
      (forall (k : Nat) (inst : Instance), instances[k]? = some inst -> exists figure,
        (attributePowerW instances gpus perContainerVramMb)[k]? = some figure ∧
          (figure = none <-> forall gpu, gpu ∈ gpus -> drawsFrom inst gpu = false) ∧
          forall watts, figure = some watts ->
            0 < watts ∧
              watts ≤ ((gpus.filter (drawsFrom inst)).map fun gpu =>
                (positivePower gpu).getD 0).sum) ∧
      (forall order : List Nat, order.Perm (List.range instances.length) ->
        attributePowerW (order.filterMap fun k => instances[k]?) gpus perContainerVramMb =
          order.filterMap fun k => (attributePowerW instances gpus perContainerVramMb)[k]?) ∧
      (forall others : List GpuMetrics, gpus.Perm others ->
        attributePowerW instances gpus perContainerVramMb =
          attributePowerW instances others perContainerVramMb) ∧
      (forall others : List GpuMetrics,
        attributePowerW instances (gpus ++ others) perContainerVramMb =
          List.zipWith addWatts (attributePowerW instances gpus perContainerVramMb)
            (attributePowerW instances others perContainerVramMb)) ∧
      forall (before after : List Instance) (added : Instance) (gpu : GpuMetrics) (k : Nat),
        instances = before ++ after -> k < instances.length ->
        (forall other, other ∈ before ++ added :: after -> occupies gpu other = true ->
          HasReading perContainerVramMb other) ->
        exists alone joined,
          (attributePowerW instances [gpu] perContainerVramMb)[k]? = some alone ∧
          (attributePowerW (before ++ added :: after) [gpu] perContainerVramMb)[
            if k < before.length then k else k + 1]? = some joined ∧
          joined.getD 0 ≤ alone.getD 0 := by
  refine ⟨?_, ?_, ?_, ?_, ?_, ?_⟩
  · calc ((attributePowerW instances gpus perContainerVramMb).map (·.getD 0)).sum
        = (instances.map fun inst =>
            (gpus.map fun gpu => part instances perContainerVramMb gpu inst).sum).sum := by
          rw [attributePowerW_eq, List.map_map]
          exact congrArg List.sum (List.map_congr_left fun inst _ => attributed_getD gpus inst)
      _ = (gpus.map fun gpu => (instances.map fun inst =>
            part instances perContainerVramMb gpu inst).sum).sum := sum_comm _ _ _
      _ = (gpus.map fun gpu => if instances.any fun inst => drawsFrom inst gpu then
            (1 : ℚ) * (positivePower gpu).getD 0 else 0).sum := by
          refine congrArg List.sum (List.map_congr_left fun gpu _ => ?_)
          rw [one_mul]
          exact sum_parts
      _ = _ := by rw [sum_selected, one_mul]
  · intro k inst found
    refine ⟨attributed instances gpus perContainerVramMb inst, ?_,
      attributed_bounds (List.mem_of_getElem? found)⟩
    rw [attributePowerW_eq, List.getElem?_map, found]
    rfl
  · intro order permuted
    have same : (order.filterMap fun k => instances[k]?).Perm instances := by
      refine (permuted.filterMap _).trans (List.Perm.of_eq ?_)
      exact filterMap_range_getElem? instances
    rw [attributePowerW_eq, attributePowerW_eq, List.map_filterMap]
    simp only [List.getElem?_map]
    refine List.filterMap_congr fun k _ => ?_
    refine congrFun (congrArg Option.map ?_) _
    funext inst
    exact attributed_perm_instances same gpus inst
  · intro others permuted
    rw [attributePowerW_eq, attributePowerW_eq]
    exact List.map_congr_left fun inst _ => attributed_perm_gpus permuted inst
  · intro others
    simp only [attributePowerW_eq, List.zipWith_map, List.zipWith_self]
    exact List.map_congr_left fun inst _ => attributed_append gpus others inst
  · rintro before after added gpu k rfl inside read
    have found : (before ++ after)[k]? = some (before ++ after)[k] := List.getElem?_eq_getElem inside
    have moved := (getElem?_insert before after added k).trans found
    generalize (before ++ after)[k] = inst at found moved
    refine ⟨attributed (before ++ after) [gpu] perContainerVramMb inst,
      attributed (before ++ added :: after) [gpu] perContainerVramMb inst, ?_, ?_, ?_⟩
    · rw [attributePowerW_eq, List.getElem?_map, found]
      rfl
    · rw [attributePowerW_eq, List.getElem?_map, moved]
      rfl
    · have same : (before ++ added :: after).Perm (added :: (before ++ after)) :=
        List.perm_middle
      have allRead (other : Instance) (member : other ∈ added :: (before ++ after))
          (names : occupies gpu other = true) : (weightOf perContainerVramMb other).isSome :=
        weightOf_isSome (read other (same.mem_iff.mpr member) names)
      exact attributed_cons_le allRead (List.mem_of_getElem? found) rfl
        (attributed_perm_instances same [gpu] inst).symm

end Telemetry
end RocmCli
