import Mathlib.Order.Monotone.Basic

namespace RocmCli
namespace Support.Thresholds

/-!
# The threshold of a monotone test

A test on numbers that holds up to some number and nowhere above it is decided
by that number.  Stepping down and then up finds it from any start, and a
binary search finds it between two bounds.
-/

/-! ## Stepping -/

/-- Step down to a number that passes, or to zero. -/
def lower (test : Nat -> Bool) : Nat -> Nat
  | 0 => 0
  | number + 1 => if test (number + 1) then number + 1 else lower test number

/-- Step up to a limit while the next number passes. -/
def raise (test : Nat -> Bool) (limit number : Nat) : Nat :=
  if number < limit ∧ test (number + 1) = true then raise test limit (number + 1) else number
termination_by limit - number

variable {test : Nat -> Bool}

theorem lower_le (number : Nat) : lower test number ≤ number := by
  induction number with
  | zero => exact Nat.le_refl _
  | succ number ih =>
      unfold lower
      split
      · exact Nat.le_refl _
      · exact Nat.le_succ_of_le ih

theorem lower_passes {number : Nat} (positive : 0 < lower test number) :
    test (lower test number) = true := by
  induction number with
  | zero => cases positive
  | succ number ih =>
      unfold lower at positive ⊢
      split at positive
      · rename_i passes
        rwa [if_pos passes]
      · rename_i fails
        rw [if_neg fails]
        exact ih positive

theorem raise_le {limit number : Nat} (within : number ≤ limit) :
    raise test limit number ≤ limit := by
  fun_induction raise test limit number with
  | case1 number goes ih => exact ih goes.1
  | case2 number stops => exact within

theorem raise_passes {limit number : Nat} (start : 0 < number -> test number = true)
    (positive : 0 < raise test limit number) : test (raise test limit number) = true := by
  fun_induction raise test limit number with
  | case1 number goes ih => exact ih (fun _ => goes.2) positive
  | case2 number stops => exact start positive

/-- Where stepping up ends, the limit is reached or the next number fails. -/
theorem raise_stops (limit number : Nat) :
    limit ≤ raise test limit number ∨ test (raise test limit number + 1) = false := by
  fun_induction raise test limit number with
  | case1 number goes ih => exact ih
  | case2 number stops =>
      rcases Nat.lt_or_ge number limit with below | reached
      · right
        exact Bool.eq_false_iff.mpr fun passes => stops ⟨below, passes⟩
      · exact Or.inl reached

/-- Stepping down and then up finds the greatest number that passes. -/
theorem raise_lower_greatest
    (antitone : forall smaller larger, smaller ≤ larger -> test larger = true ->
      test smaller = true)
    {limit number : Nat} (within : number ≤ limit) :
    raise test limit (lower test number) ≤ limit ∧
      (0 < raise test limit (lower test number) ->
        test (raise test limit (lower test number)) = true) ∧
      forall other, other ≤ limit -> test other = true ->
        other ≤ raise test limit (lower test number) := by
  refine ⟨raise_le (Nat.le_trans (lower_le number) within),
    raise_passes fun positive => lower_passes positive, ?_⟩
  intro other inside passes
  rcases raise_stops limit (lower test number) with reached | fails
  · exact Nat.le_trans inside reached
  · by_contra above
    have next := antitone _ other (Nat.lt_of_not_le above) passes
    rw [fails] at next
    cases next

/-! ## Bisecting -/

/-- The first number between two bounds that is not below the threshold, or the
upper bound. -/
def firstNotBelow (below : Nat -> Bool) (low high : Nat) : Nat :=
  if low < high then
    if below (low + (high - low) / 2) then
      firstNotBelow below (low + (high - low) / 2 + 1) high
    else firstNotBelow below low (low + (high - low) / 2)
  else low
termination_by high - low

section

variable {below : Nat -> Bool}

/-- The search ends between its bounds; all before it are below the threshold,
and it is not, unless it is the upper bound. -/
theorem firstNotBelow_spec
    (monotone : forall smaller larger, smaller ≤ larger -> below larger = true ->
      below smaller = true)
    {low high : Nat} (ordered : low ≤ high) :
    low ≤ firstNotBelow below low high ∧ firstNotBelow below low high ≤ high ∧
      (forall number, low ≤ number -> number < firstNotBelow below low high ->
        below number = true) ∧
      (firstNotBelow below low high < high -> below (firstNotBelow below low high) = false) := by
  fun_induction firstNotBelow below low high with
  | case1 low high apart isBelow ih =>
      have inside : low + (high - low) / 2 + 1 ≤ high := by omega
      rcases ih inside with ⟨after, within, passed, stops⟩
      refine ⟨by omega, within, ?_, stops⟩
      intro number least before
      rcases Nat.lt_or_ge (low + (high - low) / 2) number with later | earlier
      · exact passed number later before
      · exact monotone number _ earlier isBelow
  | case2 low high apart notBelow ih =>
      have inside : low ≤ low + (high - low) / 2 := by omega
      rcases ih inside with ⟨after, within, passed, stops⟩
      refine ⟨after, by omega, passed, ?_⟩
      intro _
      rcases Nat.eq_or_lt_of_le within with same | before
      · rw [same]
        exact Bool.eq_false_iff.mpr notBelow
      · exact stops before
  | case3 low high together =>
      have same : low = high := Nat.le_antisymm ordered (Nat.le_of_not_lt together)
      subst same
      refine ⟨Nat.le_refl _, Nat.le_refl _, ?_, fun before => absurd before (Nat.lt_irrefl _)⟩
      intro number least before
      exact absurd least (Nat.not_le.mpr before)

end

/-! ## Inverting a monotone map -/

/-- How far two numbers are apart. -/
def apart (left right : Nat) : Nat := (left - right) + (right - left)

/-- The first number whose image reaches a value. -/
def firstReaching (image : Nat -> Nat) (top wanted : Nat) : Nat :=
  firstNotBelow (fun number => image number < wanted) 0 top

/-- A number whose image is as near as possible to a value: the number given
where its image is the value, else the nearest that has it, else the nearer
neighbour. -/
def invert (image : Nat -> Nat) (top wanted given : Nat) : Nat :=
  let first := firstReaching image top wanted
  if image first = wanted then max first (min given (firstReaching image top (wanted + 1) - 1))
  else if wanted - image (first - 1) ≤ image first - wanted then first - 1
  else first

section

variable {image : Nat -> Nat} {top wanted : Nat}

/-- The first number that reaches a value within the range of a monotone map. -/
theorem firstReaching_spec (monotone : Monotone image) (reached : wanted ≤ image top) :
    firstReaching image top wanted ≤ top ∧
      wanted ≤ image (firstReaching image top wanted) ∧
      forall number, number < firstReaching image top wanted -> image number < wanted := by
  have spec := @firstNotBelow_spec (fun number => decide (image number < wanted))
    (fun smaller larger le isBelow => decide_eq_true
      (Nat.lt_of_le_of_lt (monotone le) (of_decide_eq_true isBelow)))
    0 top (Nat.zero_le top)
  rcases spec with ⟨_, within, passed, stops⟩
  refine ⟨within, ?_, fun number before =>
    of_decide_eq_true (passed number (Nat.zero_le _) before)⟩
  rcases Nat.eq_or_lt_of_le within with same | inside
  · unfold firstReaching
    rw [same]
    exact reached
  · exact Nat.le_of_not_lt (of_decide_eq_false (stops inside))

theorem firstReaching_le_iff (monotone : Monotone image) (reached : wanted ≤ image top)
    (number : Nat) : firstReaching image top wanted ≤ number <-> wanted ≤ image number := by
  rcases firstReaching_spec monotone reached with ⟨_, reaches, before⟩
  constructor
  · intro after
    exact Nat.le_trans reaches (monotone after)
  · intro inside
    by_contra early
    have short := before number (Nat.lt_of_not_le early)
    omega

variable (monotone : Monotone image) (above : image 0 < wanted) (below : wanted < image top)

include monotone above below

theorem firstReaching_pos : 0 < firstReaching image top wanted := by
  by_contra zero
  have reaches := (firstReaching_spec monotone below.le).2.1
  have same : firstReaching image top wanted = 0 := by omega
  rw [same] at reaches
  omega

/-- The inverse lies between the neighbours of the value. -/
theorem invert_bounds (given : Nat) :
    firstReaching image top wanted - 1 ≤ invert image top wanted given ∧
      invert image top wanted given ≤ top ∧
      (image (firstReaching image top wanted) = wanted ->
        firstReaching image top wanted ≤ invert image top wanted given ∧
          invert image top wanted given < firstReaching image top (wanted + 1)) ∧
      (image (firstReaching image top wanted) ≠ wanted ->
        invert image top wanted given ≤ firstReaching image top wanted) := by
  have positive := firstReaching_pos monotone above below
  have first := firstReaching_spec monotone below.le
  have next := firstReaching_spec monotone (show wanted + 1 ≤ image top from below)
  unfold invert
  dsimp only
  split
  · rename_i exact_
    have earlier : firstReaching image top wanted < firstReaching image top (wanted + 1) := by
      by_contra later
      have reaches := (firstReaching_le_iff monotone below (firstReaching image top wanted)).mp
        (Nat.le_of_not_lt later)
      omega
    refine ⟨by omega, by omega, fun _ => ⟨by omega, by omega⟩, fun other => absurd exact_ other⟩
  · rename_i inexact
    split
    · exact ⟨Nat.le_refl _, by omega, fun same => absurd same inexact, fun _ => by omega⟩
    · exact ⟨by omega, first.1, fun same => absurd same inexact, fun _ => Nat.le_refl _⟩

/-- No image is nearer to the value than that of the inverse. -/
theorem invert_nearest (given number : Nat) :
    apart (image (invert image top wanted given)) wanted ≤ apart (image number) wanted := by
  have positive := firstReaching_pos monotone above below
  have first := firstReaching_spec monotone below.le
  have bounds := invert_bounds monotone above below given
  by_cases exact_ : image (firstReaching image top wanted) = wanted
  · -- the inverse lies on the plateau
    have inside := bounds.2.2.1 exact_
    have low := monotone inside.1
    have high : image (invert image top wanted given) < wanted + 1 :=
      (firstReaching_spec monotone (show wanted + 1 ≤ image top from below)).2.2 _ inside.2
    have same : image (invert image top wanted given) = wanted := by omega
    unfold apart
    omega
  · have before := first.2.2 (firstReaching image top wanted - 1) (by omega)
    have after : wanted < image (firstReaching image top wanted) := by omega
    have sides : image number ≤ image (firstReaching image top wanted - 1) ∨
        image (firstReaching image top wanted) ≤ image number := by
      rcases Nat.lt_or_ge number (firstReaching image top wanted) with left | right
      · exact Or.inl (monotone (by omega))
      · exact Or.inr (monotone right)
    unfold invert apart
    dsimp only
    rw [if_neg exact_]
    split
    · omega
    · omega

omit above in
/-- A number whose image is the value is its own inverse. -/
theorem invert_given {given : Nat} (same : image given = wanted) :
    invert image top wanted given = given := by
  have first := firstReaching_spec monotone below.le
  have low := (firstReaching_le_iff monotone below.le given).mpr same.ge
  have exact_ : image (firstReaching image top wanted) = wanted := by
    have upper := monotone low
    omega
  have high : given < firstReaching image top (wanted + 1) := by
    by_contra later
    have reaches := (firstReaching_le_iff monotone below given).mp (Nat.le_of_not_lt later)
    omega
  unfold invert
  dsimp only
  rw [if_pos exact_]
  omega

omit above below in
/-- A greater value has no smaller inverse. -/
theorem invert_mono {smaller larger : Nat} (above : image 0 < smaller) (ordered : smaller ≤ larger)
    (below : larger < image top) (given : Nat) :
    invert image top smaller given ≤ invert image top larger given := by
  rcases Nat.eq_or_lt_of_le ordered with rfl | strict
  · exact Nat.le_refl _
  · have low := invert_bounds monotone above (Nat.lt_trans strict below) given
    have high := invert_bounds monotone (Nat.lt_trans above strict) below given
    have reach := firstReaching_spec monotone (Nat.lt_trans strict below).le
    have reachHigh := firstReaching_spec monotone below.le
    have positive := firstReaching_pos monotone above (Nat.lt_trans strict below)
    by_cases exact_ : image (firstReaching image top smaller) = smaller
    · -- the plateau of the smaller value ends before the larger value is reached
      have inside := (low.2.2.1 exact_).2
      have steps : firstReaching image top (smaller + 1) ≤ firstReaching image top larger :=
        (firstReaching_le_iff monotone (show smaller + 1 ≤ image top by omega) _).mpr
          (Nat.le_trans strict reachHigh.2.1)
      omega
    · have upper := low.2.2.2 exact_
      rcases Nat.lt_or_ge (image (firstReaching image top smaller)) larger with short | reaches
      · have later : firstReaching image top smaller < firstReaching image top larger := by
          by_contra early
          have already := (firstReaching_le_iff monotone below.le _).mp (Nat.le_of_not_lt early)
          omega
        omega
      · -- both values lie in the same gap
        have before : firstReaching image top larger ≤ firstReaching image top smaller :=
          (firstReaching_le_iff monotone below.le _).mpr reaches
        have after : firstReaching image top smaller ≤ firstReaching image top larger :=
          (firstReaching_le_iff monotone (Nat.lt_trans strict below).le _).mpr
            (Nat.le_trans ordered reachHigh.2.1)
        have together : firstReaching image top larger = firstReaching image top smaller :=
          Nat.le_antisymm before after
        by_cases exactHigh : image (firstReaching image top larger) = larger
        · have plateau := (high.2.2.1 exactHigh).1
          omega
        · have left := reach.2.2 (firstReaching image top smaller - 1) (by omega)
          unfold invert
          dsimp only
          rw [if_neg exact_, if_neg exactHigh, together]
          split
          · split <;> omega
          · rename_i far
            rw [if_neg (by omega)]

end

end Support.Thresholds
end RocmCli
