import RocmCli.Support.Thresholds
import Mathlib.Data.UInt

namespace RocmCli
namespace Dashboard

open Support.Thresholds

/-!
# Dragging a scrollbar

A scrollbar draws its thumb with two rounded divisions, and a drag has to find
a position whose thumb stands where the pointer wants it.  Lengths are machine
words and the arithmetic is that of a release build: sums and products saturate
where the source says so, and wrap where it does not.
-/

/-! ## Machine words -/

def usizeMax : Nat := 2 ^ 64 - 1

def u16Max : Nat := 2 ^ 16 - 1

def saturatingAdd (left right : Nat) : Nat := min (left + right) usizeMax

def saturatingMul (left right : Nat) : Nat := min (left * right) usizeMax

/-- An unchecked product of two words. -/
def wrappingMul (left right : Nat) : Nat := left * right % 2 ^ 64

/-- An unchecked difference of two half words. -/
def wrappingSub (left right : Nat) : Nat := (left + 2 ^ 16 - right) % 2 ^ 16

/-- The cast of a word to a half word. -/
def asU16 (number : Nat) : Nat := number % 2 ^ 16

/-- Clamp to an interval; the library panics where the bounds are out of order. -/
def clamp (low high number : Nat) : Option Nat :=
  if low ≤ high then some (max low (min number high)) else none

theorem asU16_of_lt {number : Nat} (short : number < 2 ^ 16) : asU16 number = number :=
  Nat.mod_eq_of_lt short

theorem wrappingSub_of_le {left right : Nat} (ordered : right ≤ left) (short : left < 2 ^ 16) :
    wrappingSub left right = left - right := by
  unfold wrappingSub
  omega

/-! ## Rounded quotients -/

/-- The quotient rounded to the nearest number, halves upwards. -/
def rounded (denominator numerator : Nat) : Nat :=
  (numerator + denominator / 2) / max denominator 1

theorem rounded_mono (denominator : Nat) : Monotone (rounded denominator) := fun _ _ ordered =>
  Nat.div_le_div_right (Nat.add_le_add_right ordered _)

theorem rounded_zero {denominator : Nat} : rounded denominator 0 = 0 := by
  unfold rounded
  rw [Nat.div_eq_zero_iff]
  omega

/-- The rounded quotients of two parts of a multiple add up to at least the
factor. -/
theorem rounded_parts {denominator left right factor : Nat} (positive : 0 < denominator)
    (whole : left + right = factor * denominator) :
    factor ≤ rounded denominator left + rounded denominator right := by
  have unit : max denominator 1 = denominator := by omega
  unfold rounded
  rw [unit]
  have split := Nat.div_add_mod left denominator
  have small := Nat.mod_lt left positive
  by_cases up : denominator / 2 < left % denominator
  · -- the left part is rounded up, the right part loses less than one
    have leftQuotient : left / denominator + 1 ≤ (left + denominator / 2) / denominator := by
      rw [Nat.le_div_iff_mul_le positive, Nat.add_mul, Nat.mul_comm]
      omega
    have rightQuotient :
        factor - (left / denominator + 1) ≤ (right + denominator / 2) / denominator := by
      rw [Nat.le_div_iff_mul_le positive, Nat.sub_mul, Nat.add_mul,
        Nat.mul_comm (left / denominator)]
      omega
    omega
  · have leftQuotient : left / denominator ≤ (left + denominator / 2) / denominator :=
      Nat.div_le_div_right (Nat.le_add_right _ _)
    have rightQuotient :
        factor - left / denominator ≤ (right + denominator / 2) / denominator := by
      rw [Nat.le_div_iff_mul_le positive, Nat.sub_mul, Nat.mul_comm (left / denominator)]
      omega
    omega

/-! ## The handle -/

structure Rect where
  x : UInt16
  y : UInt16
  width : UInt16
  height : UInt16
deriving DecidableEq, Repr

/-- A drawn scrollbar, without the target its offset belongs to. -/
structure ScrollbarHandle where
  track : Rect
  horizontal : Bool
  contentLen : UInt64
  viewportLen : UInt64
deriving DecidableEq, Repr

namespace ScrollbarHandle

def content (handle : ScrollbarHandle) : Nat := handle.contentLen.toNat

def viewport (handle : ScrollbarHandle) : Nat := handle.viewportLen.toNat

def maxPosition (handle : ScrollbarHandle) : Nat := handle.content - handle.viewport

/-- The coordinate of the pointer, the start of the track and its span. -/
def axis (handle : ScrollbarHandle) (col row : UInt16) : UInt16 × UInt16 × UInt16 :=
  if handle.horizontal then (col, handle.track.x, handle.track.width)
  else (row, handle.track.y, handle.track.height)

def coordinate (handle : ScrollbarHandle) (col row : UInt16) : Nat :=
  (handle.axis col row).1.toNat

def trackStart (handle : ScrollbarHandle) : Nat := (handle.axis 0 0).2.1.toNat

def span (handle : ScrollbarHandle) : Nat := (handle.axis 0 0).2.2.toNat

/-! ## Drawing -/

def renderedMax (handle : ScrollbarHandle) : Nat := handle.content - 1

def renderedPosition (handle : ScrollbarHandle) (logicalPosition : Nat) : Nat :=
  wrappingMul (min logicalPosition handle.maxPosition) handle.renderedMax /
    max handle.maxPosition 1

def denominator (handle : ScrollbarHandle) : Nat :=
  saturatingAdd handle.renderedMax handle.viewport

def roundedDivide (handle : ScrollbarHandle) (numerator : Nat) : Nat :=
  saturatingAdd numerator (handle.denominator / 2) / max handle.denominator 1

/-- The start and the length of the thumb at a position. -/
def thumbGeometry (handle : ScrollbarHandle) (logicalPosition : Nat) : Nat × Nat :=
  if handle.span = 0 ∨ handle.content = 0 then (0, 0)
  else
    let thumbLen :=
      max 1 (min (handle.roundedDivide (saturatingMul handle.viewport handle.span)) handle.span)
    let thumbStart :=
      min (handle.roundedDivide
        (saturatingMul (handle.renderedPosition logicalPosition) handle.span))
        (handle.span - thumbLen)
    (asU16 thumbStart, asU16 thumbLen)

def thumbStart (handle : ScrollbarHandle) (logicalPosition : Nat) : Nat :=
  (handle.thumbGeometry logicalPosition).1

/-- Where the thumb starts at the far end of the track. -/
def lastStart (handle : ScrollbarHandle) : Nat := handle.span - (handle.thumbGeometry 0).2

/-! ## Dragging -/

/-- Where the pointer wants the thumb to start. -/
def desiredStart (handle : ScrollbarHandle) (col row : UInt16) (grabOffset : Nat) : Nat :=
  min (handle.coordinate col row - handle.trackStart - grabOffset) handle.lastStart

/-- The binary search over the positions. -/
def firstAtOrAfter (handle : ScrollbarHandle) (wanted : Nat) : Nat :=
  firstNotBelow (fun position => handle.thumbStart position < wanted) 0 handle.maxPosition

/-- The position for a wanted start strictly between the two ends. -/
def positionBetween (handle : ScrollbarHandle) (desiredStart currentPosition : Nat) :
    Option Nat :=
  let first := handle.firstAtOrAfter desiredStart
  if handle.thumbStart first ≠ desiredStart then
    if first = 0 then some 0
    else
      let beforeStart := handle.thumbStart (first - 1)
      let afterStart := handle.thumbStart first
      some (if wrappingSub desiredStart beforeStart ≤ wrappingSub afterStart desiredStart then
        first - 1 else first)
  else
    let after := handle.firstAtOrAfter (min (desiredStart + 1) u16Max)
    let last :=
      if after = handle.maxPosition ∧ handle.thumbStart after = desiredStart then after
      else after - 1
    clamp first last currentPosition

/-- The position for a wanted start; the two ends of the track are exact. -/
def positionFor (handle : ScrollbarHandle) (desiredStart currentPosition : Nat) : Option Nat :=
  if handle.maxPosition = 0 then some 0
  else if desiredStart = 0 then some 0
  else if desiredStart = handle.lastStart then some handle.maxPosition
  else handle.positionBetween desiredStart currentPosition

def positionAt (handle : ScrollbarHandle) (col row : UInt16) (grabOffset currentPosition : Nat) :
    Option Nat :=
  handle.positionFor (handle.desiredStart col row grabOffset) currentPosition

/-! ## Lengths without overflow -/

/-- The products of the lengths, of the lengths with the span, and of the
positions with the content fit in a word. -/
structure Fits (handle : ScrollbarHandle) : Prop where
  contentSpan : handle.content * handle.span < 2 ^ 64
  viewportSpan : handle.viewport * handle.span < 2 ^ 64
  contentViewport : handle.content * handle.viewport < 2 ^ 64
  contentPositions : handle.renderedMax * handle.maxPosition < 2 ^ 64

variable {handle : ScrollbarHandle}

theorem span_lt (handle : ScrollbarHandle) : handle.span < 2 ^ 16 := by
  unfold span
  exact UInt16.toNat_lt _

/-- A handle that scrolls and whose products fit has short lengths. -/
theorem Fits.short (fits : handle.Fits) (scrolls : 0 < handle.maxPosition) :
    handle.viewport < handle.content ∧ handle.content ≤ 2 ^ 33 := by
  have apart : handle.viewport < handle.content := by
    unfold maxPosition at scrolls
    omega
  refine ⟨apart, ?_⟩
  by_contra long
  have renderedLong : 2 ^ 33 ≤ handle.renderedMax := by
    unfold renderedMax
    omega
  rcases Nat.lt_or_ge handle.viewport (2 ^ 32) with narrow | wide
  · have far : 2 ^ 32 ≤ handle.maxPosition := by
      unfold maxPosition
      omega
    have product := Nat.mul_le_mul renderedLong far
    have fit := fits.contentPositions
    omega
  · have product := Nat.mul_le_mul (show 2 ^ 33 ≤ handle.content by omega) wide
    have fit := fits.contentViewport
    omega

/-- A product of a short length with the span does not saturate. -/
theorem saturatingMul_span (handle : ScrollbarHandle) {length : Nat} (small : length ≤ 2 ^ 33) :
    saturatingMul length handle.span = length * handle.span ∧ length * handle.span < 2 ^ 50 := by
  have narrow := handle.span_lt
  have product := Nat.mul_le_mul small narrow.le
  unfold saturatingMul usizeMax
  omega

section

variable (fits : handle.Fits) (scrolls : 0 < handle.maxPosition)

include fits scrolls

theorem denominator_eq : handle.denominator = handle.renderedMax + handle.viewport := by
  have short := fits.short scrolls
  unfold denominator saturatingAdd usizeMax renderedMax
  omega

theorem roundedDivide_eq {numerator : Nat} (small : numerator < 2 ^ 50) :
    handle.roundedDivide numerator = rounded (handle.renderedMax + handle.viewport) numerator := by
  have short := fits.short scrolls
  unfold roundedDivide rounded
  rw [denominator_eq fits scrolls]
  congr 1
  unfold saturatingAdd usizeMax renderedMax
  omega

theorem renderedPosition_eq (logicalPosition : Nat) :
    handle.renderedPosition logicalPosition =
      min logicalPosition handle.maxPosition * handle.renderedMax / handle.maxPosition := by
  have unit : max handle.maxPosition 1 = handle.maxPosition := by omega
  have product : min logicalPosition handle.maxPosition * handle.renderedMax < 2 ^ 64 := by
    refine Nat.lt_of_le_of_lt ?_ fits.contentPositions
    rw [Nat.mul_comm]
    exact Nat.mul_le_mul_left _ (Nat.min_le_right _ _)
  unfold renderedPosition wrappingMul
  rw [unit, Nat.mod_eq_of_lt product]

theorem renderedPosition_le (logicalPosition : Nat) :
    handle.renderedPosition logicalPosition ≤ handle.renderedMax := by
  rw [renderedPosition_eq fits scrolls]
  refine Nat.div_le_of_le_mul ?_
  exact Nat.mul_le_mul_right _ (Nat.min_le_right _ _)

/-! ## The thumb -/

section

variable (spans : 0 < handle.span)
include spans

/-- The length of the thumb on a track that has a span. -/
theorem thumbLen_eq (logicalPosition : Nat) :
    (handle.thumbGeometry logicalPosition).2 =
      max 1 (min (rounded (handle.renderedMax + handle.viewport)
        (handle.viewport * handle.span)) handle.span) := by
  have short := fits.short scrolls
  have narrow := handle.span_lt
  rcases handle.saturatingMul_span (show handle.viewport ≤ 2 ^ 33 by omega) with
    ⟨exactly, small⟩
  unfold thumbGeometry
  rw [if_neg (by omega)]
  dsimp only
  rw [exactly, roundedDivide_eq fits scrolls small]
  exact asU16_of_lt (by omega)

theorem thumbStart_eq (logicalPosition : Nat) :
    handle.thumbStart logicalPosition =
      min (rounded (handle.renderedMax + handle.viewport)
        (min logicalPosition handle.maxPosition * handle.renderedMax / handle.maxPosition *
          handle.span)) handle.lastStart := by
  have short := fits.short scrolls
  have narrow := handle.span_lt
  have renderedShort : handle.renderedPosition logicalPosition ≤ 2 ^ 33 := by
    refine Nat.le_trans (renderedPosition_le fits scrolls logicalPosition) ?_
    unfold renderedMax
    omega
  rcases handle.saturatingMul_span (show handle.viewport ≤ 2 ^ 33 by omega) with
    ⟨exactViewport, smallViewport⟩
  rcases handle.saturatingMul_span renderedShort with ⟨exactRendered, smallRendered⟩
  have length := thumbLen_eq fits scrolls spans 0
  unfold thumbStart lastStart
  rw [length]
  unfold thumbGeometry
  rw [if_neg (by omega)]
  dsimp only
  rw [exactViewport, exactRendered, roundedDivide_eq fits scrolls smallViewport,
    roundedDivide_eq fits scrolls smallRendered, renderedPosition_eq fits scrolls]
  exact asU16_of_lt (by omega)

theorem lastStart_lt : handle.lastStart < handle.span := by
  unfold lastStart
  rw [thumbLen_eq fits scrolls spans 0]
  omega

theorem thumbStart_mono : Monotone handle.thumbStart := by
  intro smaller larger ordered
  rw [thumbStart_eq fits scrolls spans, thumbStart_eq fits scrolls spans]
  refine min_le_min ?_ (Nat.le_refl _)
  refine rounded_mono _ (Nat.mul_le_mul_right _ (Nat.div_le_div_right
    (Nat.mul_le_mul_right _ ?_)))
  omega

theorem thumbStart_zero : handle.thumbStart 0 = 0 := by
  rw [thumbStart_eq fits scrolls spans, Nat.zero_min, Nat.zero_mul, Nat.zero_div, Nat.zero_mul,
    rounded_zero, Nat.zero_min]

theorem thumbStart_le (position : Nat) : handle.thumbStart position ≤ handle.lastStart := by
  rw [thumbStart_eq fits scrolls spans]
  exact Nat.min_le_right _ _

/-- The last position draws the thumb at the end of the track, as the start and
the length of the thumb leave nothing of the track. -/
theorem thumbStart_max (divides : 0 < handle.renderedMax + handle.viewport) :
    handle.thumbStart handle.maxPosition = handle.lastStart := by
  have parts := @rounded_parts (handle.renderedMax + handle.viewport)
    (handle.renderedMax * handle.span) (handle.viewport * handle.span) handle.span divides
    (by rw [← Nat.add_mul, Nat.mul_comm])
  have whole : handle.lastStart = handle.span - max 1 (min (rounded
      (handle.renderedMax + handle.viewport) (handle.viewport * handle.span)) handle.span) := by
    unfold lastStart
    rw [thumbLen_eq fits scrolls spans 0]
  rw [thumbStart_eq fits scrolls spans, Nat.min_self, Nat.mul_comm handle.maxPosition,
    Nat.mul_div_cancel _ scrolls]
  omega

/-- Content of one unit and a viewport of none: the thumb never moves. -/
theorem thumbStart_still (degenerate : handle.renderedMax + handle.viewport = 0) (position : Nat) :
    handle.thumbStart position = 0 := by
  have none_ : handle.renderedMax = 0 := by omega
  rw [thumbStart_eq fits scrolls spans, none_, Nat.mul_zero, Nat.zero_div, Nat.zero_mul,
    rounded_zero, Nat.zero_min]

end

/-! ## The search -/

/-- Strictly between the ends, the search inverts the drawing. -/
theorem positionBetween_eq {desired : Nat} (positive : 0 < desired)
    (inside : desired < handle.lastStart)
    (divides : 0 < handle.renderedMax + handle.viewport) (current : Nat) :
    handle.positionBetween desired current =
      some (invert handle.thumbStart handle.maxPosition desired current) := by
  have spans : 0 < handle.span := by
    by_contra none_
    have noTrack : handle.lastStart = 0 := by
      unfold lastStart
      omega
    omega
  have narrow := handle.span_lt
  have endsBefore := lastStart_lt fits scrolls spans
  have monotone := thumbStart_mono fits scrolls spans
  have last := thumbStart_max fits scrolls spans divides
  have begins := thumbStart_zero fits scrolls spans
  have below : desired < handle.thumbStart handle.maxPosition := by omega
  have above : handle.thumbStart 0 < desired := by omega
  have next : min (desired + 1) u16Max = desired + 1 := by
    unfold u16Max
    omega
  have positiveFirst := firstReaching_pos monotone above below
  have first := firstReaching_spec monotone below.le
  have after := firstReaching_spec monotone (show desired + 1 ≤ _ from below)
  have bounded := thumbStart_le fits scrolls spans (firstReaching handle.thumbStart
    handle.maxPosition desired)
  have before := first.2.2 (firstReaching handle.thumbStart handle.maxPosition desired - 1)
    (by omega)
  unfold positionBetween invert
  dsimp only
  rw [next]
  change (if handle.thumbStart (firstReaching handle.thumbStart handle.maxPosition desired) ≠
    desired then _ else _) = _
  by_cases reached :
      handle.thumbStart (firstReaching handle.thumbStart handle.maxPosition desired) = desired
  · -- the plateau of the wanted start
    rw [if_neg (not_not.mpr reached), if_pos reached]
    have passes : ¬ (firstReaching handle.thumbStart handle.maxPosition (desired + 1) =
        handle.maxPosition ∧ handle.thumbStart (firstReaching handle.thumbStart
          handle.maxPosition (desired + 1)) = desired) := by
      intro both
      have reaches := after.2.1
      omega
    have ordered : firstReaching handle.thumbStart handle.maxPosition desired ≤
        firstReaching handle.thumbStart handle.maxPosition (desired + 1) - 1 := by
      have later : firstReaching handle.thumbStart handle.maxPosition desired <
          firstReaching handle.thumbStart handle.maxPosition (desired + 1) := by
        by_contra early
        have reaches := (firstReaching_le_iff monotone (show desired + 1 ≤ _ from below)
          (firstReaching handle.thumbStart handle.maxPosition desired)).mp
          (Nat.le_of_not_lt early)
        omega
      omega
    change clamp (firstReaching handle.thumbStart handle.maxPosition desired)
      (if firstReaching handle.thumbStart handle.maxPosition (desired + 1) =
        handle.maxPosition ∧ handle.thumbStart (firstReaching handle.thumbStart
          handle.maxPosition (desired + 1)) = desired then
        firstReaching handle.thumbStart handle.maxPosition (desired + 1)
      else firstReaching handle.thumbStart handle.maxPosition (desired + 1) - 1) current = _
    rw [if_neg passes]
    unfold clamp
    rw [if_pos ordered]
  · rw [if_pos reached, if_neg reached]
    change (if firstReaching handle.thumbStart handle.maxPosition desired = 0 then some 0 else
      some (if wrappingSub desired (handle.thumbStart
        (firstReaching handle.thumbStart handle.maxPosition desired - 1)) ≤
        wrappingSub (handle.thumbStart
          (firstReaching handle.thumbStart handle.maxPosition desired)) desired then _ else _)) = _
    rw [if_neg (by omega), wrappingSub_of_le before.le (by omega),
      wrappingSub_of_le first.2.1 (by omega)]
    rfl

/-- Where the thumb never moves, one of the two positions is returned, the
greater one for a wanted start past the middle of the half word. -/
theorem positionBetween_still {desired : Nat} (positive : 0 < desired)
    (inside : desired < handle.lastStart)
    (degenerate : handle.renderedMax + handle.viewport = 0) (current : Nat) :
    handle.positionBetween desired current = some (if desired ≤ 2 ^ 15 then 0 else 1) := by
  have spans : 0 < handle.span := by
    by_contra none_
    have noTrack : handle.lastStart = 0 := by
      unfold lastStart
      omega
    omega
  have narrow := handle.span_lt
  have endsBefore := lastStart_lt fits scrolls spans
  have still := thumbStart_still fits scrolls spans degenerate
  have two : handle.maxPosition = 1 := by
    unfold renderedMax at degenerate
    unfold maxPosition at scrolls ⊢
    omega
  have search := @firstNotBelow_spec (fun position => decide (handle.thumbStart position < desired))
    (fun smaller _ _ _ => decide_eq_true (by rw [still]; exact positive)) 0 handle.maxPosition
    (Nat.zero_le _)
  have far : handle.firstAtOrAfter desired = 1 := by
    rcases Nat.eq_or_lt_of_le search.2.1 with same | early
    · rw [← two]
      exact same
    · have stops := of_decide_eq_false (search.2.2.2 early)
      rw [still] at stops
      exact absurd positive stops
  unfold positionBetween
  dsimp only
  rw [far, still, still, if_pos (by omega), if_neg Nat.one_ne_zero]
  have middle : wrappingSub desired 0 ≤ wrappingSub 0 desired <-> desired ≤ 2 ^ 15 := by
    unfold wrappingSub
    omega
  by_cases low : desired ≤ 2 ^ 15
  · rw [if_pos (middle.mpr low), if_pos low]
  · rw [if_neg fun nearer => low (middle.mp nearer), if_neg low]

end

/-- Without a range to scroll the thumb stands at the start. -/
theorem thumbStart_unscrolled (unscrolled : handle.maxPosition = 0) (position : Nat) :
    handle.thumbStart position = 0 := by
  have rendered : handle.renderedPosition position = 0 := by
    unfold renderedPosition wrappingMul
    rw [unscrolled, Nat.min_zero, Nat.zero_mul, Nat.zero_mod, Nat.zero_div]
  have quotient : handle.roundedDivide 0 = 0 := by
    unfold roundedDivide saturatingAdd
    rw [Nat.div_eq_zero_iff]
    omega
  unfold thumbStart thumbGeometry
  split
  · rfl
  · dsimp only
    rw [rendered, saturatingMul, Nat.zero_mul, Nat.zero_min, quotient, Nat.zero_min]
    rfl

/-! ## Dragging inverts drawing -/

/-- A position is right for a wanted start: between the ends no position draws
the thumb nearer to it, and the current one is kept where it draws it there; at
an end it is the first or the last position. -/
structure Inverts (handle : ScrollbarHandle) (desired current position : Nat) : Prop where
  within : position ≤ handle.maxPosition
  nearest : 0 < desired -> desired < handle.lastStart -> forall other,
    other ≤ handle.maxPosition ->
      apart (handle.thumbStart position) desired ≤ apart (handle.thumbStart other) desired
  kept : 0 < desired -> desired < handle.lastStart -> handle.thumbStart current = desired ->
    position = current
  first : desired = 0 -> position = 0
  last : 0 < desired -> desired = handle.lastStart -> position = handle.maxPosition

/-- The search finds a right position for every wanted start on the track. -/
theorem positionFor_inverts (fits : handle.Fits) {desired : Nat}
    (within : desired ≤ handle.lastStart) (current : Nat) :
    exists position, handle.positionFor desired current = some position ∧
      Inverts handle desired current position := by
  unfold positionFor
  by_cases scrolls : handle.maxPosition = 0
  · rw [if_pos scrolls]
    refine ⟨0, rfl, Nat.zero_le _, fun _ _ other inside => ?_, ?_, fun _ => rfl,
      fun _ _ => scrolls.symm⟩
    · have same : other = 0 := by omega
      rw [same]
    · intro positive inside reached
      rw [thumbStart_unscrolled scrolls] at reached
      exact absurd reached positive.ne
  · rw [if_neg scrolls]
    have moves : 0 < handle.maxPosition := Nat.pos_of_ne_zero scrolls
    by_cases atStart : desired = 0
    · rw [if_pos atStart]
      exact ⟨0, rfl, Nat.zero_le _, fun positive => absurd atStart positive.ne',
        fun positive => absurd atStart positive.ne', fun _ => rfl,
        fun positive => absurd atStart positive.ne'⟩
    · rw [if_neg atStart]
      have positive : 0 < desired := Nat.pos_of_ne_zero atStart
      by_cases atEnd : desired = handle.lastStart
      · rw [if_pos atEnd]
        exact ⟨handle.maxPosition, rfl, Nat.le_refl _,
          fun _ inside => absurd atEnd inside.ne, fun _ inside => absurd atEnd inside.ne,
          fun zero => absurd zero atStart, fun _ _ => rfl⟩
      · rw [if_neg atEnd]
        have inside : desired < handle.lastStart := Nat.lt_of_le_of_ne within atEnd
        have spans : 0 < handle.span := by
          unfold lastStart at inside
          omega
        rcases Nat.eq_zero_or_pos (handle.renderedMax + handle.viewport) with still | divides
        · have nowhere := thumbStart_still fits moves spans still
          refine ⟨_, positionBetween_still fits moves positive inside still current, ?_, ?_, ?_,
            fun zero => absurd zero atStart, fun _ same => absurd same atEnd⟩
          · split <;> omega
          · intro _ _ other _
            rw [nowhere, nowhere]
          · intro _ _ reached
            rw [nowhere] at reached
            exact absurd reached.symm atStart
        · have monotone := thumbStart_mono fits moves spans
          have below : desired < handle.thumbStart handle.maxPosition := by
            rw [thumbStart_max fits moves spans divides]
            exact inside
          have above : handle.thumbStart 0 < desired := by
            rw [thumbStart_zero fits moves spans]
            exact positive
          exact ⟨_, positionBetween_eq fits moves positive inside divides current,
            (invert_bounds monotone above below current).2.1,
            fun _ _ other _ => invert_nearest monotone above below current other,
            fun _ _ reached => invert_given monotone below reached,
            fun zero => absurd zero atStart, fun _ same => absurd same atEnd⟩

/-- A thumb wanted further along the track is found no earlier. -/
theorem positionFor_mono (fits : handle.Fits) {smaller larger : Nat} (ordered : smaller ≤ larger)
    (within : larger ≤ handle.lastStart) {current position other : Nat}
    (found : handle.positionFor smaller current = some position)
    (foundOther : handle.positionFor larger current = some other) : position ≤ other := by
  rcases positionFor_inverts fits (Nat.le_trans ordered within) current with
    ⟨_, returned, inverts⟩
  rcases positionFor_inverts fits within current with ⟨_, returnedOther, invertsOther⟩
  obtain rfl := Option.some.inj (returned.symm.trans found)
  obtain rfl := Option.some.inj (returnedOther.symm.trans foundOther)
  rcases Nat.eq_zero_or_pos smaller with atStart | positive
  · rw [inverts.first atStart]
    exact Nat.zero_le _
  · have positiveLarger : 0 < larger := Nat.lt_of_lt_of_le positive ordered
    rcases Nat.eq_or_lt_of_le within with atEnd | inside
    · rw [invertsOther.last positiveLarger atEnd]
      exact inverts.within
    · -- both starts lie strictly between the ends
      have insideSmaller : smaller < handle.lastStart := Nat.lt_of_le_of_lt ordered inside
      have spans : 0 < handle.span := by
        unfold lastStart at inside
        omega
      rcases Nat.eq_zero_or_pos handle.maxPosition with unscrolled | moves
      · have low := inverts.within
        omega
      · have between : forall desired, 0 < desired -> desired < handle.lastStart ->
            handle.positionFor desired current = handle.positionBetween desired current := by
          intro desired some_ before
          unfold positionFor
          rw [if_neg moves.ne', if_neg some_.ne', if_neg before.ne]
        rw [between smaller positive insideSmaller] at found
        rw [between larger positiveLarger inside] at foundOther
        rcases Nat.eq_zero_or_pos (handle.renderedMax + handle.viewport) with still | divides
        · rw [positionBetween_still fits moves positive insideSmaller still] at found
          rw [positionBetween_still fits moves positiveLarger inside still] at foundOther
          rw [← Option.some.inj found, ← Option.some.inj foundOther]
          split
          · exact Nat.zero_le _
          · rw [if_neg (by omega)]
        · rw [positionBetween_eq fits moves positive insideSmaller divides] at found
          rw [positionBetween_eq fits moves positiveLarger inside divides] at foundOther
          rw [← Option.some.inj found, ← Option.some.inj foundOther]
          refine invert_mono (thumbStart_mono fits moves spans) ?_ ordered ?_ current
          · rw [thumbStart_zero fits moves spans]
            exact positive
          · rw [thumbStart_max fits moves spans divides]
            exact inside

theorem desiredStart_le (col row : UInt16) (grabOffset : Nat) :
    handle.desiredStart col row grabOffset ≤ handle.lastStart := Nat.min_le_right _ _

theorem desiredStart_mono {col row laterCol laterRow : UInt16}
    (ordered : handle.coordinate col row ≤ handle.coordinate laterCol laterRow)
    (grabOffset : Nat) :
    handle.desiredStart col row grabOffset ≤ handle.desiredStart laterCol laterRow grabOffset := by
  unfold desiredStart
  omega

/-- A drag inverts the drawn thumb for every pointer and grab offset, and moves
with the pointer. -/
theorem positionAt_inverts (handle : ScrollbarHandle) (fits : handle.Fits)
    (grabOffset currentPosition : Nat) :
    (forall col row, exists position,
      handle.positionAt col row grabOffset currentPosition = some position ∧
        Inverts handle (handle.desiredStart col row grabOffset) currentPosition position) ∧
      forall col row laterCol laterRow position later,
        handle.coordinate col row ≤ handle.coordinate laterCol laterRow ->
          handle.positionAt col row grabOffset currentPosition = some position ->
            handle.positionAt laterCol laterRow grabOffset currentPosition = some later ->
              position ≤ later := by
  constructor
  · intro col row
    exact positionFor_inverts fits (desiredStart_le col row grabOffset) currentPosition
  · intro col row laterCol laterRow position later ordered found foundLater
    exact positionFor_mono fits (desiredStart_mono ordered grabOffset)
      (desiredStart_le laterCol laterRow grabOffset) found foundLater

/-- A short log on a track of ten rows. -/
theorem positionAt_inverts_log :
    exists position,
      ScrollbarHandle.positionAt ⟨⟨50, 0, 1, 10⟩, false, 100, 10⟩ 50 4 0 41 = some position ∧
        Inverts ⟨⟨50, 0, 1, 10⟩, false, 100, 10⟩
          (ScrollbarHandle.desiredStart ⟨⟨50, 0, 1, 10⟩, false, 100, 10⟩ 50 4 0) 41 position :=
  (positionAt_inverts ⟨⟨50, 0, 1, 10⟩, false, 100, 10⟩
    ⟨by decide, by decide, by decide, by decide⟩ 0 41).1 50 4

/-- A content so long that its unchecked product with a position wraps. -/
def overlong : ScrollbarHandle := ⟨⟨0, 0, 1, 100⟩, false, 6442450945, 1⟩

theorem overlong_low (position : Nat) : overlong.thumbStart position ≤ 44 := by
  have rendered : overlong.renderedPosition position ≤ 2863311530 := by
    have wrapped : wrappingMul (min position overlong.maxPosition) overlong.renderedMax < 2 ^ 64 :=
      Nat.mod_lt _ (by decide)
    have divisor : max overlong.maxPosition 1 = 6442450944 := by decide
    unfold renderedPosition
    rw [divisor]
    omega
  have product : saturatingMul (overlong.renderedPosition position) overlong.span ≤
      286331153000 := by
    have track : overlong.span = 100 := by decide
    unfold saturatingMul
    rw [track]
    omega
  have quotient : overlong.roundedDivide
      (saturatingMul (overlong.renderedPosition position) overlong.span) ≤ 44 := by
    have divisor : max overlong.denominator 1 = 6442450945 := by decide
    have half : overlong.denominator / 2 = 3221225472 := by decide
    unfold roundedDivide saturatingAdd
    rw [divisor, half]
    omega
  unfold thumbStart thumbGeometry
  rw [if_neg (by decide)]
  exact Nat.le_trans (Nat.mod_le _ _) (Nat.le_trans (Nat.min_le_left _ _) quotient)

/-- With a content whose product with the positions wraps, a drag to the middle
of the track takes a position drawn far above it. -/
theorem overlong_misses :
    overlong.content * overlong.span < 2 ^ 64 ∧ overlong.viewport * overlong.span < 2 ^ 64 ∧
      overlong.content * overlong.viewport < 2 ^ 64 ∧
      ¬ exists position, overlong.positionAt 0 50 0 0 = some position ∧
        Inverts overlong (overlong.desiredStart 0 50 0) 0 position := by
  refine ⟨by decide, by decide, by decide, ?_⟩
  rintro ⟨position, found, inverts⟩
  have search := @firstNotBelow_spec (fun position => decide (overlong.thumbStart position < 50))
    (fun smaller _ _ _ => decide_eq_true (Nat.lt_of_le_of_lt (overlong_low smaller) (by decide)))
    0 overlong.maxPosition (Nat.zero_le _)
  have far : overlong.firstAtOrAfter 50 = 6442450944 := by
    rcases Nat.eq_or_lt_of_le search.2.1 with same | early
    · exact same
    · have stops := of_decide_eq_false (search.2.2.2 early)
      exact absurd (Nat.lt_of_le_of_lt (overlong_low _) (by decide)) stops
  have wanted : overlong.desiredStart 0 50 0 = 50 := by decide
  have drawn : overlong.thumbStart position = 11 := by
    have between : overlong.positionBetween 50 0 = some position := by
      rw [← found, positionAt, wanted, positionFor, if_neg (by decide), if_neg (by decide),
        if_neg (by decide)]
    unfold positionBetween at between
    dsimp only at between
    rw [far, if_pos (by decide), if_neg (by decide)] at between
    rw [← Option.some.inj between]
    decide
  have closer := inverts.nearest (by rw [wanted]; decide) (by rw [wanted]; decide) 2863311530
    (by decide)
  rw [wanted, drawn] at closer
  revert closer
  decide

end ScrollbarHandle

end Dashboard
end RocmCli
