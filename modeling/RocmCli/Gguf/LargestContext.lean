import RocmCli.Gguf.Sizing

namespace RocmCli
namespace Gguf

/-!
# The largest context that fits

The search starts from an estimate on the exact total, steps down to a context
that fits by what is shown, and up again while the next step does.  Since a
larger context never fits where a smaller one does not, it finds the largest
step from wherever it starts; only the trained context, which need not be a
step, has to be what it starts from.
-/

namespace Sizing

variable (sizing : Sizing) (kv : KvCacheType) (available : ℚ)

/-! ## The search -/

def stepDown (context : Nat) : Nat :=
  if 0 < context ∧ sizing.fits context kv available = false then
    stepDown
      (if context % contextStep = 0 then context - contextStep
      else context / contextStep * contextStep)
  else context
termination_by context
decreasing_by
  rename_i goesOn
  unfold contextStep
  split <;> omega

def stepUp (cap : Option Nat) (context : Nat) : Nat :=
  if cap.all (context + contextStep ≤ ·) = true ∧
      sizing.fits (context + contextStep) kv available = true then
    stepUp cap (context + contextStep)
  else context
termination_by ⌊available⌋₊ + 1 - context
decreasing_by
  rename_i goesOn
  have inside := sizing.le_floor_of_fits kv goesOn.2
  unfold contextStep at inside ⊢
  omega

/-- The estimate of the search: the tokens the room is enough for. -/
def roomFor : Nat := ⌊(available - sizing.fixed) / sizing.bytesPerToken kv⌋₊

/-- Where the search starts: at the cap where the estimate reaches it, else at a
whole step. -/
def searchStart (training : Option Nat) : Nat :=
  (training.filter (· ≤ sizing.roomFor kv available)).getD
    (sizing.roomFor kv available / contextStep * contextStep)

def searchFrom (cap : Option Nat) (start : Nat) : Nat :=
  sizing.stepUp kv available cap (sizing.stepDown kv available start)

def maxContext (training : Option Nat) : Option Nat :=
  if available - sizing.fixed ≤ 0 then none
  else
    let context := sizing.searchFrom kv available training
      (sizing.searchStart kv available training)
    if 0 < context then some context else none

/-! ## Stepping -/

variable {sizing kv available}

/-- What stepping down ends at: zero or a context that fits, with no larger step
below the start that does. -/
structure Lowered (sizing : Sizing) (kv : KvCacheType) (available : ℚ) (start context : Nat) :
    Prop where
  below : context ≤ start
  fits : 0 < context -> sizing.fits context kv available = true
  step : context = start ∨ contextStep ∣ context
  greatest : forall other, contextStep ∣ other -> other ≤ start ->
    sizing.fits other kv available = true -> other ≤ context
  kept : sizing.fits start kv available = true -> context = start

theorem stepDown_lowered (start : Nat) :
    Lowered sizing kv available start (sizing.stepDown kv available start) := by
  induction start using Nat.strongRecOn with
  | ind start ih =>
      rw [stepDown]
      by_cases goesOn : 0 < start ∧ sizing.fits start kv available = false
      · rw [if_pos goesOn]
        have next : exists lower, lower < start ∧ contextStep ∣ lower ∧
            (forall other, contextStep ∣ other -> other < start -> other ≤ lower) ∧
            (if start % contextStep = 0 then start - contextStep
              else start / contextStep * contextStep) = lower := by
          refine ⟨_, ?_, ?_, ?_, rfl⟩
          all_goals
            unfold contextStep
            split
            all_goals omega
        rcases next with ⟨lower, less, isStep, nearest, isNext⟩
        rw [isNext]
        have lowered := ih lower less
        refine ⟨Nat.le_trans lowered.below (Nat.le_of_lt less), lowered.fits, .inr ?_, ?_, ?_⟩
        · rcases lowered.step with same | step
          · rw [same]
            exact isStep
          · exact step
        · intro other step within fits
          rcases Nat.lt_or_eq_of_le within with smaller | same
          · exact lowered.greatest other step (nearest other step smaller) fits
          · rw [same] at fits
            cases goesOn.2.symm.trans fits
        · intro fits
          cases goesOn.2.symm.trans fits
      · rw [if_neg goesOn]
        refine ⟨Nat.le_refl _, ?_, .inl rfl, fun _ _ within _ => within, fun _ => rfl⟩
        intro positive
        cases fits : sizing.fits start kv available with
        | true => rfl
        | false => exact absurd ⟨positive, fits⟩ goesOn

/-- What stepping up ends at: as many steps on as fit under the cap. -/
structure Raised (sizing : Sizing) (kv : KvCacheType) (available : ℚ) (cap : Option Nat)
    (start context : Nat) : Prop where
  above : start ≤ context
  steps : contextStep ∣ context - start
  moved : context = start ∨
    sizing.fits context kv available = true ∧ cap.all (context ≤ ·) = true
  greatest : forall other, contextStep ∣ other - start -> start ≤ other ->
    cap.all (other ≤ ·) = true -> sizing.fits other kv available = true -> other ≤ context

theorem stepUp_raised (cap : Option Nat) (start : Nat) :
    Raised sizing kv available cap start (sizing.stepUp kv available cap start) := by
  fun_induction stepUp sizing kv available cap start with
  | case1 start goesOn ih =>
      refine ⟨Nat.le_trans (Nat.le_add_right _ _) ih.above, ?_, .inr ?_, ?_⟩
      · have further := ih.steps
        have above := ih.above
        have step : contextStep ∣ contextStep := Nat.dvd_refl _
        have split : sizing.stepUp kv available cap (start + contextStep) - start =
            sizing.stepUp kv available cap (start + contextStep) - (start + contextStep) +
              contextStep := by
          omega
        rw [split]
        exact Nat.dvd_add further step
      · rcases ih.moved with same | moved
        · rw [same]
          exact ⟨goesOn.2, goesOn.1⟩
        · exact moved
      · intro other steps above capped fits
        rcases Nat.eq_or_lt_of_le above with same | beyond
        · rw [← same]
          exact Nat.le_trans (Nat.le_add_right _ _) ih.above
        · have next : start + contextStep ≤ other := by
            have positive : 0 < other - start := Nat.sub_pos_of_lt beyond
            have least := Nat.le_of_dvd positive steps
            omega
          refine ih.greatest other ?_ next capped fits
          have shorter := Nat.dvd_sub steps (Nat.dvd_refl contextStep)
          rwa [Nat.sub_sub] at shorter
  | case2 start stops =>
      refine ⟨Nat.le_refl _, by rw [Nat.sub_self]; exact Nat.dvd_zero _, .inl rfl, ?_⟩
      intro other steps above capped fits
      rcases Nat.eq_or_lt_of_le above with same | beyond
      · exact Nat.le_of_eq same.symm
      · exfalso
        have positive : 0 < other - start := Nat.sub_pos_of_lt beyond
        have least := Nat.le_of_dvd positive steps
        have next : start + contextStep ≤ other := by omega
        refine stops ⟨?_, sizing.fits_antitone kv next fits⟩
        cases cap with
        | none => rfl
        | some limit =>
            have within : other ≤ limit := of_decide_eq_true capped
            exact decide_eq_true (Nat.le_trans next within)

/-! ## From wherever the search starts -/

variable {cap : Option Nat} {start : Nat}

theorem searchFrom_fits (positive : 0 < sizing.searchFrom kv available cap start) :
    sizing.fits (sizing.searchFrom kv available cap start) kv available = true := by
  unfold searchFrom at positive ⊢
  have lowered := @stepDown_lowered sizing kv available start
  have raised := @stepUp_raised sizing kv available cap
    (sizing.stepDown kv available start)
  rcases raised.moved with same | moved
  · rw [same] at positive ⊢
    exact lowered.fits positive
  · exact moved.1

variable {limit : Nat}

theorem searchFrom_le (within : start ≤ limit) :
    sizing.searchFrom kv available (some limit) start ≤ limit := by
  unfold searchFrom
  have lowered := @stepDown_lowered sizing kv available start
  have raised := @stepUp_raised sizing kv available (some limit)
    (sizing.stepDown kv available start)
  rcases raised.moved with same | moved
  · rw [same]
    exact Nat.le_trans lowered.below within
  · exact of_decide_eq_true moved.2

/-- From a step, or from a context that does not fit, the search ends at a step. -/
theorem searchFrom_step (proper : contextStep ∣ start ∨ sizing.fits start kv available = false) :
    contextStep ∣ sizing.searchFrom kv available cap start := by
  unfold searchFrom
  have lowered := @stepDown_lowered sizing kv available start
  have raised := @stepUp_raised sizing kv available cap
    (sizing.stepDown kv available start)
  have base : contextStep ∣ sizing.stepDown kv available start := by
    rcases lowered.step with same | step
    · rcases proper with step | unfit
      · rw [same]
        exact step
      · rcases Nat.eq_zero_or_pos (sizing.stepDown kv available start) with zero | positive
        · rw [zero]
          exact Nat.dvd_zero _
        · have fits := lowered.fits positive
          rw [same] at fits
          cases unfit.symm.trans fits
    · exact step
  have whole := Nat.dvd_add raised.steps base
  rwa [Nat.sub_add_cancel raised.above] at whole

/-- And no step that fits under the cap is larger. -/
theorem le_searchFrom
    (proper : contextStep ∣ start ∨ sizing.fits start kv available = false) {other : Nat}
    (step : contextStep ∣ other) (capped : cap.all (other ≤ ·) = true)
    (fits : sizing.fits other kv available = true) :
    other ≤ sizing.searchFrom kv available cap start := by
  unfold searchFrom
  have lowered := @stepDown_lowered sizing kv available start
  have raised := @stepUp_raised sizing kv available cap
    (sizing.stepDown kv available start)
  rcases Nat.lt_or_ge start other with beyond | within
  · have startFits := sizing.fits_antitone kv (Nat.le_of_lt beyond) fits
    have kept := lowered.kept startFits
    have startStep : contextStep ∣ start :=
      proper.resolve_right fun unfit => nomatch unfit.symm.trans startFits
    rw [kept] at raised ⊢
    exact raised.greatest other (Nat.dvd_sub step startStep) (Nat.le_of_lt beyond) capped fits
  · exact Nat.le_trans (lowered.greatest other step within fits) raised.above

/-! ## Where the search starts -/

variable {context : Nat}

/-- The estimate is on the exact total. -/
theorem le_roomFor_iff (room : 0 < available - sizing.fixed) :
    context ≤ sizing.roomFor kv available ↔ sizing.total context kv ≤ available := by
  have perToken := sizing.mask_le_bytesPerToken kv
  have positive : 0 < sizing.bytesPerToken kv := by linarith
  unfold roomFor
  rw [Nat.le_floor_iff (by positivity), le_div_iff₀ positive]
  unfold total
  constructor
  · intro inside
    linarith
  · intro inside
    linarith

/-- Without room nothing fits. -/
theorem fits_eq_false_of_no_room (full : available - sizing.fixed ≤ 0) (positive : 0 < context) :
    sizing.fits context kv available = false := by
  refine Bool.eq_false_iff.mpr fun fits => ?_
  have shown : sizing.shownTotal context kv ≤ available := of_decide_eq_true fits
  have below := sizing.total_le_shownTotal kv context
  have perToken := sizing.mask_le_bytesPerToken kv
  have tokens : (1 : ℚ) ≤ context := by exact_mod_cast positive
  unfold total at below
  nlinarith

/-! ## What a search should find -/

/-- A context the search may report: the trained one, or a step within it. -/
def Candidate (training : Option Nat) (context : Nat) : Prop :=
  0 < context ∧ training.all (context ≤ ·) = true ∧
    (training = some context ∨ contextStep ∣ context)

/-- The trained context where it fits, else the largest step that does, and none
exactly where there is none. -/
structure Exact (sizing : Sizing) (kv : KvCacheType) (available : ℚ)
    (training found : Option Nat) : Prop where
  trained : forall limit, training = some limit -> sizing.fits limit kv available = true ->
    found = some limit
  largest : forall context, found = some context -> Candidate training context ∧
    sizing.fits context kv available = true ∧
    forall other, Candidate training other -> sizing.fits other kv available = true ->
      other ≤ context
  none_iff : found = none ↔ forall context, Candidate training context ->
    sizing.fits context kv available = false

/-- No context fits above one that does not. -/
def Antitone (sizing : Sizing) (kv : KvCacheType) (available : ℚ) : Prop :=
  forall smaller larger, smaller ≤ larger -> sizing.fits larger kv available = true ->
    sizing.fits smaller kv available = true

theorem antitone : Antitone sizing kv available :=
  fun _ _ le fits => sizing.fits_antitone kv le fits

/-! ## When it finds it -/

variable {training : Option Nat}

theorem maxContext_of_no_room (full : available - sizing.fixed ≤ 0) :
    sizing.maxContext kv available training = none := by
  unfold maxContext
  rw [if_pos full]

theorem maxContext_of_room (room : 0 < available - sizing.fixed) :
    sizing.maxContext kv available training =
      if 0 < sizing.searchFrom kv available training
          (sizing.searchStart kv available training) then
        some (sizing.searchFrom kv available training
          (sizing.searchStart kv available training))
      else none := by
  unfold maxContext
  rw [if_neg (not_le.mpr room)]

theorem exact_of_no_room (trained : training ≠ some 0) (full : available - sizing.fixed ≤ 0) :
    Exact sizing kv available training (sizing.maxContext kv available training) := by
  rw [maxContext_of_no_room full]
  refine ⟨?_, nofun, ?_⟩
  · intro limit isLimit fits
    have positive : 0 < limit := by
      refine Nat.pos_of_ne_zero fun zero => trained ?_
      rw [isLimit, zero]
    cases (fits_eq_false_of_no_room full positive).symm.trans fits
  · exact ⟨fun _ context candidate => fits_eq_false_of_no_room full candidate.1, fun _ => rfl⟩

/-- A context that is a candidate, fits and has no larger candidate that fits is
what the search should find. -/
theorem exact_of_greatest (trained : training ≠ some 0)
    (fits : 0 < context -> sizing.fits context kv available = true)
    (within : training.all (context ≤ ·) = true)
    (kind : training = some context ∨ contextStep ∣ context)
    (greatest : forall other, Candidate training other ->
      sizing.fits other kv available = true -> other ≤ context) :
    Exact sizing kv available training (if 0 < context then some context else none) := by
  refine ⟨?_, ?_, ?_⟩
  · intro limit isLimit limitFits
    have positive : 0 < limit := by
      refine Nat.pos_of_ne_zero fun zero => trained ?_
      rw [isLimit, zero]
    have candidate : Candidate training limit := by
      refine ⟨positive, ?_, .inl isLimit⟩
      rw [isLimit]
      exact decide_eq_true (Nat.le_refl _)
    have above := greatest limit candidate limitFits
    rw [isLimit] at within
    have below : context ≤ limit := of_decide_eq_true within
    rw [if_pos (Nat.lt_of_lt_of_le positive above), Nat.le_antisymm below above]
  · intro found isFound
    by_cases positive : 0 < context
    · rw [if_pos positive] at isFound
      cases isFound
      exact ⟨⟨positive, within, kind⟩, fits positive, greatest⟩
    · rw [if_neg positive] at isFound
      cases isFound
  · by_cases positive : 0 < context
    · rw [if_pos positive]
      refine ⟨nofun, fun unfit => ?_⟩
      cases (unfit context ⟨positive, within, kind⟩).symm.trans (fits positive)
    · rw [if_neg positive]
      refine ⟨fun _ other candidate => ?_, fun _ => rfl⟩
      refine Bool.eq_false_iff.mpr fun otherFits => positive ?_
      exact Nat.lt_of_lt_of_le candidate.1 (greatest other candidate otherFits)

/-- From a step under the cap, or from a cap that does not fit, the search is
exact if a trained context that fits is a step. -/
theorem exact_of_proper (trained : training ≠ some 0)
    (proper : contextStep ∣ start ∨ sizing.fits start kv available = false)
    (within : training.all (start ≤ ·) = true)
    (stepped : forall limit, training = some limit ->
      sizing.fits limit kv available = true -> contextStep ∣ limit) :
    Exact sizing kv available training
      (if 0 < sizing.searchFrom kv available training start then
        some (sizing.searchFrom kv available training start)
      else none) := by
  refine exact_of_greatest trained searchFrom_fits ?_ (.inr (searchFrom_step proper)) ?_
  · cases training with
    | none => rfl
    | some limit => exact decide_eq_true (searchFrom_le (of_decide_eq_true within))
  · intro other candidate fits
    have step : contextStep ∣ other :=
      candidate.2.2.elim (fun isLimit => stepped other isLimit fits) id
    exact le_searchFrom proper step candidate.2.1 fits

/-- A cap that fits is found from the cap. -/
theorem searchFrom_cap (fits : sizing.fits limit kv available = true) :
    sizing.searchFrom kv available (some limit) limit = limit := by
  refine Nat.le_antisymm (searchFrom_le (Nat.le_refl _)) ?_
  unfold searchFrom
  rw [(stepDown_lowered limit).kept fits]
  exact (stepUp_raised (some limit) limit).above

theorem searchStart_step (above : forall limit, training = some limit ->
    sizing.roomFor kv available < limit) :
    sizing.searchStart kv available training =
        sizing.roomFor kv available / contextStep * contextStep ∧
      training.all (sizing.roomFor kv available / contextStep * contextStep ≤ ·) = true := by
  cases training with
  | none => exact ⟨rfl, rfl⟩
  | some limit =>
      have beyond := above limit rfl
      have below := Nat.div_mul_le_self (sizing.roomFor kv available) contextStep
      refine ⟨?_, decide_eq_true (by omega)⟩
      unfold searchStart
      rw [Option.filter_some, if_neg (by simpa using beyond)]
      rfl

theorem searchStart_cap (reached : limit ≤ sizing.roomFor kv available) :
    sizing.searchStart kv available (some limit) = limit := by
  unfold searchStart
  rw [Option.filter_some, if_pos (decide_eq_true reached)]
  rfl

theorem exact_of_reached (trained : some limit ≠ some 0)
    (reached : limit ≤ sizing.roomFor kv available) :
    Exact sizing kv available (some limit)
      (if 0 < sizing.searchFrom kv available (some limit)
          (sizing.searchStart kv available (some limit)) then
        some (sizing.searchFrom kv available (some limit)
          (sizing.searchStart kv available (some limit)))
      else none) := by
  rw [searchStart_cap reached]
  cases fits : sizing.fits limit kv available with
  | true =>
      rw [searchFrom_cap fits]
      refine exact_of_greatest trained (fun _ => fits) (decide_eq_true (Nat.le_refl _))
        (.inl rfl) fun other candidate _ => ?_
      exact of_decide_eq_true candidate.2.1
  | false =>
      refine exact_of_proper trained (.inr fits) (decide_eq_true (Nat.le_refl _)) ?_
      intro other isOther otherFits
      cases isOther
      cases fits.symm.trans otherFits

/-- Below the cap the search starts at a step, and ends at one. -/
theorem exact_iff_of_above (trained : training ≠ some 0) (room : 0 < available - sizing.fixed)
    (above : forall limit, training = some limit -> sizing.roomFor kv available < limit) :
    Exact sizing kv available training (sizing.maxContext kv available training) ↔
      forall limit, training = some limit -> sizing.fits limit kv available = true ->
        contextStep ∣ limit := by
  rcases searchStart_step above with ⟨isStart, within⟩
  have proper : contextStep ∣ sizing.roomFor kv available / contextStep * contextStep ∨
      sizing.fits (sizing.roomFor kv available / contextStep * contextStep) kv available =
        false := .inl (Nat.dvd_mul_left _ _)
  rw [maxContext_of_room room, isStart]
  refine ⟨fun exactly limit isLimit fits => ?_, exact_of_proper trained proper within⟩
  have found := exactly.trained limit isLimit fits
  split at found
  · have step := @searchFrom_step sizing kv available training _ proper
    rwa [Option.some.inj found] at step
  · cases found

/-- The search finds what it should exactly if a trained context that fits by
what is shown fits by the exact total too or is a whole number of steps. -/
theorem maxContext_exact (sizing : Sizing) (kv : KvCacheType) (available : ℚ)
    (training : Option Nat) (trained : training ≠ some 0) :
    (Exact sizing kv available training (sizing.maxContext kv available training) ∧
        Antitone sizing kv available) ↔
      forall limit, training = some limit -> sizing.fits limit kv available = true ->
        sizing.total limit kv ≤ available ∨ contextStep ∣ limit := by
  refine (and_iff_left antitone).trans ?_
  rcases le_or_gt (available - sizing.fixed) 0 with full | room
  · have exactly := @exact_of_no_room sizing kv available training trained full
    refine ⟨fun _ limit isLimit fits => ?_, fun _ => exactly⟩
    have found := exactly.trained limit isLimit fits
    rw [maxContext_of_no_room full] at found
    cases found
  · by_cases reached : exists limit, training = some limit ∧ limit ≤ sizing.roomFor kv available
    · rcases reached with ⟨limit, rfl, reached⟩
      have exactly := exact_of_reached trained reached
      rw [← maxContext_of_room room] at exactly
      refine ⟨fun _ other isOther _ => ?_, fun _ => exactly⟩
      cases isOther
      exact .inl ((le_roomFor_iff room).mp reached)
    · have above : forall limit, training = some limit -> sizing.roomFor kv available < limit :=
        fun limit isLimit => Nat.lt_of_not_le fun inside => reached ⟨limit, isLimit, inside⟩
      refine (exact_iff_of_above trained room above).trans ?_
      refine forall_congr' fun limit => forall_congr' fun isLimit => forall_congr' fun _ => ?_
      refine (or_iff_right fun inside => ?_).symm
      exact absurd ((le_roomFor_iff room).mpr inside) (Nat.not_le.mpr (above limit isLimit))

theorem maxContext_exact_trained :
    some 512 ≠ some 0 ∧
      ((Exact ⟨1048576, 1048576, 0, 64, 32, 2⟩ .f16 1724907520 (some 512)
          (Sizing.maxContext ⟨1048576, 1048576, 0, 64, 32, 2⟩ .f16 1724907520 (some 512)) ∧
        Antitone ⟨1048576, 1048576, 0, 64, 32, 2⟩ .f16 1724907520) ↔
      forall limit, some 512 = some limit ->
        Sizing.fits ⟨1048576, 1048576, 0, 64, 32, 2⟩ limit .f16 1724907520 = true ->
        Sizing.total ⟨1048576, 1048576, 0, 64, 32, 2⟩ limit .f16 ≤ 1724907520 ∨
          contextStep ∣ limit) :=
  ⟨by decide, maxContext_exact ⟨1048576, 1048576, 0, 64, 32, 2⟩ .f16 1724907520 (some 512)
    (by decide)⟩

/-! ## A trained context it misses -/

/-- Two layers whose caches hold 3584 and 35 elements for each token. -/
def unevenHeader : GgufHeader where
  version := 3
  architecture := some "llama"
  tensorCount := 0
  paramCount := 0
  dataOffset := 0
  blockCount := some 2
  embeddingLength := none
  headCount := none
  headCountKv := some (.each [3584, 35])
  keyLength := some 1
  valueLength := some 0
  feedForwardLength := some 148
  contextLength := some 31633
  splitCount := none
  slidingWindow := false
  ssm := false
  latentAttention := false
  moe := false
  tokenEmbd := none
  hasOutput := true

def unevenSizing : Sizing where
  data := 1048576
  weights := 1048576
  computeBase := 909312
  kvElementsPerToken := 3619
  widestLayerKvElements := 3584
  layers := 2

theorem unevenHeader_sizing : Sizing.ofHeader unevenHeader 1048576 = .ok unevenSizing := by
  rfl

theorem unevenSizing_perToken : unevenSizing.computeBytesPerToken .q8_0 = 8192 := by
  rfl

theorem runtimeReserveBytes_eq : runtimeReserveBytes = 1342177280 := by
  rfl

theorem unevenSizing_shownTotal : unevenSizing.shownTotal 31633 .q8_0 = 1724907520 := by
  have cache : unevenSizing.kvBytes 31633 .q8_0 = (121634816 : Nat) + 3 / 16 := by
    norm_num [kvBytes, unevenSizing, KvCacheType.bytesPerElement]
  have rounded : roundBytes (unevenSizing.kvBytes 31633 .q8_0) = 121634816 := by
    rw [cache]
    refine (Nat.floor_eq_iff (by positivity)).mpr ⟨?_, ?_⟩
    · norm_num
    · norm_num
  rw [shownTotal_eq, rounded, computeBytes_natCast, roundBytes_natCast, runtimeReserveBytes_eq,
    unevenSizing_perToken]
  norm_num [unevenSizing, mibUp, mib]

theorem unevenSizing_total : unevenSizing.total 31633 .q8_0 = 1724907520 + 3 / 16 := by
  unfold total fixed bytesPerToken
  rw [runtimeReserveBytes_eq, unevenSizing_perToken]
  norm_num [unevenSizing, KvCacheType.bytesPerElement]

/-- 31633 tokens fit by what is shown, and the search reports none that many. -/
theorem trained_context_missed :
    exists sizing, Sizing.ofHeader unevenHeader 1048576 = .ok sizing ∧
      sizing.fits 31633 .q8_0 1724907520 = true ∧
      ¬ (Exact sizing .q8_0 1724907520 (some 31633)
          (sizing.maxContext .q8_0 1724907520 (some 31633)) ∧
        Antitone sizing .q8_0 1724907520) := by
  have fits : unevenSizing.fits 31633 .q8_0 1724907520 = true :=
    decide_eq_true (le_of_eq unevenSizing_shownTotal)
  have room : 0 < 1724907520 - unevenSizing.fixed := by
    unfold fixed
    rw [runtimeReserveBytes_eq]
    norm_num [unevenSizing]
  have above : forall limit, some 31633 = some limit ->
      unevenSizing.roomFor .q8_0 1724907520 < limit := by
    intro limit isLimit
    cases isLimit
    refine Nat.lt_of_not_le fun reached => ?_
    have inside := (le_roomFor_iff room).mp reached
    rw [unevenSizing_total] at inside
    norm_num at inside
  refine ⟨unevenSizing, unevenHeader_sizing, fits, fun exactly => ?_⟩
  have step := (exact_iff_of_above (by decide) room above).mp exactly.1 31633 rfl fits
  revert step
  decide

end Sizing

end Gguf
end RocmCli
