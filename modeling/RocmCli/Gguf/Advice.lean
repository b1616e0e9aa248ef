import RocmCli.Gguf.FitReport

namespace RocmCli
namespace Gguf

open Support.Thresholds

/-!
# The advice is true

Every figure a report on a model that does not fit quotes is decided by the same
test of what is shown: the largest context, the narrower caches, the smaller
quantization and the layers a GPU holds.
-/

namespace Sizing

variable {sizing : Sizing} {kv : KvCacheType} {available : ℚ}

/-! ## The largest context -/

variable {context : Nat}

theorem maxContext_fits {training : Option Nat}
    (found : sizing.maxContext kv available training = some context) :
    0 < context ∧ sizing.fits context kv available = true := by
  rcases le_or_gt (available - sizing.fixed) 0 with full | room
  · rw [maxContext_of_no_room full] at found
    cases found
  · rw [maxContext_of_room room] at found
    split at found
    · rename_i positive
      cases found
      exact ⟨positive, searchFrom_fits positive⟩
    · cases found

/-- The whole steps of a context. -/
def wholeSteps (context : Nat) : Nat := context / contextStep * contextStep

theorem wholeSteps_le (context : Nat) : wholeSteps context ≤ context := Nat.div_mul_le_self _ _

theorem dvd_wholeSteps (context : Nat) : contextStep ∣ wholeSteps context := Nat.dvd_mul_left _ _

/-- What fits by what is shown, fits with one token less by the exact total. -/
theorem le_roomFor_of_fits (room : 0 < available - sizing.fixed) {smaller larger : Nat}
    (below : smaller < larger) (fits : sizing.fits larger kv available = true) :
    smaller ≤ sizing.roomFor kv available := by
  apply (le_roomFor_iff room).mpr
  have shown : sizing.shownTotal larger kv ≤ available := of_decide_eq_true fits
  have exact := sizing.total_le_shownTotal kv larger
  have perToken := sizing.mask_le_bytesPerToken kv
  have step : (smaller : ℚ) + 1 ≤ larger := by exact_mod_cast below
  unfold total at exact ⊢
  nlinarith

/-- A search for a cache the request fits with finds the whole steps of the
request, up to the trained context. -/
theorem wholeSteps_le_maxContext {training : Option Nat} {largest : Nat}
    (fits : sizing.fits context kv available = true)
    (found : sizing.maxContext kv available training = some largest) :
    training.elim (wholeSteps context) (min (wholeSteps context)) ≤ largest := by
  rcases le_or_gt (available - sizing.fixed) 0 with full | room
  · rw [maxContext_of_no_room full] at found
    cases found
  · rw [maxContext_of_room room] at found
    split at found
    · cases found
      have stepFits : sizing.fits (wholeSteps context) kv available = true :=
        sizing.fits_antitone kv (wholeSteps_le context) fits
      cases training with
      | none =>
          have above : forall limit, (none : Option Nat) = some limit ->
              sizing.roomFor kv available < limit := nofun
          rw [(searchStart_step above).1]
          exact le_searchFrom (.inl (Nat.dvd_mul_left _ _)) (dvd_wholeSteps context) rfl stepFits
      | some limit =>
          rw [Option.elim_some]
          rcases Nat.lt_or_ge (sizing.roomFor kv available) limit with short | reached
          · have above : forall other, some limit = some other ->
                sizing.roomFor kv available < other := by
              intro other same
              cases same
              exact short
            rw [(searchStart_step above).1]
            have within : wholeSteps context ≤ limit := by
              by_contra beyond
              have below := wholeSteps_le context
              have inside := le_roomFor_of_fits room (show limit < context by omega) fits
              omega
            exact Nat.le_trans (Nat.min_le_left _ _)
              (le_searchFrom (.inl (Nat.dvd_mul_left _ _)) (dvd_wholeSteps context)
                (decide_eq_true within) stepFits)
          · rw [searchStart_cap reached]
            cases limitFits : sizing.fits limit kv available with
            | true =>
                rw [searchFrom_cap limitFits]
                exact Nat.min_le_right _ _
            | false =>
                have within : wholeSteps context ≤ limit := by
                  by_contra beyond
                  have below := wholeSteps_le context
                  have inside := sizing.fits_antitone kv (show limit ≤ context by omega) fits
                  rw [limitFits] at inside
                  cases inside
                exact Nat.le_trans (Nat.min_le_left _ _)
                  (le_searchFrom (.inr limitFits) (dvd_wholeSteps context)
                    (decide_eq_true within) stepFits)
    · cases found

/-! ## The layers -/

theorem shownSum_mono {weights weights' cache cache' compute reserve : ℚ}
    (weightsLe : weights ≤ weights') (cacheLe : cache ≤ cache') :
    shownSum weights cache compute reserve ≤ shownSum weights' cache' compute reserve := by
  have first := mibUp_mono (roundBytes_mono weightsLe)
  have second := mibUp_mono (roundBytes_mono cacheLe)
  unfold shownSum
  have sums : (mibUp (roundBytes weights) + mibUp (roundBytes cache) +
      mibUp (roundBytes compute) + mibUp (roundBytes reserve)) * mib ≤
        (mibUp (roundBytes weights') + mibUp (roundBytes cache') +
          mibUp (roundBytes compute) + mibUp (roundBytes reserve)) * mib :=
    Nat.mul_le_mul_right mib (by omega)
  exact_mod_cast sums

theorem layersFit_antitone {smaller larger : Nat} (le : smaller ≤ larger)
    (fits : sizing.layersFit larger context kv available = true) :
    sizing.layersFit smaller context kv available = true := by
  have leRat : (smaller : ℚ) ≤ larger := by exact_mod_cast le
  have share : (smaller : ℚ) / sizing.layers ≤ larger / sizing.layers := by gcongr
  have cache : 0 ≤ sizing.kvBytes context kv := by
    have nonneg := bytesPerElement_nonneg kv
    unfold kvBytes
    positivity
  refine decide_eq_true (le_trans (shownSum_mono ?_ ?_) (of_decide_eq_true fits))
  · gcongr
  · gcongr

end Sizing

/-! ## Each kind of advice -/

variable {header : GgufHeader} {sizing : Sizing} {request : FitRequest} {available : ℚ}
  {systemRamGib : Option ℚ}

theorem layersEstimate_le : layersEstimate sizing request available ≤ sizing.layers := by
  unfold layersEstimate
  dsimp only
  split
  · exact Nat.min_le_right _ _
  · exact Nat.zero_le _

/-- The search for the layers finds the most the GPU holds. -/
theorem layersOnGpu_greatest :
    layersOnGpu sizing request available ≤ sizing.layers ∧
      (0 < layersOnGpu sizing request available ->
        sizing.layersFit (layersOnGpu sizing request available) request.contextSize
          request.kvCacheType available = true) ∧
      forall other, other ≤ sizing.layers ->
        sizing.layersFit other request.contextSize request.kvCacheType available = true ->
        other ≤ layersOnGpu sizing request available :=
  raise_lower_greatest (fun _ _ le fits => Sizing.layersFit_antitone le fits) layersEstimate_le

theorem offloadSuggestion_true {advice : Advice}
    (advised : offloadSuggestion sizing request available systemRamGib = some advice) :
    exists onGpu hostBytes, advice = .cpuOffload onGpu hostBytes systemRamGib.isSome ∧
      0 < onGpu ∧ onGpu < sizing.layers ∧
      sizing.layersFit onGpu request.contextSize request.kvCacheType available = true ∧
      (forall other,
        sizing.layersFit other request.contextSize request.kvCacheType available = true ->
        other ≤ onGpu) ∧
      hostBytes = perLayerBytes sizing request * (sizing.layers - onGpu : Nat) ∧
      forall ram, systemRamGib = some ram -> hostBytes ≤ ram * gibBytes := by
  rcases @layersOnGpu_greatest sizing request available with ⟨within, fits, greatest⟩
  unfold offloadSuggestion at advised
  dsimp only at advised
  split at advised
  · cases advised
  · rename_i partly
    have positive : 0 < layersOnGpu sizing request available := by omega
    have fewer : layersOnGpu sizing request available < sizing.layers := by omega
    split at advised
    · cases advised
    · rename_i room
      cases advised
      refine ⟨_, _, rfl, positive, fewer, fits positive, ?_, rfl, ?_⟩
      · intro other otherFits
        rcases Nat.lt_or_ge sizing.layers other with beyond | inside
        · -- with more layers than there are, all of them would fit
          have all := Sizing.layersFit_antitone (Nat.le_of_lt beyond) otherFits
          have reached := greatest sizing.layers (Nat.le_refl _) all
          omega
        · exact greatest other inside otherFits
      · rintro ram rfl
        by_contra more
        apply room
        exact decide_eq_true (not_le.mp more)

/-- The table runs from the smallest quantization to the largest. -/
theorem quantBitsPerWeight_sorted :
    quantBitsPerWeight.Pairwise fun smaller larger => smaller.2 < larger.2 := by
  unfold quantBitsPerWeight
  norm_num

/-- A quantization of the table that is meaningfully smaller than the current
one. -/
def SmallerQuant (header : GgufHeader) (sizing : Sizing) (row : String × ℚ) : Prop :=
  row ∈ quantBitsPerWeight ∧ row.2 < currentBitsPerWeight header sizing * quantSmallerFactor

/-- The quantization that is named is the largest of the smaller ones that
fits. -/
theorem quantAdvice_true {label : String} {weights : ℚ}
    (advised : quantAdvice header sizing request available = some (.smallerQuant label weights)) :
    exists bits, SmallerQuant header sizing (label, bits) ∧
      weights = sizing.quantWeights header.paramCount bits ∧
      sizing.shownTotalWith weights request.contextSize request.kvCacheType ≤ available ∧
      forall row, SmallerQuant header sizing row ->
        sizing.shownTotalWith (sizing.quantWeights header.paramCount row.2)
          request.contextSize request.kvCacheType ≤ available ->
        row.2 ≤ bits := by
  unfold quantAdvice at advised
  dsimp only at advised
  split at advised
  · split at advised
    · rename_i found
      cases advised
      unfold quantCandidates at found
      rw [List.find?_map, Option.map_eq_some_iff] at found
      rcases found with ⟨row, first, same⟩
      rcases List.find?_eq_some_iff_append.mp first with ⟨passes, front, back, split, before⟩
      have rows (other : String × ℚ) : SmallerQuant header sizing other <->
          other ∈ front ++ row :: back := by
        rw [← split, List.mem_filter, List.mem_reverse, decide_eq_true_iff]
        rfl
      have descending : (front ++ row :: back).Pairwise fun larger smaller =>
          smaller.2 < larger.2 := by
        rw [← split]
        exact (List.pairwise_reverse.mpr quantBitsPerWeight_sorted).filter _
      have isRow := (rows row).mpr (List.mem_append_right _ List.mem_cons_self)
      have parts := Prod.mk.inj same
      refine ⟨row.2, ?_, parts.2.symm, ?_, ?_⟩
      · rw [← parts.1]
        exact isRow
      · rw [← parts.2]
        exact of_decide_eq_true passes
      · intro other smaller fits
        rcases List.mem_append.mp ((rows other).mp smaller) with inFront | later
        · have failed := before other inFront
          simp [fits] at failed
        · rcases List.mem_cons.mp later with rfl | inBack
          · exact le_refl _
          · have order := (List.pairwise_cons.mp (List.pairwise_append.mp descending).2.1).1
            exact (order other inBack).le
    · cases advised
    · cases advised
  · cases advised

/-- What a narrower cache is named with. -/
def namedCache (header : GgufHeader) (sizing : Sizing) (request : FitRequest) (available : ℚ)
    (smaller : KvCacheType) : Advice :=
  .narrowerCache smaller (⌊sizing.shownTotal request.contextSize smaller⌋₊ / mib)
    (sizing.fits request.contextSize smaller available)
    (if sizing.fits request.contextSize smaller available then
      sizing.maxContext smaller available (trainedContext header)
    else none)

/-- Each narrower cache is named exactly when it lowers the need. -/
theorem mem_cacheAdvice {smaller : KvCacheType} {totalMib : Nat} {fits : Bool}
    {largest : Option Nat} :
    .narrowerCache smaller totalMib fits largest ∈
        cacheAdvice header sizing request available <->
      (smaller.bytesPerElement < request.kvCacheType.bytesPerElement ∧
        sizing.shownTotal request.contextSize smaller <
          sizing.shownTotal request.contextSize request.kvCacheType) ∧
      .narrowerCache smaller totalMib fits largest =
        namedCache header sizing request available smaller := by
  have everyType : smaller ∈ KvCacheType.all := by
    cases smaller <;> decide
  have named (list : List KvCacheType) :
      .narrowerCache smaller totalMib fits largest ∈
          (let advice := list.map (namedCache header sizing request available)
          if advice.isEmpty then [] else advice ++ [Advice.flashAttention]) <->
        smaller ∈ list ∧ .narrowerCache smaller totalMib fits largest =
          namedCache header sizing request available smaller := by
    cases list with
    | nil => simp
    | cons first rest =>
        show _ ∈ (first :: rest).map (namedCache header sizing request available) ++
          [.flashAttention] <-> _
        rw [List.mem_append, List.mem_map, List.mem_singleton]
        constructor
        · rintro (⟨other, member, same⟩ | flash)
          · have cache : other = smaller := (Advice.narrowerCache.inj same).1
            subst cache
            exact ⟨member, same.symm⟩
          · cases flash
        · rintro ⟨member, same⟩
          exact Or.inl ⟨smaller, member, same.symm⟩
  refine (named _).trans (and_congr_left fun _ => ?_)
  simp [everyType]

theorem shownTotal_floor (context : Nat) (kv : KvCacheType) :
    ((⌊sizing.shownTotal context kv⌋₊ / mib * mib : Nat) : ℚ) = sizing.shownTotal context kv := by
  have positive : 0 < mib := by decide
  rw [Sizing.shownTotal_eq, Nat.floor_natCast, Nat.mul_div_cancel _ positive]

/-! ## The whole report -/

/-- Nothing but an estimate that found no fit advises anything, and it advises
on the sizing of the header and the memory it was given. -/
theorem estimateFit_doesNotFit {fileSize : Nat} {memory : AcceleratorMemory}
    (outcome : (estimateFit header fileSize request memory systemRamGib).outcome = .doesNotFit) :
    exists sizing gib, Sizing.ofHeader header fileSize = .ok sizing ∧
      memory = .dedicated gib ∧
      sizing.fits request.contextSize request.kvCacheType (gib * gibBytes) = false ∧
      (estimateFit header fileSize request memory systemRamGib).suggestions =
        (adviceFor header sizing request (gib * gibBytes)
          (sizing.maxContext request.kvCacheType (gib * gibBytes) (trainedContext header))
          systemRamGib).map (Advice.render sizing request) := by
  cases sized : Sizing.ofHeader header fileSize with
  | error reason => simp [estimateFit, sized] at outcome
  | ok sizing =>
      by_cases implausible : maxPlausibleBytes ≤ sizing.total request.contextSize request.kvCacheType
      · simp [estimateFit, sized, implausible] at outcome
      · cases memory with
        | dedicated gib =>
            by_cases layout : header.ssm || header.moe || widthsMissing header
            · simp only [estimateFit, sized, implausible, AcceleratorMemory.measuredGib, layout,
                if_true, if_false] at outcome
              cases outcome
            · cases fits : sizing.fits request.contextSize request.kvCacheType (gib * gibBytes) with
              | true =>
                  simp only [estimateFit, sized, implausible, AcceleratorMemory.measuredGib, layout,
                    fits, if_true, if_false] at outcome
                  cases outcome
              | false =>
                  refine ⟨sizing, gib, rfl, rfl, fits, ?_⟩
                  simp only [estimateFit, sized, implausible, AcceleratorMemory.measuredGib, layout,
                    fits, if_false]
                  rfl
        | none =>
            simp only [estimateFit, sized, implausible, AcceleratorMemory.measuredGib,
              if_false] at outcome
            cases outcome
        | unifiedMemoryUnreadable =>
            simp only [estimateFit, sized, implausible, AcceleratorMemory.measuredGib,
              if_false] at outcome
            cases outcome
        | unknown =>
            simp only [estimateFit, sized, implausible, AcceleratorMemory.measuredGib,
              if_false] at outcome
            cases outcome

/-- What makes the advice of a report true. -/
structure TrueAdvice (header : GgufHeader) (sizing : Sizing) (request : FitRequest)
    (available : ℚ) (systemRamGib : Option ℚ) (advice : List Advice) : Prop where
  context : forall max slidingWindow, .smallerContext max slidingWindow ∈ advice ->
    max < request.contextSize ∧ sizing.fits max request.kvCacheType available = true
  named : forall smaller,
    (exists totalMib fits largest, .narrowerCache smaller totalMib fits largest ∈ advice) <->
      smaller.bytesPerElement < request.kvCacheType.bytesPerElement ∧
        sizing.shownTotal request.contextSize smaller <
          sizing.shownTotal request.contextSize request.kvCacheType
  cache : forall smaller totalMib fits largest,
    .narrowerCache smaller totalMib fits largest ∈ advice ->
      ((totalMib * mib : Nat) : ℚ) = sizing.shownTotal request.contextSize smaller ∧
        fits = sizing.fits request.contextSize smaller available ∧
        forall context, largest = some context ->
          (trainedContext header).elim (Sizing.wholeSteps request.contextSize)
            (min (Sizing.wholeSteps request.contextSize)) ≤ context
  quant : forall label weights, .smallerQuant label weights ∈ advice ->
    exists bits, SmallerQuant header sizing (label, bits) ∧
      weights = sizing.quantWeights header.paramCount bits ∧
      sizing.shownTotalWith weights request.contextSize request.kvCacheType ≤ available ∧
      forall row, SmallerQuant header sizing row ->
        sizing.shownTotalWith (sizing.quantWeights header.paramCount row.2)
          request.contextSize request.kvCacheType ≤ available ->
        row.2 ≤ bits
  offload : forall onGpu hostBytes ramKnown, .cpuOffload onGpu hostBytes ramKnown ∈ advice ->
    0 < onGpu ∧ onGpu < sizing.layers ∧
      sizing.layersFit onGpu request.contextSize request.kvCacheType available = true ∧
      (forall other,
        sizing.layersFit other request.contextSize request.kvCacheType available = true ->
        other ≤ onGpu) ∧
      hostBytes = perLayerBytes sizing request * (sizing.layers - onGpu : Nat) ∧
      forall ram, systemRamGib = some ram -> hostBytes ≤ ram * gibBytes

/-! ## Which advice comes from where -/

variable {piece : Advice}

theorem contextAdvice_kind {maxContext : Option Nat}
    (advised : contextAdvice header maxContext = some piece) : piece.kind = .smallerContext := by
  rcases Option.map_eq_some_iff.mp advised with ⟨max, _, rfl⟩
  rfl

theorem cacheAdvice_kind (advised : piece ∈ cacheAdvice header sizing request available) :
    piece.kind = .kvCacheType := by
  unfold cacheAdvice at advised
  dsimp only at advised
  split at advised
  · exact absurd advised List.not_mem_nil
  · rcases List.mem_append.mp advised with named | flash
    · rcases List.mem_map.mp named with ⟨smaller, _, rfl⟩
      rfl
    · rw [List.mem_singleton.mp flash]
      rfl

theorem quantAdvice_kind (advised : quantAdvice header sizing request available = some piece) :
    piece.kind = .smallerQuant := by
  unfold quantAdvice at advised
  dsimp only at advised
  split at advised
  · split at advised
    · cases advised
      rfl
    · cases advised
      rfl
    · cases advised
  · cases advised

theorem offloadSuggestion_kind
    (advised : offloadSuggestion sizing request available systemRamGib = some piece) :
    piece.kind = .cpuOffload := by
  rcases offloadSuggestion_true advised with ⟨onGpu, hostBytes, rfl, _⟩
  rfl

/-- What the part of a report for one kind of advice advises. -/
def Advised (header : GgufHeader) (sizing : Sizing) (request : FitRequest) (available : ℚ)
    (maxContext : Option Nat) (systemRamGib : Option ℚ) (piece : Advice) :
    SuggestionKind -> Prop
  | .smallerContext => contextAdvice header maxContext = some piece
  | .kvCacheType => piece ∈ cacheAdvice header sizing request available
  | .smallerQuant => quantAdvice header sizing request available = some piece
  | .cpuOffload => offloadSuggestion sizing request available systemRamGib = some piece

/-- Every piece of advice comes from the part of the report for its kind. -/
theorem mem_adviceFor {maxContext : Option Nat} (piece : Advice) :
    piece ∈ adviceFor header sizing request available maxContext systemRamGib <->
      Advised header sizing request available maxContext systemRamGib piece piece.kind := by
  simp only [adviceFor, List.mem_append, Option.mem_toList]
  constructor
  · rintro (((isContext | isCache) | isQuant) | isOffload)
    · rwa [contextAdvice_kind isContext]
    · rwa [cacheAdvice_kind isCache]
    · rwa [quantAdvice_kind isQuant]
    · rwa [offloadSuggestion_kind isOffload]
  · intro advised
    cases kind : piece.kind with
    | smallerContext =>
        rw [kind] at advised
        exact Or.inl (Or.inl (Or.inl advised))
    | kvCacheType =>
        rw [kind] at advised
        exact Or.inl (Or.inl (Or.inr advised))
    | smallerQuant =>
        rw [kind] at advised
        exact Or.inl (Or.inr advised)
    | cpuOffload =>
        rw [kind] at advised
        exact Or.inr advised

/-- The advice of a report on a model that does not fit is true. -/
theorem advice_true (header : GgufHeader) (fileSize : Nat) (request : FitRequest)
    (memory : AcceleratorMemory) (systemRamGib : Option ℚ)
    (outcome : (estimateFit header fileSize request memory systemRamGib).outcome = .doesNotFit) :
    exists sizing gib, exists advice : List Advice,
      Sizing.ofHeader header fileSize = .ok sizing ∧ memory = .dedicated gib ∧
      (estimateFit header fileSize request memory systemRamGib).suggestions =
        advice.map (Advice.render sizing request) ∧
      TrueAdvice header sizing request (gib * gibBytes) systemRamGib advice := by
  rcases estimateFit_doesNotFit outcome with ⟨sizing, gib, sized, rfl, unfit, suggested⟩
  refine ⟨sizing, gib, _, sized, rfl, suggested, ?_, ?_, ?_, ?_, ?_⟩
  · intro max slidingWindow advised
    have source := (mem_adviceFor _).mp advised
    rcases Option.map_eq_some_iff.mp source with ⟨context, found, same⟩
    cases same
    have fits := (Sizing.maxContext_fits found).2
    refine ⟨?_, fits⟩
    by_contra larger
    have requested := sizing.fits_antitone _ (Nat.le_of_not_lt larger) fits
    rw [unfit] at requested
    cases requested
  · intro smaller
    constructor
    · rintro ⟨totalMib, fits, largest, advised⟩
      exact (mem_cacheAdvice.mp ((mem_adviceFor _).mp advised)).1
    · intro lowers
      exact ⟨_, _, _, (mem_adviceFor _).mpr (mem_cacheAdvice.mpr ⟨lowers, rfl⟩)⟩
  · intro smaller totalMib fits largest advised
    have figures := (mem_cacheAdvice.mp ((mem_adviceFor _).mp advised)).2
    rcases Advice.narrowerCache.inj figures with ⟨_, rfl, rfl, rfl⟩
    refine ⟨shownTotal_floor _ _, rfl, ?_⟩
    intro context found
    split at found
    · rename_i fits
      exact Sizing.wholeSteps_le_maxContext fits found
    · cases found
  · intro label weights advised
    exact quantAdvice_true ((mem_adviceFor _).mp advised)
  · intro onGpu hostBytes ramKnown advised
    rcases offloadSuggestion_true ((mem_adviceFor _).mp advised) with
      ⟨_, _, same, positive, fewer, fits, greatest, host, room⟩
    cases same
    exact ⟨positive, fewer, fits, greatest, host, room⟩

/-! ## A quantization hardly smaller than the current one -/

/-- A small model of 4.4 bits per weight. -/
def quantizedHeader : GgufHeader where
  version := 3
  architecture := some "llama"
  tensorCount := 1
  paramCount := 2097152000
  dataOffset := 0
  blockCount := some 1
  embeddingLength := some 1
  headCount := some (.uniform 1)
  headCountKv := some (.uniform 1)
  keyLength := some 1
  valueLength := some 1
  feedForwardLength := some 1
  contextLength := none
  splitCount := none
  slidingWindow := false
  ssm := false
  latentAttention := false
  moe := false
  tokenEmbd := none
  hasOutput := false

def quantizedSizing : Sizing where
  data := 1153433600
  weights := 1153433600
  computeBase := 12288
  kvElementsPerToken := 2
  widestLayerKvElements := 2
  layers := 1

def smallRequest : FitRequest where
  contextSize := 256
  contextSizeDefaulted := false
  kvCacheType := .f16

theorem quantizedHeader_sizing :
    Sizing.ofHeader quantizedHeader 1153433600 = .ok quantizedSizing := by
  rfl

theorem quantizedHeader_doesNotFit :
    (estimateFit quantizedHeader 1153433600 smallRequest (.dedicated (2350 / 1024)) none).outcome =
      .doesNotFit := by
  decide +kernel

theorem advice_true_quantized :
    exists sizing gib, exists advice : List Advice,
      Sizing.ofHeader quantizedHeader 1153433600 = .ok sizing ∧
      AcceleratorMemory.dedicated (2350 / 1024) = .dedicated gib ∧
      (estimateFit quantizedHeader 1153433600 smallRequest (.dedicated (2350 / 1024))
        none).suggestions = advice.map (Advice.render sizing smallRequest) ∧
      TrueAdvice quantizedHeader sizing smallRequest (gib * gibBytes) none advice :=
  advice_true quantizedHeader 1153433600 smallRequest (.dedicated (2350 / 1024)) none
    quantizedHeader_doesNotFit

/-- At 4.4 bits per weight a quantization of 4.25 bits would fit, and the report
names the next smaller one. -/
theorem hardly_smaller_quant_skipped :
    (estimateFit quantizedHeader 1153433600 smallRequest (.dedicated (2350 / 1024)) none).outcome =
        .doesNotFit ∧
      Sizing.ofHeader quantizedHeader 1153433600 = .ok quantizedSizing ∧
      quantAdvice quantizedHeader quantizedSizing smallRequest (2350 / 1024 * gibBytes) =
        some (.smallerQuant "Q3_K_M" (quantizedSizing.quantWeights 2097152000 (391 / 100))) ∧
      ("IQ4_XS", 425 / 100) ∈ quantBitsPerWeight ∧
      425 / 100 < currentBitsPerWeight quantizedHeader quantizedSizing ∧
      quantizedSizing.shownTotalWith (quantizedSizing.quantWeights 2097152000 (425 / 100)) 256
        .f16 ≤ 2350 / 1024 * gibBytes := by
  refine ⟨quantizedHeader_doesNotFit, quantizedHeader_sizing, ?_, ?_, ?_, ?_⟩
  · decide +kernel
  · decide +kernel
  · decide +kernel
  · decide +kernel

end Gguf
end RocmCli
