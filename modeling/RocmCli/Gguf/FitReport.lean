import RocmCli.Gguf.LargestContext
import RocmCli.Support.Thresholds

namespace RocmCli
namespace Gguf

open Support.Thresholds

/-!
# The report on a model that may not fit

An estimate compares what a header implies with the memory of a GPU.  Where it
does not fit, the report advises: a smaller context, a narrower cache, a smaller
quantization, or layers left in system memory.  Each piece of advice carries the
figures its text is made of.
-/

/-! ## The parts of a report -/

/-- What is known of the accelerator's memory. -/
inductive AcceleratorMemory where
  | none
  | unifiedMemoryUnreadable
  | unknown
  | dedicated (gib : ℚ)
  deriving DecidableEq, Repr

def AcceleratorMemory.measuredGib : AcceleratorMemory -> Option ℚ
  | .dedicated gib => some gib
  | _ => Option.none

structure FitRequest where
  contextSize : Nat
  contextSizeDefaulted : Bool
  kvCacheType : KvCacheType
  deriving DecidableEq, Repr

inductive EstimateOutcome where
  | fits
  | doesNotFit
  | cannotEstimate
  deriving DecidableEq, Repr

inductive SuggestionKind where
  | smallerContext
  | kvCacheType
  | smallerQuant
  | cpuOffload
  deriving DecidableEq, Repr

structure FitSuggestion where
  kind : SuggestionKind
  text : String
  deriving DecidableEq, Repr

structure ContextEstimate where
  outcome : EstimateOutcome
  cannotEstimateReason : Option CannotEstimateReason
  detail : Option String
  layers : Option Nat
  contextSize : Nat
  contextSizeDefaulted : Bool
  kvCacheType : KvCacheType
  weightsBytes : Option Nat
  kvCacheBytes : Option Nat
  computeBufferBytes : Option Nat
  runtimeReserveBytes : Option Nat
  totalBytes : Option Nat
  kvCacheBytesPerToken : Option ℚ
  availableGib : Option ℚ
  maxContext : Option Nat
  trainingContext : Option Nat
  conservativeCeiling : Bool
  suggestions : List FitSuggestion
  notes : List String

/-! ## Constants -/

def gibBytes : ℚ := 1024 * 1024 * 1024

def maxContextSize : Nat := 2 ^ 24

def maxPlausibleBytes : ℚ := 2 ^ 60

def minPlausibleBitsPerWeight : ℚ := 1

def maxPlausibleBitsPerWeight : ℚ := 33

def quantSmallerFactor : ℚ := 95 / 100

/-- Bits per weight of the common quantizations, smallest first. -/
def quantBitsPerWeight : List (String × ℚ) :=
  [("Q2_K", 335 / 100), ("Q3_K_M", 391 / 100), ("IQ4_XS", 425 / 100), ("Q4_K_M", 485 / 100),
    ("Q5_K_M", 569 / 100), ("Q6_K", 656 / 100), ("Q8_0", 85 / 10)]

/-- Every cache type, widest first. -/
def KvCacheType.all : List KvCacheType := [.f16, .q8_0, .q4_0]

def KvCacheType.name : KvCacheType -> String
  | .f16 => "f16"
  | .q8_0 => "q8_0"
  | .q4_0 => "q4_0"

/-! ## Texts -/

/-- A figure that has to cover a need, in tenths of a GiB rounded up. -/
def need (bytes : ℚ) : String :=
  let tenths := ⌈bytes / gibBytes * 10⌉₊
  toString (tenths / 10) ++ "." ++ toString (tenths % 10) ++ " GiB"

def tokens (count : Nat) : String :=
  if count = 1 then "1 token" else toString count ++ " tokens"

/-- A host's memory in whole MiB, rounded down. -/
def wholeMibOffered (gib : ℚ) : Int := ⌊gib * 1024 + 1 / 10 ^ 6⌋

/-! ## Advice -/

/-- One piece of advice, with the figures it quotes. -/
inductive Advice where
  | smallerContext (max : Nat) (slidingWindow : Bool)
  | narrowerCache (smaller : KvCacheType) (totalMib : Nat) (fits : Bool) (largest : Option Nat)
  | flashAttention
  | smallerQuant (label : String) (weights : ℚ)
  | noSmallerQuant (label : String)
  | cpuOffload (onGpu : Nat) (hostBytes : ℚ) (ramKnown : Bool)
  deriving DecidableEq, Repr

namespace Sizing

variable (sizing : Sizing)

/-- Whether the GPU holds a number of the layers. -/
def layersFit (onGpu context : Nat) (kv : KvCacheType) (available : ℚ) : Bool :=
  let share : ℚ := onGpu / sizing.layers
  shownSum (sizing.weights * share) (sizing.kvBytes context kv * share)
    (sizing.computeBytes context kv) runtimeReserveBytes ≤ available

/-- The part of a quantization that lands in VRAM. -/
def quantWeights (params bitsPerWeight : ℚ) : ℚ :=
  params * bitsPerWeight / 8 * (sizing.weights / sizing.data)

end Sizing

def contextAdvice (header : GgufHeader) (maxContext : Option Nat) : Option Advice :=
  maxContext.map fun max => .smallerContext max header.slidingWindow

/-- The narrower caches that lower the need. -/
def cacheAdvice (header : GgufHeader) (sizing : Sizing) (request : FitRequest) (available : ℚ) :
    List Advice :=
  let kv := request.kvCacheType
  let context := request.contextSize
  let now := sizing.shownTotal context kv
  let narrower := KvCacheType.all.filter fun other =>
    other.bytesPerElement < kv.bytesPerElement && decide (sizing.shownTotal context other < now)
  let advice := narrower.map fun smaller =>
    let fits := sizing.fits context smaller available
    .narrowerCache smaller (⌊sizing.shownTotal context smaller⌋₊ / mib) fits
      (if fits then sizing.maxContext smaller available (trainedContext header) else none)
  if advice.isEmpty then [] else advice ++ [Advice.flashAttention]

def currentBitsPerWeight (header : GgufHeader) (sizing : Sizing) : ℚ :=
  if 0 < header.paramCount then (sizing.data : ℚ) * 8 / header.paramCount else 0

/-- The quantizations that are meaningfully smaller, the largest first, with
their weights. -/
def quantCandidates (header : GgufHeader) (sizing : Sizing) : List (String × ℚ) :=
  (quantBitsPerWeight.reverse.filter fun row =>
      decide (row.2 < currentBitsPerWeight header sizing * quantSmallerFactor)).map fun row =>
    (row.1, sizing.quantWeights header.paramCount row.2)

def quantAdvice (header : GgufHeader) (sizing : Sizing) (request : FitRequest) (available : ℚ) :
    Option Advice :=
  let current := currentBitsPerWeight header sizing
  if minPlausibleBitsPerWeight ≤ current ∧ current ≤ maxPlausibleBitsPerWeight then
    let candidates := quantCandidates header sizing
    let fitting := candidates.find? fun candidate =>
      sizing.shownTotalWith candidate.2 request.contextSize request.kvCacheType ≤ available
    match fitting, candidates.getLast? with
    | some (label, weights), _ => some (.smallerQuant label weights)
    | none, some (label, _) => some (.noSmallerQuant label)
    | none, none => none
  else none

/-- The weights and the cache of one layer, spread evenly. -/
def perLayerBytes (sizing : Sizing) (request : FitRequest) : ℚ :=
  (sizing.weights + sizing.kvBytes request.contextSize request.kvCacheType) / sizing.layers

/-- The layers an estimate has room for. -/
def layersEstimate (sizing : Sizing) (request : FitRequest) (available : ℚ) : Nat :=
  let perLayer := perLayerBytes sizing request
  let compute := sizing.computeBytes request.contextSize request.kvCacheType
  let room := available - compute - runtimeReserveBytes
  if 0 < room then
    min (if perLayer = 0 then sizing.layers else ⌊room / perLayer⌋₊) sizing.layers
  else 0

/-- The layers the search ends at, down from the estimate and up again. -/
def layersOnGpu (sizing : Sizing) (request : FitRequest) (available : ℚ) : Nat :=
  let gpuFits := fun n =>
    sizing.layersFit n request.contextSize request.kvCacheType available
  raise gpuFits sizing.layers (lower gpuFits (layersEstimate sizing request available))

/-- Keep as many layers as fit on the GPU and run the rest from system memory. -/
def offloadSuggestion (sizing : Sizing) (request : FitRequest) (available : ℚ)
    (systemRamGib : Option ℚ) : Option Advice :=
  let onGpu := layersOnGpu sizing request available
  if onGpu = 0 ∨ sizing.layers ≤ onGpu then none
  else
    let hostBytes := perLayerBytes sizing request * (sizing.layers - onGpu : Nat)
    if systemRamGib.any fun ram => decide (ram * gibBytes < hostBytes) then none
    else some (.cpuOffload onGpu hostBytes systemRamGib.isSome)

def adviceFor (header : GgufHeader) (sizing : Sizing) (request : FitRequest) (available : ℚ)
    (maxContext : Option Nat) (systemRamGib : Option ℚ) : List Advice :=
  (contextAdvice header maxContext).toList ++ cacheAdvice header sizing request available ++
    (quantAdvice header sizing request available).toList ++
    (offloadSuggestion sizing request available systemRamGib).toList

def Advice.kind : Advice -> SuggestionKind
  | .smallerContext _ _ => .smallerContext
  | .narrowerCache _ _ _ _ => .kvCacheType
  | .flashAttention => .kvCacheType
  | .smallerQuant _ _ => .smallerQuant
  | .noSmallerQuant _ => .smallerQuant
  | .cpuOffload _ _ _ => .cpuOffload

def Advice.text (sizing : Sizing) (request : FitRequest) : Advice -> String
  | .smallerContext max slidingWindow =>
      "use a context of " ++ tokens max ++ " or less (llama-server --ctx-size " ++
        toString max ++ "); that is the largest that fits with the KV cache at " ++
        request.kvCacheType.name ++
        if slidingWindow then
          " (a conservative figure for this model: its sliding-window layers are sized at " ++
            "the full context)"
        else ""
  | .narrowerCache smaller totalMib true largest =>
      "use a " ++ smaller.name ++ " KV cache (llama-server --cache-type-k " ++ smaller.name ++
        " --cache-type-v " ++ smaller.name ++ "): about " ++ toString totalMib ++ " MiB at " ++
        tokens request.contextSize ++ ", which fits" ++
        match largest with
        | some max => "; the largest context then is " ++ tokens max
        | none => ""
  | .narrowerCache smaller totalMib false _ =>
      "a " ++ smaller.name ++ " KV cache would cut the need to about " ++ toString totalMib ++
        " MiB, which is still more than this GPU offers"
  | .flashAttention => "a quantized V cache needs flash attention enabled in llama.cpp"
  | .smallerQuant label weights =>
      "a smaller quantization of the same model, about " ++ label ++ " size (roughly " ++
        need weights ++ " of weights against " ++ need sizing.weights ++ " now), would fit at " ++
        tokens request.contextSize ++ " if the repository publishes one"
  | .noSmallerQuant label =>
      "no smaller quantization in the usual range, down to about " ++ label ++ ", fits at " ++
        tokens request.contextSize ++ " with the KV cache at " ++ request.kvCacheType.name
  | .cpuOffload onGpu hostBytes ramKnown =>
      "keep about " ++ toString onGpu ++ " of " ++ toString sizing.layers ++
        " layers on the GPU (llama-server --n-gpu-layers " ++ toString onGpu ++ "); the other " ++
        need hostBytes ++ " of weights and cache stay in system RAM" ++
        (if ramKnown then "" else " (system RAM could not be read, so that is unchecked)") ++
        ", and generation is slower"

def Advice.render (sizing : Sizing) (request : FitRequest) (advice : Advice) : FitSuggestion :=
  { kind := advice.kind, text := advice.text sizing request }

def suggestions (header : GgufHeader) (sizing : Sizing) (request : FitRequest) (available : ℚ)
    (maxContext : Option Nat) (systemRamGib : Option ℚ) : List FitSuggestion :=
  (adviceFor header sizing request available maxContext systemRamGib).map
    (Advice.render sizing request)

/-! ## The estimate -/

/-- Whether a width that sizes the compute buffer is missing; zero is none. -/
def widthsMissing (header : GgufHeader) : Bool :=
  let known := fun width : Option Nat => width.any fun width => 0 < width
  !known header.feedForwardLength || !known header.embeddingLength

def notesOn (header : GgufHeader) (request : FitRequest) : List String :=
  (if header.slidingWindow then
    ["this model uses sliding-window attention; its KV cache is sized as if every layer " ++
      "attended over the full context, so the real figure can be lower and the largest " ++
      "context below is conservative"] else []) ++
  (if header.ssm then
    ["this model has state-space layers: the recurrent state they keep is not counted, so " ++
      "the real figure can be higher; its KV cache is sized for every layer unless the " ++
      "header lists head counts per layer, so that part can be lower"] else []) ++
  (if header.moe then
    ["this is a mixture-of-experts model: the weights are the file's exact size, but the " ++
      "compute buffer is sized from one feed-forward width and was not measured for " ++
      "experts, so the real figure can be higher"] else []) ++
  (if widthsMissing header then
    ["the header does not carry both the feed-forward and the embedding width, so the " ++
      "compute buffer's fixed part is understated and the real figure can be higher"] else []) ++
  match trainedContext header with
  | some trained =>
      if trained < request.contextSize then
        [tokens request.contextSize ++ " is beyond the " ++ tokens trained ++
          " the model was trained for"]
      else []
  | none => []

/-- Why a layout gets figures and no verdict. -/
def unmeasured (header : GgufHeader) : String :=
  match header.ssm, header.moe with
  | true, true =>
      "it has state-space layers, whose recurrent state is not counted, and " ++
        "mixture-of-experts layers, whose compute buffer was not measured"
  | true, false => "it has state-space layers, whose recurrent state is not counted"
  | false, true => "it is a mixture-of-experts model, whose compute buffer was not measured"
  | false, false =>
      "the header does not carry both the feed-forward and the embedding width, which size " ++
        "the compute buffer's fixed part"

/-- Why there is nothing to compare with. -/
def AcceleratorMemory.unmeasured : AcceleratorMemory -> CannotEstimateReason × String
  | .none =>
      (.noGpu, "no GPU is visible to ROCm, so there is no memory to compare against")
  | .unifiedMemoryUnreadable =>
      (.unifiedMemoryUnreadable,
        "this host has no dedicated VRAM and the CLI cannot yet read the memory pool its " ++
          "engine allocates from, so there is nothing to compare the figures against")
  | _ =>
      (.acceleratorMemoryUnknown,
        "the GPU memory on this host could not be read, so there is nothing to compare the " ++
          "figures against")

def estimateFit (header : GgufHeader) (fileSize : Nat) (request : FitRequest)
    (memory : AcceleratorMemory) (systemRamGib : Option ℚ) : ContextEstimate :=
  let bare : ContextEstimate :=
    { outcome := .cannotEstimate
      cannotEstimateReason := none
      detail := none
      layers := header.blockCount
      contextSize := request.contextSize
      contextSizeDefaulted := request.contextSizeDefaulted
      kvCacheType := request.kvCacheType
      weightsBytes := none
      kvCacheBytes := none
      computeBufferBytes := none
      runtimeReserveBytes := none
      totalBytes := none
      kvCacheBytesPerToken := none
      availableGib := memory.measuredGib
      maxContext := none
      trainingContext := trainedContext header
      conservativeCeiling := header.slidingWindow
      suggestions := []
      notes := [] }
  match Sizing.ofHeader header fileSize with
  | .error (reason, detail) =>
      { bare with cannotEstimateReason := some reason, detail := some detail }
  | .ok sizing =>
      let kv := request.kvCacheType
      let context := request.contextSize
      let total := sizing.total context kv
      if maxPlausibleBytes ≤ total then
        { bare with
          cannotEstimateReason := some .missingMetadata
          detail := some ("at " ++ tokens context ++
            " the figures this header implies come to more than an exabyte, which no model or " ++
            "host has: the header's head counts or widths look corrupt, or the context size is " ++
            "not a real one (the most an estimate is made for is " ++ toString maxContextSize ++
            ")") }
      else
        let figured : ContextEstimate :=
          { bare with
            weightsBytes := some sizing.weights
            kvCacheBytes := some (roundBytes (sizing.kvBytes context kv))
            computeBufferBytes := some (roundBytes (sizing.computeBytes context kv))
            runtimeReserveBytes := some Gguf.runtimeReserveBytes
            totalBytes := some (roundBytes total)
            kvCacheBytesPerToken := some (sizing.kvElementsPerToken * kv.bytesPerElement)
            notes := notesOn header request }
        match memory.measuredGib with
        | none =>
            { figured with
              cannotEstimateReason := some memory.unmeasured.1
              detail := some memory.unmeasured.2 }
        | some availableGib =>
            if header.ssm || header.moe || widthsMissing header then
              { figured with
                cannotEstimateReason :=
                  some (if header.ssm || header.moe then .unmeasuredLayout else .missingMetadata)
                detail := some ("no fits / does-not-fit verdict for this model: " ++
                  unmeasured header ++
                  ", so the total above can be too low; compare it with this GPU's " ++
                  toString (wholeMibOffered availableGib) ++
                  " MiB yourself and leave headroom") }
            else
              let available := availableGib * gibBytes
              let maxContext := sizing.maxContext kv available (trainedContext header)
              if sizing.fits context kv available then
                { figured with outcome := .fits, maxContext := maxContext }
              else
                { figured with
                  outcome := .doesNotFit
                  maxContext := maxContext
                  suggestions :=
                    suggestions header sizing request available maxContext systemRamGib }

end Gguf
end RocmCli
