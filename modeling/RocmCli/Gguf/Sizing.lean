import RocmCli.Gguf.Reader

namespace RocmCli
namespace Gguf

/-!
# What a model needs at a context

The weights, the cache, the compute buffer and a reserve, in bytes.  Every
figure but the cache's is a whole number; a quantized cache is counted in
sixteenths of a byte.  The figures are exact: nothing is rounded before the
report shows it.
-/

/-! ## The cache -/

inductive KvCacheType where
  | f16
  | q8_0
  | q4_0
  deriving DecidableEq, Repr

def KvCacheType.bytesPerElement : KvCacheType -> ℚ
  | .f16 => 2
  | .q8_0 => 34 / 32
  | .q4_0 => 18 / 32

def runtimeReserveBytes : Nat := 1280 * 1024 * 1024

def computeBatchTokens : Nat := 512

def maskBytes : Nat := 2

def mib : Nat := 1024 * 1024

def contextStep : Nat := 256

/-! ## Sizings -/

/-- The pieces of the total that do not depend on the context, and the elements
cached for each token. -/
structure Sizing where
  data : Nat
  weights : Nat
  computeBase : Nat
  kvElementsPerToken : Nat
  widestLayerKvElements : Nat
  layers : Nat
  deriving DecidableEq, Repr

/-- A byte count in whole MiB, rounded up. -/
def mibUp (bytes : Nat) : Nat := (bytes + mib - 1) / mib

/-- The nearest whole number, halves up. -/
def roundBytes (bytes : ℚ) : Nat := ⌊bytes + 1 / 2⌋₊

/-- Four figures as the report shows them, each a whole number of bytes and then
of MiB, and added. -/
def shownSum (weights cache compute reserve : ℚ) : ℚ :=
  ((mibUp (roundBytes weights) + mibUp (roundBytes cache) + mibUp (roundBytes compute) +
    mibUp (roundBytes reserve)) * mib : Nat)

namespace Sizing

variable (sizing : Sizing)

def kvBytes (context : Nat) (kv : KvCacheType) : ℚ :=
  sizing.kvElementsPerToken * context * kv.bytesPerElement

/-- The attention mask, and for a quantized cache its widest layer again. -/
def computeBytesPerToken (kv : KvCacheType) : Nat :=
  let mask := computeBatchTokens * maskBytes
  if kv = .f16 then mask else sizing.widestLayerKvElements * 2 + mask

def computeBytes (context : Nat) (kv : KvCacheType) : ℚ :=
  sizing.computeBytesPerToken kv * context + sizing.computeBase

def fixed : ℚ := sizing.weights + sizing.computeBase + runtimeReserveBytes

def bytesPerToken (kv : KvCacheType) : ℚ :=
  sizing.kvElementsPerToken * kv.bytesPerElement + sizing.computeBytesPerToken kv

def total (context : Nat) (kv : KvCacheType) : ℚ :=
  sizing.bytesPerToken kv * context + sizing.fixed

def shownTotalWith (weights : ℚ) (context : Nat) (kv : KvCacheType) : ℚ :=
  shownSum weights (sizing.kvBytes context kv) (sizing.computeBytes context kv)
    runtimeReserveBytes

def shownTotal (context : Nat) (kv : KvCacheType) : ℚ :=
  sizing.shownTotalWith sizing.weights context kv

/-- What every verdict is decided on. -/
def fits (context : Nat) (kv : KvCacheType) (available : ℚ) : Bool :=
  sizing.shownTotal context kv ≤ available

end Sizing

/-! ## The sizing of a header -/

inductive CannotEstimateReason where
  | splitFile
  | latentAttention
  | noAttentionLayers
  | unmeasuredLayout
  | missingMetadata
  | noGpu
  | acceleratorMemoryUnknown
  | unifiedMemoryUnreadable
  deriving DecidableEq, Repr

/-- The value for a layer; a list may be too short. -/
def PerLayer.at : PerLayer -> Nat -> Option Nat
  | uniform value, _ => some value
  | each values, layer => values[layer]?

abbrev Estimate (R : Type) := Except (CannotEstimateReason × String) R

def missing (what : String) : CannotEstimateReason × String :=
  (.missingMetadata, s!"the GGUF header does not carry {what}")

def orMissing {R : Type} (what : String) : Option R -> Estimate R
  | some value => .ok value
  | none => .error (missing what)

/-- A width the header gives, or the embedding's share of a head. -/
def headWidth (header : GgufHeader) (heads : Option Nat) : Option Nat -> Estimate Nat
  | some width => .ok width
  | none =>
    match header.embeddingLength, heads with
    | some embedding, some heads =>
        if 0 < heads then .ok (embedding / heads) else .error (missing "the attention head width")
    | _, _ => .error (missing "the attention head width")

/-- One layer's cached elements, added to the sum and the widest. -/
def addLayer (header : GgufHeader) (sums : Nat × Nat) (layer : Nat) : Estimate (Nat × Nat) := do
  let heads := header.headCount.bind (·.at layer)
  let kvHeads <- orMissing "a KV head count for every layer"
    (match header.headCountKv with
      | some perLayer => perLayer.at layer
      | none => heads)
  if kvHeads = 0 then return sums
  else
    let key <- headWidth header heads header.keyLength
    let value <- headWidth header heads header.valueLength
    let layerElements := saturatingMul kvHeads (saturatingAdd key value)
    return (saturatingAdd sums.1 layerElements, max sums.2 layerElements)

/-- The input embedding's bytes, where they are kept off the GPU. -/
def embeddingBytes (header : GgufHeader) (data : Nat) : Nat :=
  match header.tokenEmbd.filter fun _ => header.hasOutput with
  | some span => min (span.nextOffset.getD data) data - span.offset
  | none => 0

def computeBaseOf (header : GgufHeader) : Nat :=
  computeBatchTokens *
    (3 * header.feedForwardLength.getD 0 + 3 * header.embeddingLength.getD 0) * 4

def Sizing.ofHeader (header : GgufHeader) (fileSize : Nat) : Estimate Sizing := do
  if header.splitCount.any (1 < ·) then
    throw (.splitFile,
      "this file is one shard of a split model; its weights and metadata are spread over " ++
        "several files, so one file's size is not the model's")
  if header.latentAttention then
    throw (.latentAttention,
      "this model uses latent attention, whose KV cache is not laid out as heads times " ++
        "head width, so the estimate's formula does not describe it")
  let layers <- orMissing "a layer count" (header.blockCount.filter (0 < ·))
  if maxBlockCount < layers then
    throw (.missingMetadata, s!"the header's layer count ({layers}) is not a plausible model")
  let data := fileSize - header.dataOffset
  if data = 0 then
    throw (.missingMetadata,
      "the file is no larger than its header, so there are no weights to size")
  let (kvElements, widestLayer) <- (List.range layers).foldlM (addLayer header) (0, 0)
  if kvElements = 0 then
    throw (.noAttentionLayers,
      "no layer of this model keeps a KV cache, so a context-size estimate has nothing to " ++
        "size")
  return {
    data := data
    weights := data - embeddingBytes header data
    computeBase := computeBaseOf header
    kvElementsPerToken := kvElements
    widestLayerKvElements := widestLayer
    layers := layers }

/-- A header that declares no tokens declares nothing. -/
def trainedContext (header : GgufHeader) : Option Nat := header.contextLength.filter (0 < ·)

/-! ## Facts -/

theorem bytesPerElement_nonneg (kv : KvCacheType) : 0 ≤ kv.bytesPerElement := by
  cases kv <;> norm_num [KvCacheType.bytesPerElement]

variable {smaller larger : Nat}

theorem mibUp_mono (le : smaller ≤ larger) : mibUp smaller ≤ mibUp larger :=
  Nat.div_le_div_right (by omega)

theorem le_mibUp (bytes : Nat) : bytes ≤ mibUp bytes * mib := by
  unfold mibUp mib
  omega

theorem roundBytes_mono {smaller larger : ℚ} (le : smaller ≤ larger) :
    roundBytes smaller ≤ roundBytes larger :=
  Nat.floor_mono (by linarith)

theorem roundBytes_natCast (bytes : Nat) : roundBytes bytes = bytes := by
  refine (Nat.floor_eq_iff (by positivity)).mpr ⟨?_, ?_⟩
  · linarith
  · linarith

theorem le_roundBytes (bytes : ℚ) : bytes ≤ roundBytes bytes + 1 / 2 := by
  have below := Nat.lt_floor_add_one (bytes + 1 / 2)
  unfold roundBytes
  linarith

namespace Sizing

variable (sizing : Sizing) (kv : KvCacheType)

theorem kvBytes_mono (le : smaller ≤ larger) :
    sizing.kvBytes smaller kv ≤ sizing.kvBytes larger kv := by
  have leRat : (smaller : ℚ) ≤ larger := by exact_mod_cast le
  have nonneg := bytesPerElement_nonneg kv
  unfold kvBytes
  gcongr

theorem computeBytes_mono (le : smaller ≤ larger) :
    sizing.computeBytes smaller kv ≤ sizing.computeBytes larger kv := by
  have leRat : (smaller : ℚ) ≤ larger := by exact_mod_cast le
  unfold computeBytes
  gcongr

theorem shownTotal_eq (context : Nat) :
    sizing.shownTotal context kv =
      ((mibUp sizing.weights + mibUp (roundBytes (sizing.kvBytes context kv)) +
        mibUp (roundBytes (sizing.computeBytes context kv)) + mibUp runtimeReserveBytes) * mib :
          Nat) := by
  unfold shownTotal shownTotalWith shownSum
  rw [roundBytes_natCast, roundBytes_natCast]

theorem shownTotal_mono (le : smaller ≤ larger) :
    sizing.shownTotal smaller kv ≤ sizing.shownTotal larger kv := by
  rw [shownTotal_eq, shownTotal_eq]
  have cache := mibUp_mono (roundBytes_mono (sizing.kvBytes_mono kv le))
  have compute := mibUp_mono (roundBytes_mono (sizing.computeBytes_mono kv le))
  have both := Nat.mul_le_mul_right mib (Nat.add_le_add_right (Nat.add_le_add
    (Nat.add_le_add_left cache (mibUp sizing.weights)) compute) (mibUp runtimeReserveBytes))
  exact_mod_cast both

/-- A larger context does not fit where a smaller one does not. -/
theorem fits_antitone (le : smaller ≤ larger) {available : ℚ}
    (fits : sizing.fits larger kv available = true) : sizing.fits smaller kv available = true :=
  decide_eq_true ((sizing.shownTotal_mono kv le).trans (of_decide_eq_true fits))

theorem total_eq (context : Nat) :
    sizing.total context kv = sizing.weights + sizing.kvBytes context kv +
      sizing.computeBytes context kv + runtimeReserveBytes := by
  unfold total bytesPerToken fixed kvBytes computeBytes
  ring

theorem computeBytes_natCast (context : Nat) :
    sizing.computeBytes context kv =
      (sizing.computeBytesPerToken kv * context + sizing.computeBase : Nat) := by
  unfold computeBytes
  push_cast
  rfl

/-- What is shown falls short of the exact total by less than the half byte that
the cache may be rounded by. -/
theorem total_le_shownTotal (context : Nat) :
    sizing.total context kv ≤ sizing.shownTotal context kv + 1 / 2 := by
  have weights : (sizing.weights : ℚ) ≤ mibUp sizing.weights * mib := by
    exact_mod_cast le_mibUp sizing.weights
  have cache : sizing.kvBytes context kv ≤
      mibUp (roundBytes (sizing.kvBytes context kv)) * mib + 1 / 2 := by
    have up : (roundBytes (sizing.kvBytes context kv) : ℚ) ≤
        mibUp (roundBytes (sizing.kvBytes context kv)) * mib := by
      exact_mod_cast le_mibUp _
    linarith [le_roundBytes (sizing.kvBytes context kv)]
  have compute : sizing.computeBytes context kv ≤
      mibUp (roundBytes (sizing.computeBytes context kv)) * mib := by
    rw [computeBytes_natCast, roundBytes_natCast]
    exact_mod_cast le_mibUp _
  have reserve : (runtimeReserveBytes : ℚ) ≤ mibUp runtimeReserveBytes * mib := by
    exact_mod_cast le_mibUp runtimeReserveBytes
  rw [total_eq, shownTotal_eq]
  push_cast
  linarith

theorem mask_le_computeBytesPerToken : 1024 ≤ sizing.computeBytesPerToken kv := by
  unfold computeBytesPerToken computeBatchTokens maskBytes
  dsimp only
  split <;> omega

theorem mask_le_bytesPerToken : 1024 ≤ sizing.bytesPerToken kv := by
  have mask : (1024 : ℚ) ≤ sizing.computeBytesPerToken kv := by
    exact_mod_cast sizing.mask_le_computeBytesPerToken kv
  have nonneg := bytesPerElement_nonneg kv
  have cache : 0 ≤ (sizing.kvElementsPerToken : ℚ) * kv.bytesPerElement := by positivity
  unfold bytesPerToken
  linarith

/-- A context that fits has fewer tokens than there are bytes. -/
theorem le_floor_of_fits {context : Nat} {available : ℚ}
    (fits : sizing.fits context kv available = true) : context ≤ ⌊available⌋₊ := by
  have fixedParts : (0 : ℚ) ≤ sizing.weights + sizing.computeBase := by positivity
  have tokens : (0 : ℚ) ≤ context := by positivity
  have perToken := sizing.mask_le_bytesPerToken kv
  have grown : (context : ℚ) ≤ sizing.bytesPerToken kv * context := by nlinarith
  have positive : 1 ≤ runtimeReserveBytes := by
    unfold runtimeReserveBytes
    omega
  have reserve : (1 : ℚ) ≤ runtimeReserveBytes := Nat.one_le_cast.mpr positive
  have shown : sizing.shownTotal context kv ≤ available := of_decide_eq_true fits
  have below := sizing.total_le_shownTotal kv context
  unfold total fixed at below
  apply Nat.le_floor
  generalize (runtimeReserveBytes : ℚ) = held at below reserve
  linarith

end Sizing

end Gguf
end RocmCli
