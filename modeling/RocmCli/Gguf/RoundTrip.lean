import RocmCli.Gguf.Meaning

namespace RocmCli
namespace Gguf

open Scan Text

/-!
# Parsing an encoded header

A header content that keeps to the bounds is parsed from its encoding, whatever
data follows, into the header that its entries and records describe, and the
parser stops at the end of the encoding.  The bounds are those of the parser,
among them one on the number of entries and of records.
-/

/-! ## Tensor records -/

/-- The number of elements of a tensor. -/
def TensorRecord.size (tensor : TensorRecord) : Nat := (tensor.dims.map BitVec.toNat).prod

/-- A product that was cut off stays cut off, unless it is multiplied by zero. -/
theorem saturatingMul_min (product factor : Nat) :
    saturatingMul (min product maxU64) factor = min (product * factor) maxU64 := by
  rw [saturatingMul]
  by_cases small : product ≤ maxU64
  · rw [Nat.min_eq_left small]
  · rw [Nat.min_eq_right (Nat.le_of_not_le small)]
    cases factor with
    | zero => simp
    | succ factor =>
        have large : maxU64 ≤ product * (factor + 1) :=
          Nat.le_trans (Nat.le_of_not_le small) (Nat.le_mul_of_pos_right _ (Nat.succ_pos _))
        rw [Nat.min_eq_right large, Nat.min_eq_right (Nat.le_mul_of_pos_right _ (Nat.succ_pos _))]

theorem foldl_saturatingMul (dims : List (BitVec 64)) (product : Nat) :
    dims.foldl (fun elements dim => saturatingMul elements dim.toNat) (min product maxU64) =
      min (product * (dims.map BitVec.toNat).prod) maxU64 := by
  induction dims generalizing product with
  | nil => simp
  | cons dim rest ih =>
      rw [List.foldl_cons, saturatingMul_min, ih, List.map_cons, List.prod_cons,
        Nat.mul_assoc]

theorem elements_eq (tensor : TensorRecord) : tensor.elements = min tensor.size maxU64 := by
  have fold := foldl_saturatingMul tensor.dims 1
  rw [Nat.one_mul] at fold
  exact fold

def paramCount (tensors : List TensorRecord) : Nat := min (tensors.map TensorRecord.size).sum maxU64

/-- The offset of the last record of this name. -/
def offsetOf (name : String) (tensors : List TensorRecord) : Option Nat :=
  lastOf (fun tensor =>
    if fromUtf8Lossy tensor.name = name then some tensor.offset.toNat else none) tensors

/-- The records as the reader adds them up. -/
theorem foldl_addRecord (tensors : List TensorRecord) :
    tensors.foldl Tensors.addRecord Tensors.initial =
      { paramCount := paramCount tensors
        offsets := tensors.map fun tensor => tensor.offset.toNat
        tokenEmbdOffset := offsetOf tokenEmbdName tensors
        hasOutput := tensors.any fun tensor => fromUtf8Lossy tensor.name == outputName } := by
  induction tensors using List.reverseRecOn with
  | nil => rfl
  | append_singleton tensors tensor ih =>
      have sum : saturatingAdd (paramCount tensors) tensor.elements =
          paramCount (tensors ++ [tensor]) := by
        rw [saturatingAdd, paramCount, paramCount, elements_eq, List.map_append, List.sum_append,
          List.map_singleton, List.sum_singleton]
        omega
      have offset : (if fromUtf8Lossy tensor.name = tokenEmbdName then some tensor.offset.toNat
          else offsetOf tokenEmbdName tensors) = offsetOf tokenEmbdName (tensors ++ [tensor]) := by
        rw [offsetOf, offsetOf, lastOf_snoc]
        split <;> rfl
      rw [List.foldl_append, ih]
      change Tensors.mk (saturatingAdd _ _) (_ ++ [_]) (if _ then _ else _) (_ || _) = _
      rw [sum, offset, List.map_append, List.any_append]
      simp

/-! ## The header that is described -/

/-- The least multiple of the alignment that is not below the value. -/
def roundUp (value alignment : Nat) : Nat := (value + alignment - 1) / alignment * alignment

theorem roundUp_isLeast {value alignment : Nat} (aligned : alignment ≠ 0) :
    IsLeast {offset | alignment ∣ offset ∧ value ≤ offset} (roundUp value alignment) := by
  have positive : 0 < alignment := Nat.pos_of_ne_zero aligned
  refine ⟨⟨Nat.dvd_mul_left _ _, ?_⟩, ?_⟩
  · have whole := Nat.div_add_mod (value + alignment - 1) alignment
    have rest := Nat.mod_lt (value + alignment - 1) positive
    rw [roundUp, Nat.mul_comm]
    omega
  · rintro offset ⟨⟨times, rfl⟩, above⟩
    rw [roundUp, Nat.mul_comm]
    apply Nat.mul_le_mul_left
    apply Nat.le_of_lt_succ
    apply (Nat.div_lt_iff_lt_mul positive).mpr
    rw [Nat.succ_mul, Nat.mul_comm]
    omega

theorem alignUp_eq {value alignment : Nat} (small : value ≤ maxHeaderBytes) (some : value ≠ 0)
    (fits : alignment ≤ maxU64) : alignUp value alignment = roundUp value alignment := by
  apply Nat.min_eq_left
  change roundUp value alignment ≤ maxU64
  by_cases large : value ≤ alignment
  · have once : (value + alignment - 1) / alignment = 1 := by
      apply Nat.div_eq_of_lt_le <;> omega
    rw [roundUp, once, Nat.one_mul]
    exact fits
  · have below := Nat.div_mul_le_self (value + alignment - 1) alignment
    have limit : maxHeaderBytes + maxHeaderBytes ≤ maxU64 := by decide
    rw [roundUp]
    omega

namespace HeaderContent

variable {levels : Nat} (content : HeaderContent levels)

/-- What the entries say under a key of the architecture. -/
def shape (suffix : String) : Option PerLayer :=
  (architecture content.entries).bind fun name => figureOf (name ++ "." ++ suffix) content.entries

def widest (suffix : String) : Option Nat := (content.shape suffix).bind PerLayer.widest

/-- The header that the content describes. -/
def header : GgufHeader where
  version := content.version
  architecture := architecture content.entries
  tensorCount := content.tensors.length
  paramCount := paramCount content.tensors
  dataOffset := roundUp content.encode.length (alignment content.entries)
  blockCount := content.widest "block_count"
  embeddingLength := content.widest "embedding_length"
  headCount := content.shape "attention.head_count"
  headCountKv := content.shape "attention.head_count_kv"
  keyLength := content.widest "attention.key_length"
  valueLength := content.widest "attention.value_length"
  feedForwardLength := content.widest "feed_forward_length"
  contextLength := content.widest "context_length"
  splitCount := splitCount content.entries
  slidingWindow := exceeds ".attention.sliding_window" 0 content.entries
  ssm := content.entries.any fun entry => contains entry.text ".ssm."
  latentAttention := content.entries.any fun entry => endsWith entry.text ".attention.kv_lora_rank"
  moe := exceeds ".expert_count" 1 content.entries
  tokenEmbd := (offsetOf tokenEmbdName content.tensors).map fun offset =>
    ⟨offset, ((content.tensors.map fun tensor => tensor.offset.toNat).filter (offset < ·)).min?⟩
  hasOutput := content.tensors.any fun tensor => fromUtf8Lossy tensor.name == outputName

/-- The bounds on a header, apart from those on the number of entries and of
records. -/
structure Bounded : Prop where
  version : content.version = 2 ∨ content.version = 3
  keys : forall entry, entry ∈ content.entries -> entry.key.length ≤ maxKeyLen
  names : forall tensor, tensor ∈ content.tensors -> tensor.name.length ≤ maxKeyLen
  dims : forall tensor, tensor ∈ content.tensors -> tensor.dims.length ≤ maxTensorDims
  shapeKeys : (shapeKeys content.entries).dedup.length ≤ maxKeptKeys
  alignment : alignment content.entries ≠ 0
  blocks : forall blocks, content.widest "block_count" = some blocks -> blocks ≤ maxBlockCount
  size : content.encode.length ≤ maxHeaderBytes

/-- The numbers of entries and of records that the parser goes along with. -/
structure FewEntries : Prop where
  entries : content.entries.length ≤ maxEntries
  tensors : content.tensors.length ≤ maxEntries

end HeaderContent

/-- The endings of the keys that the header has a field for. -/
def shapeSuffixes : List String :=
  ["block_count", "embedding_length", "attention.head_count", "attention.head_count_kv",
    "attention.key_length", "attention.value_length", "feed_forward_length", "context_length"]

theorem endsWith_append (text suffix : String) : endsWith (text ++ suffix) suffix = true := by
  rw [endsWith, String.toList_append, List.isSuffixOf_iff_suffix]
  exact List.suffix_append _ _

variable {suffix : String}

theorem isShapeKey_shape (isSuffix : suffix ∈ shapeSuffixes) (name : String) :
    Metadata.isShapeKey (name ++ "." ++ suffix) = true := by
  have known : forall suffix, suffix ∈ shapeSuffixes -> "." ++ suffix ∈ keptKeySuffixes ∧
      endsWith ".attention.sliding_window" ("." ++ suffix) = false ∧
      endsWith ("." ++ suffix) ".attention.sliding_window" = false := by
    decide
  rcases known suffix isSuffix with ⟨isKept, notEnding, notEnded⟩
  have ends := endsWith_append name ("." ++ suffix)
  rw [Metadata.isShapeKey, isKeptKey, String.append_assoc, Bool.and_eq_true, List.any_eq_true,
    Bool.not_eq_true', ← Bool.not_eq_true]
  refine ⟨⟨_, isKept, ends⟩, fun endsOtherwise => ?_⟩
  -- Of two endings of one text, one ends in the other.
  rw [endsWith, List.isSuffixOf_iff_suffix] at ends endsOtherwise
  rcases List.suffix_or_suffix_of_suffix ends endsOtherwise with inner | inner
  · rw [← List.isSuffixOf_iff_suffix, ← endsWith, notEnding] at inner
    cases inner
  · rw [← List.isSuffixOf_iff_suffix, ← endsWith, notEnded] at inner
    cases inner

variable {metadata : Metadata}

theorem perLayer_shape {levels : Nat} {content : HeaderContent levels}
    (recorded : Recorded content.entries metadata) (isSuffix : suffix ∈ shapeSuffixes) :
    perLayer (metadata.shape suffix) = content.shape suffix := by
  rw [Metadata.shape, HeaderContent.shape, recorded.architecture]
  cases architecture content.entries with
  | none => rfl
  | some name => exact recorded.figures _ (isShapeKey_shape isSuffix name)

theorem uint_shape {levels : Nat} {content : HeaderContent levels}
    (recorded : Recorded content.entries metadata) (isSuffix : suffix ∈ shapeSuffixes) :
    uint (metadata.shape suffix) = content.widest suffix := by
  rw [uint_eq, perLayer_shape recorded isSuffix]
  rfl

theorem integer_le {type : FixedType} {bits : BitVec (8 * type.width)} {number : Nat}
    (isInteger : type.integer bits = some number) : number ≤ maxU64 := by
  have signed : bits.toInt.toNat ≤ bits.toNat := by
    rw [BitVec.toInt_eq_toNat_cond]
    split <;> omega
  have fits : number ≤ bits.toNat := by
    cases type with
    | uint8 | uint16 | uint32 | uint64 | bool => exact Nat.le_of_eq (Option.some.inj isInteger).symm
    | int8 | int16 | int32 | int64 =>
        rw [FixedType.integer, Option.ite_none_right_eq_some] at isInteger
        exact Option.some.inj isInteger.2 ▸ signed
    | float32 | float64 => cases isInteger
  have width : 2 ^ (8 * type.width) ≤ 2 ^ 64 := by
    apply Nat.pow_le_pow_right (by decide)
    cases type <;> decide
  have narrow := bits.isLt
  rw [maxU64]
  omega

theorem alignment_le {levels : Nat} (entries : List (Entry levels)) : alignment entries ≤ maxU64 := by
  rw [alignment]
  cases isGiven : lastOf (Entry.under "general.alignment" fun entry => entry.value.number) entries with
  | none => decide
  | some given =>
      rcases List.mem_filterMap.mp (List.mem_of_getLast? isGiven) with ⟨entry, -, isNumber⟩
      rw [Entry.under, Option.ite_none_right_eq_some] at isNumber
      cases isValue : entry.value with
      | scalar type bits =>
          rw [isValue] at isNumber
          exact integer_le isNumber.2
      | string text =>
          rw [isValue] at isNumber
          cases isNumber.2
      | array elements =>
          rw [isValue] at isNumber
          cases isNumber.2

theorem makeHeader_eq {levels : Nat} {content : HeaderContent levels}
    (recorded : Recorded content.entries metadata)
    (small : content.encode.length ≤ maxHeaderBytes) :
    makeHeader content.preamble metadata
      (content.tensors.foldl Tensors.addRecord Tensors.initial) content.encode.length =
        content.header := by
  have some : content.encode.length ≠ 0 := by
    rw [HeaderContent.encode, List.length_append]
    exact Nat.ne_of_gt (Nat.lt_of_lt_of_le (by decide : 0 < magic.length) (Nat.le_add_right _ _))
  have offset := alignUp_eq small some (alignment_le content.entries)
  have figure (suffix : String) (isSuffix : suffix ∈ shapeSuffixes) :
      perLayer (metadata.shape suffix) = content.shape suffix := perLayer_shape recorded isSuffix
  have widest (suffix : String) (isSuffix : suffix ∈ shapeSuffixes) :
      uint (metadata.shape suffix) = content.widest suffix := uint_shape recorded isSuffix
  rw [foldl_addRecord, makeHeader, recorded.architecture, recorded.alignment, recorded.splitCount,
    recorded.ssm, recorded.latentAttention, recorded.moe, recorded.slidingWindow, offset,
    widest "block_count" (by decide), widest "embedding_length" (by decide),
    figure "attention.head_count" (by decide), figure "attention.head_count_kv" (by decide),
    widest "attention.key_length" (by decide), widest "attention.value_length" (by decide),
    widest "feed_forward_length" (by decide), widest "context_length" (by decide)]
  rfl

theorem plausibleBlocks_iff :
    plausibleBlocks metadata = .ok () ↔
      forall blocks, uint (metadata.shape "block_count") = some blocks -> blocks ≤ maxBlockCount := by
  rw [plausibleBlocks]
  cases uint (metadata.shape "block_count") with
  | none => simp
  | some blocks =>
      by_cases tooMany : maxBlockCount < blocks
      · simp [Option.filter, tooMany]
      · simp [Option.filter, tooMany, Nat.le_of_not_lt tooMany]

theorem version_iff {version : Nat} :
    supportedVersions.contains version = true ↔ version = 2 ∨ version = 3 := by
  simp [supportedVersions]

/-- What is accepted keeps to the bounds, and all of it is. -/
theorem accepted_iff {levels : Nat} {content : HeaderContent levels} :
    (exists metadata, content.Accepted metadata) ↔ content.Bounded ∧ content.FewEntries := by
  constructor
  · rintro ⟨metadata, accepted⟩
    have reads := accepted.reads
    rcases absorbAll_recorded reads.absorbed with ⟨recorded, few⟩
    have blocks := plausibleBlocks_iff.mp accepted.blocks
    rw [uint_shape recorded (by decide)] at blocks
    exact ⟨⟨version_iff.mp reads.numbers.version, reads.keys, reads.names, reads.dims,
      recorded.length_kept ▸ few, recorded.alignment ▸ reads.aligned, blocks, accepted.size⟩,
      ⟨reads.numbers.metadata, reads.numbers.tensors⟩⟩
  · rintro ⟨bounded, few⟩
    rcases absorbAll_ok bounded.shapeKeys with ⟨metadata, absorbed⟩
    rcases absorbAll_recorded absorbed with ⟨recorded, -⟩
    have blocks := bounded.blocks
    rw [← uint_shape recorded (by decide)] at blocks
    exact ⟨metadata, ⟨⟨version_iff.mpr bounded.version, few.tensors, few.entries⟩, bounded.keys,
      absorbed, recorded.alignment ▸ bounded.alignment, bounded.names, bounded.dims⟩,
      plausibleBlocks_iff.mpr blocks, bounded.size⟩

/-! ## Parsing -/

/-- The parser accepts the bounded contents with few entries, and finds the
header they describe. -/
theorem parse_iff_bounded {data : Bytes} {header : GgufHeader} {after : Nat} :
    parseGgufHeader data 0 = .ok (header, after) ↔
      exists content : HeaderContent maxArrayDepth, content.Bounded ∧ content.FewEntries ∧
        Holds data 0 content.encode content.skippedEnd ∧
        after = content.encode.length ∧ header = content.header := by
  rw [parse_iff]
  constructor
  · rintro ⟨content, metadata, accepted, holds, rfl, isHeader⟩
    rcases accepted_iff.mp ⟨metadata, accepted⟩ with ⟨bounded, few⟩
    rcases absorbAll_recorded accepted.reads.absorbed with ⟨recorded, -⟩
    rw [makeHeader_eq recorded bounded.size] at isHeader
    exact ⟨content, bounded, few, holds, rfl, isHeader⟩
  · rintro ⟨content, bounded, few, holds, rfl, isHeader⟩
    rcases accepted_iff.mpr ⟨bounded, few⟩ with ⟨metadata, accepted⟩
    rcases absorbAll_recorded accepted.reads.absorbed with ⟨recorded, -⟩
    rw [← makeHeader_eq recorded bounded.size] at isHeader
    exact ⟨content, metadata, accepted, holds, rfl, isHeader⟩

/-- A bounded header is parsed from its encoding, whatever follows, and its
data begin at the first aligned place after it. -/
theorem parse_encoded {content : HeaderContent maxArrayDepth} (bounded : content.Bounded)
    (few : content.FewEntries) (rest : Bytes) :
    parseGgufHeader (content.encode ++ rest) 0 = .ok (content.header, content.encode.length) ∧
      IsLeast {offset | alignment content.entries ∣ offset ∧ content.encode.length ≤ offset}
        content.header.dataOffset := by
  refine ⟨parse_iff_bounded.mpr ⟨content, bounded, few, ⟨?_, ?_⟩, rfl, rfl⟩,
    roundUp_isLeast bounded.alignment⟩
  · rw [window_inside (by simp)]
    simp
  · intro _
    rw [List.length_append]
    omega

/-- A header with figures between values that are passed over. -/
def nestedHeader : HeaderContent maxArrayDepth where
  version := 3
  entries :=
    [⟨asciiBytes "t", .array (.arrays rfl [.arrays rfl [.strings [[0xff, 0x00]]],
        .scalars .int16 [3, 4, 5], .strings []])⟩,
      ⟨asciiBytes "general.architecture", .string (asciiBytes "m")⟩,
      ⟨asciiBytes "m.block_count", .scalar .uint8 9⟩,
      ⟨asciiBytes "m.block_count", .scalar .int32 (-1)⟩,
      ⟨asciiBytes "m.context_length", .array (.scalars .int8 [7, -1])⟩,
      ⟨asciiBytes "m.feed_forward_length", .array (.scalars .uint64 [7, 11])⟩,
      ⟨asciiBytes "general.alignment", .scalar .uint32 48⟩,
      ⟨asciiBytes "x", .array (.scalars .float64 [0])⟩]
  tensors := [⟨asciiBytes "w", [5, 2 ^ 63], 0, 0⟩]

theorem nestedHeader_bounded : nestedHeader.Bounded where
  version := Or.inr rfl
  keys := by decide
  names := by decide
  dims := by decide
  shapeKeys := by decide
  alignment := by decide
  blocks := by
    have isNine : nestedHeader.widest "block_count" = some 9 := by decide
    intro blocks isBlocks
    rw [isNine] at isBlocks
    cases isBlocks
    decide
  size := by decide +kernel

theorem parse_encoded_nested :
    parseGgufHeader (nestedHeader.encode ++ [1, 2, 3]) 0 =
        .ok (nestedHeader.header, nestedHeader.encode.length) ∧
      IsLeast {offset | alignment nestedHeader.entries ∣ offset ∧
        nestedHeader.encode.length ≤ offset} nestedHeader.header.dataOffset :=
  parse_encoded nestedHeader_bounded ⟨by decide, by decide⟩ [1, 2, 3]

/-! ## Too many entries -/

theorem preamble_length (preamble : Preamble) : preamble.encode.length = 24 := by
  simp only [Preamble.encode, List.length_append, length_leBytes]
  rfl

theorem preamble_injective {left right : Preamble} (same : left.encode = right.encode)
    (leftFits : left.metadataCount < 256 ^ 8) (rightFits : right.metadataCount < 256 ^ 8) :
    left.metadataCount = right.metadataCount := by
  have afterMagic := (List.append_inj same rfl).2
  have afterVersion := (List.append_inj afterMagic (by simp)).2
  have counts := (List.append_inj afterVersion (by simp)).2
  rw [← leNat_leBytes leftFits, counts, leNat_leBytes rightFits]

/-- The parser accepts nothing that starts with too large a number of entries. -/
theorem entries_le_of_parse {content : HeaderContent maxArrayDepth} {rest : Bytes}
    (fits : content.entries.length < 256 ^ 8) {header : GgufHeader} {after : Nat}
    (accepted : parseGgufHeader (content.encode ++ rest) 0 = .ok (header, after)) :
    content.entries.length ≤ maxEntries := by
  rcases parse_iff_bounded.mp accepted with ⟨found, bounded, few, holds, -, -⟩
  have same : found.preamble.encode = content.preamble.encode := by
    have inside : 24 ≤ found.encode.length := by
      rw [encode_parts, List.length_append, preamble_length]
      exact Nat.le_add_right _ _
    have split : found.encode.length = 24 + (found.encode.length - 24) := by omega
    have start := holds.same
    rw [split, window_add, window_inside (by rw [encode_parts]; simp [preamble_length]),
      List.drop_zero, encode_parts, encode_parts] at start
    have parts := List.append_inj start (by simp [preamble_length])
    rw [parts.1, List.append_assoc, List.take_left' (preamble_length _)]
  have foundFits : found.entries.length < 256 ^ 8 :=
    Nat.lt_of_le_of_lt few.entries (by decide)
  have count := preamble_injective same foundFits fits
  change found.entries.length = content.entries.length at count
  rw [← count]
  exact few.entries

def emptyKeyEntry : Entry maxArrayDepth := ⟨[], .scalar .uint8 0⟩

theorem length_emptyKeyEntries (count : Nat) :
    ((List.replicate count emptyKeyEntry).flatMap Entry.encode).length = count * 13 := by
  induction count with
  | zero => rfl
  | succ count ih =>
      have one : emptyKeyEntry.encode.length = 13 := by decide
      rw [List.replicate_succ, List.flatMap_cons, List.length_append, ih, one]
      omega

/-- One entry more than the parser goes along with. -/
def tooManyEntries : HeaderContent maxArrayDepth :=
  ⟨3, List.replicate (maxEntries + 1) emptyKeyEntry, []⟩

theorem tooManyEntries_bounded : tooManyEntries.Bounded := by
  have chooseNone {Y : Type} {choose : Entry maxArrayDepth -> Option Y}
      (isNone : choose emptyKeyEntry = none) :
      tooManyEntries.entries.filterMap choose = [] := by
    rw [List.filterMap_eq_nil_iff]
    intro entry isEntry
    rwa [List.eq_of_mem_replicate isEntry]
  have noArchitecture : architecture tooManyEntries.entries = none := by
    rw [architecture, lastOf, chooseNone (by decide), List.getLast?_nil]
  have noAlignment : alignment tooManyEntries.entries = defaultAlignment := by
    rw [alignment, lastOf, chooseNone (by decide), List.getLast?_nil, Option.getD_none]
  have noShape : shapeKeys tooManyEntries.entries = [] := by
    rw [shapeKeys, chooseNone (by decide)]
  refine ⟨Or.inr rfl, ?_, by rintro _ ⟨⟩, by rintro _ ⟨⟩, ?_, ?_, ?_, ?_⟩
  · intro entry isEntry
    rw [List.eq_of_mem_replicate isEntry]
    exact Nat.zero_le _
  · rw [noShape]
    exact Nat.zero_le _
  · rw [noAlignment]
    decide
  · intro blocks isBlocks
    rw [HeaderContent.widest, HeaderContent.shape, noArchitecture] at isBlocks
    cases isBlocks
  · have areEntries : tooManyEntries.entries = List.replicate (maxEntries + 1) emptyKeyEntry := rfl
    have noTensors : tooManyEntries.tensors = [] := rfl
    rw [encode_parts, List.length_append, preamble_length, List.length_append, areEntries,
      length_emptyKeyEntries, noTensors]
    decide

theorem refuses_too_many_entries :
    ¬ forall (content : HeaderContent maxArrayDepth) (rest : Bytes), content.Bounded ->
      exists header, parseGgufHeader (content.encode ++ rest) 0 =
        .ok (header, content.encode.length) := by
  intro parses
  rcases parses tooManyEntries [] tooManyEntries_bounded with ⟨header, accepted⟩
  have fits : tooManyEntries.entries.length < 256 ^ 8 := by
    change (List.replicate _ _).length < _
    rw [List.length_replicate]
    decide
  have few := entries_le_of_parse fits accepted
  change (List.replicate _ _).length ≤ _ at few
  rw [List.length_replicate] at few
  omega

end Gguf
end RocmCli
