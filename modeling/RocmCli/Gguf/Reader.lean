import RocmCli.Support.Scan
import RocmCli.Support.Text

namespace RocmCli
namespace Gguf

open Scan Text

/-!
# Reading a GGUF header

The reader keeps what an estimate of memory needs and passes over the rest.
What it passes over it seeks past, which needs no data; what it keeps it
reads.  The source is an in-memory cursor, so a read fails only where the data
ends.
-/

def maxEntries : Nat := 1 <<< 20

def maxKeyLen : Nat := 4096

def maxKeptString : Nat := 4096

def maxKeptArray : Nat := 4096

def maxTensorDims : Nat := 8

def maxArrayDepth : Nat := 2

def maxHeaderBytes : Nat := 64 * 1024 * 1024

def maxBlockCount : Nat := 10000

def maxKeptKeys : Nat := 64

def sizeCheckEvery : Nat := 4096

def defaultAlignment : Nat := 32

def supportedVersions : List Nat := [2, 3]

def tokenEmbdName : String := "token_embd.weight"

def outputName : String := "output.weight"

def keptKeySuffixes : List String :=
  [".block_count", ".embedding_length", ".attention.head_count", ".attention.head_count_kv",
    ".attention.key_length", ".attention.value_length", ".feed_forward_length", ".context_length",
    ".attention.sliding_window"]

def endsWith (text suffix : String) : Bool := suffix.toList.isSuffixOf text.toList

def contains (text part : String) : Bool := text.toList.tails.any part.toList.isPrefixOf

def isKeptKey (key : String) : Bool := keptKeySuffixes.any (endsWith key)

inductive GgufError where
  | notGguf
  | unsupportedVersion (version : Nat)
  | truncated
  | malformed (why : String)
  deriving DecidableEq, Repr

/-- What a metadata value was, once read. -/
inductive Value where
  | uint (value : Nat)
  | str (text : String)
  | ints (values : List Nat)
  | skipped
  deriving DecidableEq, Repr

/-- How the bytes of a value of fixed width are read. -/
inductive Num where
  | unsigned
  | signed
  | other
  deriving DecidableEq, Repr

/-- The width in bytes of a type of fixed width, and how to read it. -/
def fixedWidth : Nat -> Option (Nat × Num)
  | 0 | 7 => some (1, .unsigned)
  | 1 => some (1, .signed)
  | 2 => some (2, .unsigned)
  | 3 => some (2, .signed)
  | 4 => some (4, .unsigned)
  | 5 => some (4, .signed)
  | 6 => some (4, .other)
  | 10 => some (8, .unsigned)
  | 11 => some (8, .signed)
  | 12 => some (8, .other)
  | _ => none

/-- The non-negative integer in the bytes.  A signed value is moved to the top
of 64 bits and back, which extends its sign. -/
def decodeInt (bytes : Bytes) (width : Nat) (num : Num) : Option Nat :=
  match num with
  | .other => none
  | .unsigned => some (leNat bytes)
  | .signed =>
      let shift := 64 - 8 * width
      let shifted : Int := Int.bmod (leNat bytes * 2 ^ shift : Nat) (2 ^ 64)
      let signed := shifted / 2 ^ shift
      if 0 ≤ signed then some signed.toNat else none

abbrev Reader := Scanner GgufError

namespace Reader

def bytes (count : Nat) : Reader Bytes := readExact .truncated count

def u32 : Reader Nat := do
  let buf ← bytes 4
  return leNat buf

def u64 : Reader Nat := do
  let buf ← bytes 8
  return leNat buf

def skip (count : Nat) : Reader Unit :=
  if maxHeaderBytes < count then
    throw (.malformed (s!"a length of {count} bytes is larger than any header, which is at most " ++
      s!"{maxHeaderBytes / (1024 * 1024)} MiB"))
  else advance count

def checkSize : Reader Unit :=
  within maxHeaderBytes (.malformed
    s!"the header is larger than {maxHeaderBytes / (1024 * 1024)} MiB, which no real model's is")

/-- The size is checked after every 4096 elements. -/
def checkSizeAfter (item : Nat) : Reader Unit :=
  if item % sizeCheckEvery = sizeCheckEvery - 1 then checkSize else pure ()

/-- A length and that many bytes, kept as text unless they are too many. -/
def string (keepUpTo : Nat) : Reader (Option String) := do
  let len ← u64
  if keepUpTo < len then
    skip len
    return none
  else
    let buf ← bytes len
    return some (fromUtf8Lossy buf)

def scalar (width : Nat) (num : Num) : Reader Value := do
  let buf ← bytes width
  return (decodeInt buf width num).elim .skipped .uint

/-- Read one element of an array that is kept; `none` once an element was not
a non-negative integer. -/
def keptElement (width : Nat) (num : Num) (_item : Nat) (values : List Nat × Bool) :
    Reader (List Nat × Bool) := do
  let buf ← bytes width
  match decodeInt buf width num with
  | some value => return (values.1 ++ [value], values.2)
  | none => return (values.1, false)

def fixedArray (width : Nat) (num : Num) (len : Nat) (keep : Bool) : Reader Value :=
  if keep && num != .other && len ≤ maxKeptArray then do
    let (values, usable) ← forRange (keptElement width num) len 0 ([], true)
    return if usable then .ints values else .skipped
  else if maxU64 < len * width then
    throw (.malformed s!"array of {len} elements is out of range")
  else do
    skip (len * width)
    return .skipped

/-- Pass over one string of an array. -/
def skipString (item : Nat) (_ : Unit) : Reader Unit := do
  let itemLen ← u64
  skip itemLen
  checkSizeAfter item

/-- Pass over one array of an array. -/
def skipArray (array : Reader Value) (item : Nat) (_ : Unit) : Reader Unit := do
  let _ ← array
  checkSizeAfter item

/-- An array; `nested` reads the arrays it may hold. -/
def arrayOf (nested : Option (Reader Value)) (keep : Bool) : Reader Value := do
  let elementType ← u32
  let len ← u64
  match fixedWidth elementType with
  | some (width, num) => fixedArray width num len keep
  | none =>
    if elementType = 8 then
      forRange skipString len 0 ()
      return .skipped
    else if elementType = 9 then
      match nested with
      | none => throw (.malformed "arrays nested too deeply")
      | some array =>
        forRange (skipArray array) len 0 ()
        return .skipped
    else throw (.malformed s!"unknown array element type {elementType}")

/-- An array with this many levels left to nest. -/
def array : Nat -> Bool -> Reader Value
  | 0, keep => arrayOf none keep
  | levels + 1, keep => arrayOf (some (array levels false)) keep

def value (valueType : Nat) (keep : Bool) : Reader Value :=
  match fixedWidth valueType with
  | some (width, num) => scalar width num
  | none =>
    if valueType = 8 then do
      let text ← string maxKeptString
      return text.elim .skipped .str
    else if valueType = 9 then array maxArrayDepth keep
    else throw (.malformed s!"unknown metadata value type {valueType}")

end Reader

/-! ## Metadata -/

inductive PerLayer where
  | uniform (value : Nat)
  | each (values : List Nat)
  deriving DecidableEq, Repr

def perLayer : Option Value -> Option PerLayer
  | some (.uint value) => some (.uniform value)
  | some (.ints values) => some (.each values)
  | some (.str _) | some .skipped | none => none

/-- A list where a single figure was wanted counts as its widest. -/
def uint : Option Value -> Option Nat
  | some (.uint value) => some value
  | some (.ints values) => values.max?
  | some (.str _) | some .skipped | none => none

/-- What the metadata entries read so far say. -/
structure Metadata where
  architecture : Option String
  alignment : Nat
  splitCount : Option Nat
  slidingWindow : Bool
  ssm : Bool
  latentAttention : Bool
  moe : Bool
  kept : List (String × Value)
  deriving DecidableEq, Repr

namespace Metadata

def initial : Metadata := ⟨none, defaultAlignment, none, false, false, false, false, []⟩

/-- The kept value of a key. -/
def get (metadata : Metadata) (key : String) : Option Value :=
  (metadata.kept.find? fun entry => entry.1 = key).map Prod.snd

/-- Set the kept value of a key. -/
def insert (metadata : Metadata) (key : String) (value : Value) : Metadata :=
  { metadata with
    kept := (metadata.kept.filter fun entry => entry.1 ≠ key) ++ [(key, value)] }

def isFigure : Value -> Bool
  | .uint _ | .ints _ => true
  | .str _ | .skipped => false

/-- What the key of any other entry says. -/
def withFlags (metadata : Metadata) (key : String) (value : Value) : Metadata :=
  { metadata with
    ssm := metadata.ssm || contains key ".ssm."
    latentAttention := metadata.latentAttention || endsWith key ".attention.kv_lora_rank"
    moe := metadata.moe ||
      (endsWith key ".expert_count" && (uint (some value)).any fun experts => 1 < experts)
    slidingWindow := metadata.slidingWindow ||
      (endsWith key ".attention.sliding_window" &&
        (uint (some value)).any fun window => 0 < window) }

/-- Whether the value of a key is read again. -/
def isShapeKey (key : String) : Bool :=
  isKeptKey key && !endsWith key ".attention.sliding_window"

def keep (metadata : Metadata) (key : String) (value : Value) : Except GgufError Metadata :=
  if isShapeKey key && isFigure value then
    if maxKeptKeys ≤ metadata.kept.length && (metadata.get key).isNone then
      .error (.malformed
        s!"more than {maxKeptKeys} distinct model-shape keys is not a plausible header")
    else .ok (metadata.insert key value)
  else .ok metadata

def absorb (metadata : Metadata) (key : String) (value : Value) : Except GgufError Metadata :=
  match key, value with
  | "general.architecture", .str name => .ok { metadata with architecture := some name }
  | "general.alignment", .uint value => .ok { metadata with alignment := value }
  | "split.count", .uint value => .ok { metadata with splitCount := some value }
  | key, value => (metadata.withFlags key value).keep key value

end Metadata

/-- Read a string that must not be too long. -/
def Reader.shortString (tooLong : String) : Reader String := do
  match ← Reader.string maxKeyLen with
  | some text => return text
  | none => throw (.malformed tooLong)

def readEntry (_item : Nat) (metadata : Metadata) : Reader Metadata := do
  let key ← Reader.shortString "a metadata key is implausibly long"
  let valueType ← Reader.u32
  let value ← Reader.value valueType (isKeptKey key)
  Reader.checkSize
  metadata.absorb key value

/-! ## Tensor records -/

def saturatingMul (left right : Nat) : Nat := min (left * right) maxU64

def saturatingAdd (left right : Nat) : Nat := min (left + right) maxU64

/-- What the tensor records read so far say. -/
structure Tensors where
  paramCount : Nat
  offsets : List Nat
  tokenEmbdOffset : Option Nat
  hasOutput : Bool
  deriving DecidableEq, Repr

def Tensors.initial : Tensors := ⟨0, [], none, false⟩

def Tensors.add (tensors : Tensors) (name : String) (elements offset : Nat) : Tensors where
  paramCount := saturatingAdd tensors.paramCount elements
  offsets := tensors.offsets ++ [offset]
  tokenEmbdOffset := if name = tokenEmbdName then some offset else tensors.tokenEmbdOffset
  hasOutput := tensors.hasOutput || name == outputName

def readDim (_item : Nat) (elements : Nat) : Reader Nat := do
  let dim ← Reader.u64
  return saturatingMul elements dim

def readTensor (_item : Nat) (tensors : Tensors) : Reader Tensors := do
  let name ← Reader.shortString "a tensor name is implausibly long"
  let dims ← Reader.u32
  if maxTensorDims < dims then
    throw (.malformed s!"a tensor claims {dims} dimensions")
  let elements ← forRange readDim dims 0 1
  let _ggmlType ← Reader.u32
  let offset ← Reader.u64
  Reader.checkSize
  return tensors.add name elements offset

structure TensorSpan where
  offset : Nat
  nextOffset : Option Nat
  deriving DecidableEq, Repr

def Tensors.tokenEmbd (tensors : Tensors) : Option TensorSpan :=
  tensors.tokenEmbdOffset.map fun offset =>
    ⟨offset, (tensors.offsets.filter fun other => offset < other).min?⟩

/-! ## The header -/

structure GgufHeader where
  version : Nat
  architecture : Option String
  tensorCount : Nat
  paramCount : Nat
  dataOffset : Nat
  blockCount : Option Nat
  embeddingLength : Option Nat
  headCount : Option PerLayer
  headCountKv : Option PerLayer
  keyLength : Option Nat
  valueLength : Option Nat
  feedForwardLength : Option Nat
  contextLength : Option Nat
  splitCount : Option Nat
  slidingWindow : Bool
  ssm : Bool
  latentAttention : Bool
  moe : Bool
  tokenEmbd : Option TensorSpan
  hasOutput : Bool
  deriving DecidableEq, Repr

def alignUp (value alignment : Nat) : Nat :=
  saturatingMul ((value + alignment - 1) / alignment) alignment

/-- The magic, the version and the two counts. -/
structure Preamble where
  version : Nat
  tensorCount : Nat
  metadataCount : Nat
  deriving DecidableEq, Repr

def plausibleCount (what : String) (count : Nat) : Except GgufError Unit :=
  if maxEntries < count then
    .error (.malformed s!"{count} {what} entries is not a plausible header")
  else .ok ()

def readPreamble : Reader Preamble := do
  let found ← Reader.bytes 4
  if found ≠ [0x47, 0x47, 0x55, 0x46] then throw .notGguf
  let version ← Reader.u32
  if !supportedVersions.contains version then throw (.unsupportedVersion version)
  let tensorCount ← Reader.u64
  let metadataCount ← Reader.u64
  plausibleCount "tensor" tensorCount
  plausibleCount "metadata" metadataCount
  return ⟨version, tensorCount, metadataCount⟩

def usableAlignment (metadata : Metadata) : Except GgufError Unit :=
  if metadata.alignment = 0 then .error (.malformed "general.alignment is zero") else .ok ()

/-- Everything that is read: the preamble, the entries and the records. -/
def readParts : Reader (Preamble × Metadata × Tensors) := do
  let preamble ← readPreamble
  let metadata ← forRange readEntry preamble.metadataCount 0 Metadata.initial
  usableAlignment metadata
  let tensors ← forRange readTensor preamble.tensorCount 0 Tensors.initial
  return (preamble, metadata, tensors)

/-- The value of a shape key of the architecture. -/
def Metadata.shape (metadata : Metadata) (suffix : String) : Option Value :=
  metadata.architecture.bind fun architecture => metadata.get (architecture ++ "." ++ suffix)

def plausibleBlocks (metadata : Metadata) : Except GgufError Unit :=
  match (uint (metadata.shape "block_count")).filter (maxBlockCount < ·) with
  | some blocks => .error (.malformed s!"{blocks} layers is not a plausible model")
  | none => .ok ()

def makeHeader (preamble : Preamble) (metadata : Metadata) (tensors : Tensors)
    (headerEnd : Nat) : GgufHeader where
  version := preamble.version
  architecture := metadata.architecture
  tensorCount := preamble.tensorCount
  paramCount := tensors.paramCount
  dataOffset := alignUp headerEnd metadata.alignment
  blockCount := uint (metadata.shape "block_count")
  embeddingLength := uint (metadata.shape "embedding_length")
  headCount := perLayer (metadata.shape "attention.head_count")
  headCountKv := perLayer (metadata.shape "attention.head_count_kv")
  keyLength := uint (metadata.shape "attention.key_length")
  valueLength := uint (metadata.shape "attention.value_length")
  feedForwardLength := uint (metadata.shape "feed_forward_length")
  contextLength := uint (metadata.shape "context_length")
  splitCount := metadata.splitCount
  slidingWindow := metadata.slidingWindow
  ssm := metadata.ssm
  latentAttention := metadata.latentAttention
  moe := metadata.moe
  tokenEmbd := tensors.tokenEmbd
  hasOutput := tensors.hasOutput

def parseGgufHeader : Reader GgufHeader := do
  let (preamble, metadata, tensors) ← readParts
  let headerEnd ← streamPosition
  plausibleBlocks metadata
  return makeHeader preamble metadata tensors headerEnd

end Gguf
end RocmCli
