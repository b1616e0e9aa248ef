import RocmCli.Gguf.Reader

namespace RocmCli
namespace Gguf

open Scan Text

/-!
# The parser over any source

The parser asks its source for three things: to fill a buffer, to move forward
and to say where it is.  A script is a parser by what it asks and how it goes
on.  Over a cursor in memory it is the parser of the header reader; other
sources run the same script.
-/

inductive Script (R : Type) where
  | done (result : R)
  | fail (error : GgufError)
  | readExact (count : Nat) (next : Bytes -> Script R)
  | seekForward (count : Nat) (next : Script R)
  | streamPosition (next : Nat -> Script R)

namespace Script

variable {R S : Type}

def bind : Script R -> (R -> Script S) -> Script S
  | done result, after => after result
  | fail error, _ => fail error
  | readExact count next, after => readExact count fun bytes => (next bytes).bind after
  | seekForward count next, after => seekForward count (next.bind after)
  | streamPosition next, after => streamPosition fun position => (next position).bind after

instance : Monad Script where
  pure := done
  bind := bind

def ofExcept : Except GgufError R -> Script R
  | .ok result => done result
  | .error error => fail error

/-- The script over a cursor in memory. -/
def scan : Script R -> Reader R
  | done result => pure result
  | fail error => throw error
  | readExact count next => do
      let bytes <- Scan.readExact .truncated count
      scan (next bytes)
  | seekForward count next => do
      advance count
      scan next
  | streamPosition next => do
      let position <- Scan.streamPosition
      scan (next position)

def forRange (body : Nat -> S -> Script S) : Nat -> Nat -> S -> Script S
  | 0, _, state => pure state
  | count + 1, index, state => do
      let next <- body index state
      forRange body count (index + 1) next

/-! ## Values -/

def bytes (count : Nat) : Script Bytes := readExact count done

def u32 : Script Nat := do
  let buf <- bytes 4
  return leNat buf

def u64 : Script Nat := do
  let buf <- bytes 8
  return leNat buf

def skip (count : Nat) : Script Unit :=
  if maxHeaderBytes < count then
    fail (.malformed (s!"a length of {count} bytes is larger than any header, which is at most " ++
      s!"{maxHeaderBytes / (1024 * 1024)} MiB"))
  else seekForward count (done ())

def checkSize : Script Unit := do
  let position <- streamPosition done
  if maxHeaderBytes < position then
    fail (.malformed
      s!"the header is larger than {maxHeaderBytes / (1024 * 1024)} MiB, which no real model's is")
  else return ()

def checkSizeAfter (item : Nat) : Script Unit :=
  if item % sizeCheckEvery = sizeCheckEvery - 1 then checkSize else return ()

def string (keepUpTo : Nat) : Script (Option String) := do
  let len <- u64
  if keepUpTo < len then
    skip len
    return none
  else
    let buf <- bytes len
    return some (fromUtf8Lossy buf)

def scalar (width : Nat) (num : Num) : Script Value := do
  let buf <- bytes width
  return (decodeInt buf width num).elim .skipped .uint

def keptElement (width : Nat) (num : Num) (_item : Nat) (values : List Nat × Bool) :
    Script (List Nat × Bool) := do
  let buf <- bytes width
  match decodeInt buf width num with
  | some value => return (values.1 ++ [value], values.2)
  | none => return (values.1, false)

def fixedArray (width : Nat) (num : Num) (len : Nat) (keep : Bool) : Script Value :=
  if keep && num != .other && len ≤ maxKeptArray then do
    let values <- forRange (keptElement width num) len 0 ([], true)
    return if values.2 then .ints values.1 else .skipped
  else if maxU64 < len * width then fail (.malformed s!"array of {len} elements is out of range")
  else do
    skip (len * width)
    return .skipped

def skipString (item : Nat) (_ : Unit) : Script Unit := do
  let itemLen <- u64
  skip itemLen
  checkSizeAfter item

def skipArray (array : Script Value) (item : Nat) (_ : Unit) : Script Unit := do
  let _ <- array
  checkSizeAfter item

def arrayOf (nested : Option (Script Value)) (keep : Bool) : Script Value := do
  let elementType <- u32
  let len <- u64
  match fixedWidth elementType with
  | some (width, num) => fixedArray width num len keep
  | none =>
    if elementType = 8 then
      forRange skipString len 0 ()
      return .skipped
    else if elementType = 9 then
      match nested with
      | none => fail (.malformed "arrays nested too deeply")
      | some array =>
        forRange (skipArray array) len 0 ()
        return .skipped
    else fail (.malformed s!"unknown array element type {elementType}")

def array : Nat -> Bool -> Script Value
  | 0, keep => arrayOf none keep
  | levels + 1, keep => arrayOf (some (array levels false)) keep

def value (valueType : Nat) (keep : Bool) : Script Value :=
  match fixedWidth valueType with
  | some (width, num) => scalar width num
  | none =>
    if valueType = 8 then do
      let text <- string maxKeptString
      return text.elim .skipped .str
    else if valueType = 9 then array maxArrayDepth keep
    else fail (.malformed s!"unknown metadata value type {valueType}")

/-! ## Entries, records and the header -/

def shortString (tooLong : String) : Script String := do
  match <- string maxKeyLen with
  | some text => return text
  | none => fail (.malformed tooLong)

def readEntry (_item : Nat) (metadata : Metadata) : Script Metadata := do
  let key <- shortString "a metadata key is implausibly long"
  let valueType <- u32
  let value <- value valueType (isKeptKey key)
  checkSize
  ofExcept (metadata.absorb key value)

def readDim (_item : Nat) (elements : Nat) : Script Nat := do
  let dim <- u64
  return saturatingMul elements dim

def readTensor (_item : Nat) (tensors : Tensors) : Script Tensors := do
  let name <- shortString "a tensor name is implausibly long"
  let dims <- u32
  if maxTensorDims < dims then fail (.malformed s!"a tensor claims {dims} dimensions")
  else
    let elements <- forRange readDim dims 0 1
    let _ggmlType <- u32
    let offset <- u64
    checkSize
    return tensors.add name elements offset

def readPreamble : Script Preamble := do
  let found <- bytes 4
  if found ≠ [0x47, 0x47, 0x55, 0x46] then fail .notGguf
  else
    let version <- u32
    if !supportedVersions.contains version then fail (.unsupportedVersion version)
    else
      let tensorCount <- u64
      let metadataCount <- u64
      ofExcept (plausibleCount "tensor" tensorCount)
      ofExcept (plausibleCount "metadata" metadataCount)
      return ⟨version, tensorCount, metadataCount⟩

def readParts : Script (Preamble × Metadata × Tensors) := do
  let preamble <- readPreamble
  let metadata <- forRange readEntry preamble.metadataCount 0 Metadata.initial
  ofExcept (usableAlignment metadata)
  let tensors <- forRange readTensor preamble.tensorCount 0 Tensors.initial
  return (preamble, metadata, tensors)

def parseGgufHeader : Script GgufHeader := do
  let parts <- readParts
  let headerEnd <- streamPosition done
  ofExcept (plausibleBlocks parts.2.1)
  return makeHeader parts.1 parts.2.1 parts.2.2 headerEnd

/-! ## Over a cursor in memory -/

@[simp] theorem scan_pure (result : R) : scan (pure result) = pure result := rfl

@[simp] theorem scan_done (result : R) : scan (done result) = pure result := rfl

@[simp] theorem scan_fail (error : GgufError) :
    scan (fail error : Script R) = throw error := rfl

/-- What follows a script is read where the script ends. -/
@[simp] theorem scan_bind (script : Script R) (after : R -> Script S) :
    scan (script >>= after) = scan script >>= fun result => scan (after result) := by
  change scan (script.bind after) = _
  induction script with
  | done result => exact (pure_bind result fun result => scan (after result)).symm
  | fail error => rfl
  | readExact count next ih =>
      change (Scan.readExact .truncated count >>= fun bytes => scan ((next bytes).bind after)) =
        (Scan.readExact .truncated count >>= fun bytes => scan (next bytes)) >>= _
      rw [bind_assoc]
      exact congrArg _ (funext ih)
  | seekForward count next ih =>
      change (advance count >>= fun _ => scan (next.bind after)) =
        (advance count >>= fun _ => scan next) >>= _
      rw [bind_assoc]
      exact congrArg _ (funext fun _ => ih)
  | streamPosition next ih =>
      change (Scan.streamPosition >>= fun position => scan ((next position).bind after)) =
        (Scan.streamPosition >>= fun position => scan (next position)) >>= _
      rw [bind_assoc]
      exact congrArg _ (funext ih)

theorem scan_forRange {body : Nat -> S -> Script S} {reads : Nat -> S -> Reader S}
    (same : forall index state, scan (body index state) = reads index state)
    (count index : Nat) (state : S) :
    scan (forRange body count index state) = Scan.forRange reads count index state := by
  induction count generalizing index state with
  | zero => rfl
  | succ count ih =>
      unfold forRange Scan.forRange
      rw [scan_bind, same]
      exact congrArg _ (funext fun next => ih (index + 1) next)

@[simp] theorem scan_ofExcept (decided : Except GgufError R) :
    scan (ofExcept decided) = liftM decided := by
  cases decided with
  | ok result => rfl
  | error error => rfl

@[simp] theorem scan_bytes (count : Nat) : scan (bytes count) = Reader.bytes count := by
  unfold bytes scan
  exact bind_pure _

@[simp] theorem scan_streamPosition : scan (streamPosition done) = Scan.streamPosition := by
  unfold scan
  exact bind_pure _

@[simp] theorem scan_u32 : scan u32 = Reader.u32 := by
  unfold u32 Reader.u32
  rw [scan_bind, scan_bytes]
  rfl

@[simp] theorem scan_u64 : scan u64 = Reader.u64 := by
  unfold u64 Reader.u64
  rw [scan_bind, scan_bytes]
  rfl

@[simp] theorem scan_skip (count : Nat) : scan (skip count) = Reader.skip count := by
  unfold skip Reader.skip
  split
  · rfl
  · rfl

@[simp] theorem scan_checkSize : scan checkSize = Reader.checkSize := by
  unfold checkSize Reader.checkSize within
  rw [scan_bind, scan_streamPosition]
  apply congrArg
  funext position
  split
  · rfl
  · rfl

@[simp] theorem scan_checkSizeAfter (item : Nat) :
    scan (checkSizeAfter item) = Reader.checkSizeAfter item := by
  unfold checkSizeAfter Reader.checkSizeAfter
  split
  · exact scan_checkSize
  · rfl

@[simp] theorem scan_string (keepUpTo : Nat) :
    scan (string keepUpTo) = Reader.string keepUpTo := by
  unfold string Reader.string
  rw [scan_bind, scan_u64]
  apply congrArg
  funext len
  split
  · rw [scan_bind, scan_skip]
    rfl
  · rw [scan_bind, scan_bytes]
    rfl

@[simp] theorem scan_scalar (width : Nat) (num : Num) :
    scan (scalar width num) = Reader.scalar width num := by
  unfold scalar Reader.scalar
  rw [scan_bind, scan_bytes]
  rfl

theorem scan_keptElement (width : Nat) (num : Num) (item : Nat) (values : List Nat × Bool) :
    scan (keptElement width num item values) = Reader.keptElement width num item values := by
  unfold keptElement Reader.keptElement
  rw [scan_bind, scan_bytes]
  apply congrArg
  funext buf
  rcases decodeInt buf width num with _ | value
  · rfl
  · rfl

@[simp] theorem scan_fixedArray (width : Nat) (num : Num) (len : Nat) (keep : Bool) :
    scan (fixedArray width num len keep) = Reader.fixedArray width num len keep := by
  unfold fixedArray Reader.fixedArray
  split
  · rw [scan_bind, scan_forRange (scan_keptElement width num)]
    rfl
  · split
    · rfl
    · rw [scan_bind, scan_skip]
      rfl

theorem scan_skipString (item : Nat) (done : Unit) :
    scan (skipString item done) = Reader.skipString item done := by
  unfold skipString Reader.skipString
  rw [scan_bind, scan_u64]
  apply congrArg
  funext itemLen
  rw [scan_bind, scan_skip, scan_checkSizeAfter]

theorem scan_skipArray {array : Script Value} {reads : Reader Value} (same : scan array = reads)
    (item : Nat) (done : Unit) :
    scan (skipArray array item done) = Reader.skipArray reads item done := by
  unfold skipArray Reader.skipArray
  rw [scan_bind, same, scan_checkSizeAfter]

theorem scan_arrayOf {nested : Option (Script Value)} {reads : Option (Reader Value)}
    (same : nested.map scan = reads) (keep : Bool) :
    scan (arrayOf nested keep) = Reader.arrayOf reads keep := by
  unfold arrayOf Reader.arrayOf
  rw [scan_bind, scan_u32]
  apply congrArg
  funext elementType
  rw [scan_bind, scan_u64]
  apply congrArg
  funext len
  rcases fixedWidth elementType with _ | ⟨width, num⟩
  · dsimp only
    split
    · rw [scan_bind, scan_forRange scan_skipString]
      rfl
    · split
      · rcases nested with _ | array
        · cases same
          rfl
        · cases same
          dsimp only [Option.map_some]
          rw [scan_bind, scan_forRange (scan_skipArray rfl)]
          rfl
      · rfl
  · exact scan_fixedArray width num len keep

@[simp] theorem scan_array (levels : Nat) (keep : Bool) :
    scan (array levels keep) = Reader.array levels keep := by
  induction levels generalizing keep with
  | zero => exact scan_arrayOf rfl keep
  | succ levels ih =>
      have same : (some (array levels false)).map scan = some (Reader.array levels false) :=
        congrArg some (ih false)
      exact scan_arrayOf same keep

@[simp] theorem scan_value (valueType : Nat) (keep : Bool) :
    scan (value valueType keep) = Reader.value valueType keep := by
  unfold value Reader.value
  rcases fixedWidth valueType with _ | ⟨width, num⟩
  · dsimp only
    split
    · rw [scan_bind, scan_string]
      rfl
    · split
      · exact scan_array maxArrayDepth keep
      · rfl
  · exact scan_scalar width num

@[simp] theorem scan_shortString (tooLong : String) :
    scan (shortString tooLong) = Reader.shortString tooLong := by
  unfold shortString Reader.shortString
  rw [scan_bind, scan_string]
  apply congrArg
  funext text
  rcases text with _ | text
  · rfl
  · rfl

theorem scan_readEntry (item : Nat) (metadata : Metadata) :
    scan (readEntry item metadata) = Gguf.readEntry item metadata := by
  unfold readEntry Gguf.readEntry
  simp only [scan_bind, scan_shortString, scan_u32, scan_value, scan_checkSize, scan_ofExcept]

theorem scan_readDim (item elements : Nat) :
    scan (readDim item elements) = Gguf.readDim item elements := by
  unfold readDim Gguf.readDim
  rw [scan_bind, scan_u64]
  rfl

theorem scan_readTensor (item : Nat) (tensors : Tensors) :
    scan (readTensor item tensors) = Gguf.readTensor item tensors := by
  unfold readTensor Gguf.readTensor
  simp only [scan_bind, scan_shortString, scan_u32]
  apply congrArg
  funext name
  apply congrArg
  funext dims
  split
  · rfl
  · simp only [scan_bind, scan_forRange scan_readDim, scan_u32, scan_u64, scan_checkSize,
      scan_pure]

theorem scan_readPreamble : scan readPreamble = Gguf.readPreamble := by
  unfold readPreamble Gguf.readPreamble
  rw [scan_bind, scan_bytes]
  apply congrArg
  funext found
  split
  · rfl
  · simp only [scan_bind, scan_u32]
    apply congrArg
    funext version
    split
    · rfl
    · simp only [scan_bind, scan_u64, scan_ofExcept, scan_pure]

theorem scan_readParts : scan readParts = Gguf.readParts := by
  unfold readParts Gguf.readParts
  simp only [scan_bind, scan_readPreamble, scan_forRange scan_readEntry,
    scan_forRange scan_readTensor, scan_ofExcept, scan_pure]

/-- Over a cursor the script is the parser of the header reader. -/
theorem scan_parseGgufHeader : scan parseGgufHeader = Gguf.parseGgufHeader := by
  unfold parseGgufHeader Gguf.parseGgufHeader
  simp only [scan_bind, scan_readParts, scan_streamPosition, scan_ofExcept, scan_pure]

end Script

end Gguf
end RocmCli
