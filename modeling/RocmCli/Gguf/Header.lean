import RocmCli.Gguf.Values

namespace RocmCli
namespace Gguf

open Scan Text

/-!
# Reading a whole header

The entries, the tensor records and the numbers before them.  What the reader
accepts is the encoding of a header content, up to the end of a value that
nothing is read after.
-/

/-! ## Metadata entries -/

/-- A string that must not be too long. -/
theorem shortString_scans (tooLong : String) :
    Scans maxHeaderBytes (Reader.shortString tooLong) (stringLayout maxKeyLen)
      fun text found => text.length ≤ maxKeyLen ∧ found = fromUtf8Lossy text := by
  have each (text : Option String) (rest : Reader String)
      (isRest : rest = text.elim (throw (.malformed tooLong)) pure) :
      Scans maxHeaderBytes rest Layout.nothing fun _ found => text = some found := by
    subst isRest
    cases text with
    | none => exact scans_throw (by rintro _ _ ⟨⟩)
    | some text =>
        apply (scans_pure text).restate
        intro _ found
        exact ⟨fun isText => congrArg some isText.symm, fun isText => (Option.some.inj isText).symm⟩
  refine ((string_scans maxKeyLen).still fun text =>
    each text _ (by cases text <;> rfl)).restate ?_
  intro text found
  rw [exists_eq_left, readString]
  split
  next isLong => exact ⟨by rintro ⟨⟩, fun isShort => by omega⟩
  next isShort =>
    exact ⟨fun isText => ⟨Nat.not_lt.mp isShort, (Option.some.inj isText).symm⟩,
      fun isText => congrArg some isText.2.symm⟩

/-- The text of a key. -/
def Entry.text {levels : Nat} (entry : Entry levels) : String := fromUtf8Lossy entry.key

/-- What an entry reads as. -/
def Entry.read {levels : Nat} (entry : Entry levels) : Value :=
  entry.value.read (isKeptKey entry.text)

/-- How many bytes at the end of an entry are passed over. -/
def Entry.skippedEnd {levels : Nat} (entry : Entry levels) : Nat :=
  entry.value.skippedEnd (isKeptKey entry.text)

theorem entry_someRead {levels : Nat} (entry : Entry levels) :
    entry.skippedEnd < entry.encode.length := by
  have some := value_someRead (isKeptKey entry.text) entry.value
  rw [Entry.encode, List.length_append, List.length_append]
  exact Nat.lt_of_lt_of_le some (by omega)

def entryLayout (levels : Nat) : Layout (Entry levels) where
  encode := Entry.encode
  unread := Entry.skippedEnd
  unread_le entry := Nat.le_of_lt (entry_someRead entry)

/-- A value, and whether it was asked for to be kept. -/
def askedLayout (levels : Nat) : Layout (Bool × MetadataValue levels) where
  encode asked := asked.2.encode
  unread asked := asked.2.skippedEnd asked.1
  unread_le asked := Nat.le_of_lt (value_someRead asked.1 asked.2)

theorem asked_scans (valueType : Nat) (keep : Bool) :
    Scans maxHeaderBytes (Reader.value valueType keep) (askedLayout maxArrayDepth)
      fun asked found => asked.2.typeId = valueType ∧ asked.1 = keep ∧
        found = asked.2.read asked.1 := by
  apply (value_scans valueType keep).recast
  · rintro value found ⟨hasType, isFound⟩
    exact ⟨(keep, value), ⟨hasType, rfl, isFound⟩, rfl, rfl⟩
  · rintro ⟨_, value⟩ found ⟨hasType, rfl, isFound⟩ _
    exact ⟨value, ⟨hasType, isFound⟩, rfl, rfl⟩

theorem typeId_fits {levels : Nat} (value : MetadataValue levels) : value.typeId < 256 ^ 4 := by
  cases value with
  | scalar type bits => exact type.typeId_fits
  | string text => exact stringTypeId_fits
  | array elements => exact arrayTypeId_fits

theorem readEntry_scans (item : Nat) (metadata : Metadata) :
    Scans maxHeaderBytes (readEntry item metadata) (entryLayout maxArrayDepth)
      fun entry next => entry.key.length ≤ maxKeyLen ∧
        metadata.absorb entry.text entry.read = .ok next := by
  have typed (key : String) : Scans maxHeaderBytes
      (do
        let valueType ← Reader.u32
        let value ← Reader.value valueType (isKeptKey key)
        Reader.checkSize
        metadata.absorb key value)
      ((askedLayout maxArrayDepth).tagged 4 fun asked => asked.2.typeId)
      fun asked next => asked.1 = isKeptKey key ∧
        metadata.absorb key (asked.2.read asked.1) = .ok next := by
    apply u32_scans.tagged
    case small => exact fun asked _ => typeId_fits asked.2
    intro valueType
    apply Scans.restate ((asked_scans valueType (isKeptKey key)).still fun value =>
      (scans_within _).still fun _ => scans_lift (metadata.absorb key value))
    rintro asked next
    constructor
    · rintro ⟨_, ⟨hasType, isKeep, rfl⟩, _, -, isNext⟩
      exact ⟨hasType, isKeep, isNext⟩
    · rintro ⟨hasType, isKeep, isNext⟩
      exact ⟨_, ⟨hasType, isKeep, rfl⟩, (), rfl, isNext⟩
  have unreadIs (entry : Entry maxArrayDepth) : joinUnread
      ((stringLayout maxKeyLen).unread entry.key) entry.skippedEnd
      (leBytes 4 entry.value.typeId ++ entry.value.encode).length = entry.skippedEnd := by
    have some := value_someRead (isKeptKey entry.text) entry.value
    apply joinUnread_of_lt
    rw [List.length_append]
    exact Nat.lt_of_lt_of_le some (Nat.le_add_left _ _)
  apply ((shortString_scans _).bind typed).recast
  · rintro ⟨key, keep, value⟩ next ⟨_, ⟨isShort, rfl⟩, isKeep, isNext⟩
    change keep = isKeptKey (fromUtf8Lossy key) at isKeep
    subst isKeep
    exact ⟨⟨key, value⟩, ⟨isShort, isNext⟩, rfl, (unreadIs ⟨key, value⟩).symm⟩
  · rintro entry next ⟨isShort, isNext⟩ _
    exact ⟨(entry.key, (isKeptKey entry.text, entry.value)), ⟨_, ⟨isShort, rfl⟩, rfl, isNext⟩, rfl,
      unreadIs entry⟩

/-! ## Tensor records -/

/-- The number of elements of a tensor, as far as 64 bits hold it. -/
def TensorRecord.elements (tensor : TensorRecord) : Nat :=
  tensor.dims.foldl (fun elements dim => saturatingMul elements dim.toNat) 1

def tensorLayout : Layout TensorRecord where
  encode := TensorRecord.encode
  unread _ := 0
  unread_le _ := Nat.zero_le _

/-- What a record adds. -/
def Tensors.addRecord (tensors : Tensors) (tensor : TensorRecord) : Tensors :=
  tensors.add (fromUtf8Lossy tensor.name) tensor.elements tensor.offset.toNat

theorem readDim_scans (item elements : Nat) :
    Scans maxHeaderBytes (readDim item elements) (Layout.bits 8)
      fun dim next => next = saturatingMul elements dim.toNat := by
  apply Scans.restate (u64_scans.still fun dim => scans_pure (saturatingMul elements dim))
  intro dim next
  rw [exists_eq_left]

theorem readTensor_scans (item : Nat) (tensors : Tensors) :
    Scans maxHeaderBytes (readTensor item tensors) tensorLayout
      fun tensor next => tensor.name.length ≤ maxKeyLen ∧ tensor.dims.length ≤ maxTensorDims ∧
        next = tensors.addRecord tensor := by
  unfold readTensor
  have sized (name : String) : Scans maxHeaderBytes
      (do
        let dims ← Reader.u32
        if maxTensorDims < dims then
          throw (.malformed s!"a tensor claims {dims} dimensions")
        let elements ← forRange readDim dims 0 1
        let _ggmlType ← Reader.u32
        let offset ← Reader.u64
        Reader.checkSize
        return tensors.add name elements offset)
      (((Layout.bits 8).list.pair ((Layout.bits 4).pair (Layout.bits 8))).tagged 4
        fun sized => sized.1.length)
      fun sized next => sized.1.length ≤ maxTensorDims ∧
        next = tensors.add name
          (sized.1.foldl (fun elements dim => saturatingMul elements dim.toNat) 1)
          sized.2.2.toNat := by
    apply u32_scans.tagged
    case small =>
      intro sized small
      have fits : maxHeaderBytes < 256 ^ 4 := by decide
      change (sized.1.flatMap (fun dim => leBytes 8 dim.toNat) ++ _).length ≤ maxHeaderBytes at small
      rw [List.length_append, length_flatMap_leBytes] at small
      omega
    intro dims
    apply Scans.restate (scans_unless ((scans_forRange readDim_scans dims 0 1).bind fun elements =>
      u32_scans.bind fun _ => u64_scans.still fun offset => (scans_within _).still fun _ =>
        scans_pure (tensors.add name elements offset)))
    rintro ⟨dimBits, ggmlType, offset⟩ next
    constructor
    · rintro ⟨few, _, ⟨hasCount, steps⟩, _, -, _, rfl, _, -, isNext⟩
      rw [steps_function.mp steps] at isNext
      exact ⟨hasCount, hasCount ▸ Nat.not_lt.mp few, isNext⟩
    · rintro ⟨rfl, few, isNext⟩
      exact ⟨Nat.not_lt.mpr few, _, ⟨rfl, steps_function.mpr rfl⟩, _, rfl, _, rfl, (), rfl, isNext⟩
  have allRead (name : Bytes) (dims : List (BitVec 64)) (rest : Bytes) (some : 0 < rest.length) :
      joinUnread ((stringLayout maxKeyLen).unread name)
        (joinUnread ((Layout.bits 8).listUnread dims) (joinUnread 0 0 8) rest.length)
        (leBytes 4 dims.length ++
          (dims.flatMap (fun dim => leBytes 8 dim.toNat) ++ rest)).length = 0 := by
    rw [joinUnread_zero_left, joinUnread_of_lt some]
    apply joinUnread_of_lt
    rw [List.length_append, List.length_append]
    omega
  apply ((shortString_scans _).bind sized).recast
  · rintro ⟨name, dims, ggmlType, offset⟩ next ⟨_, ⟨isShort, rfl⟩, few, isNext⟩
    refine ⟨⟨name, dims, ggmlType, offset⟩, ⟨isShort, few, isNext⟩, rfl, ?_⟩
    exact (allRead name dims (leBytes 4 ggmlType.toNat ++ leBytes 8 offset.toNat) (by simp)).symm
  · rintro ⟨name, dims, ggmlType, offset⟩ next ⟨isShort, few, isNext⟩ _
    refine ⟨(name, dims, ggmlType, offset), ⟨_, ⟨isShort, rfl⟩, few, isNext⟩, rfl, ?_⟩
    exact allRead name dims (leBytes 4 ggmlType.toNat ++ leBytes 8 offset.toNat) (by simp)

/-! ## The numbers before the entries -/

def Preamble.encode (preamble : Preamble) : Bytes :=
  magic ++ (leBytes 4 preamble.version ++
    (leBytes 8 preamble.tensorCount ++ leBytes 8 preamble.metadataCount))

def preambleLayout : Layout Preamble where
  encode := Preamble.encode
  unread _ := 0
  unread_le _ := Nat.zero_le _

/-- What the numbers must be for the reader to go on. -/
structure Preamble.Plausible (preamble : Preamble) : Prop where
  version : supportedVersions.contains preamble.version = true
  tensors : preamble.tensorCount ≤ maxEntries
  metadata : preamble.metadataCount ≤ maxEntries

theorem count_fits {count : Nat} (few : count ≤ maxEntries) : count < 2 ^ 64 :=
  Nat.lt_of_le_of_lt few (by decide)

theorem Preamble.Plausible.version_fits {preamble : Preamble} (inRange : preamble.Plausible) :
    preamble.version < 2 ^ 32 := by
  have isSupported := inRange.version
  rw [List.contains_iff_mem] at isSupported
  have small : forall version, version ∈ supportedVersions -> version < 2 ^ 32 := by decide
  exact small preamble.version isSupported

theorem plausibleCount_scans (what : String) (count : Nat) :
    Scans maxHeaderBytes (liftM (plausibleCount what count) : Reader Unit) Layout.nothing
      fun _ _ => count ≤ maxEntries := by
  apply Scans.restate (scans_lift _)
  intro _ found
  rw [plausibleCount]
  split
  next tooMany => exact ⟨nofun, fun few => by omega⟩
  next few => exact ⟨fun _ => Nat.not_lt.mp few, fun _ => rfl⟩

theorem counts_scans (version : Nat) :
    Scans maxHeaderBytes
      (do
        let tensorCount ← Reader.u64
        let metadataCount ← Reader.u64
        plausibleCount "tensor" tensorCount
        plausibleCount "metadata" metadataCount
        return (⟨version, tensorCount, metadataCount⟩ : Preamble))
      ((Layout.bits 8).pair (Layout.bits 8))
      fun counts found => counts.1.toNat ≤ maxEntries ∧ counts.2.toNat ≤ maxEntries ∧
        found = ⟨version, counts.1.toNat, counts.2.toNat⟩ := by
  apply Scans.restate (u64_scans.bind fun tensorCount => u64_scans.still fun metadataCount =>
    (plausibleCount_scans "tensor" tensorCount).still fun _ =>
      (plausibleCount_scans "metadata" metadataCount).still fun _ =>
        scans_pure (⟨version, tensorCount, metadataCount⟩ : Preamble))
  rintro ⟨tensorCount, metadataCount⟩ found
  constructor
  · rintro ⟨_, rfl, _, rfl, _, fewTensors, _, fewEntries, isFound⟩
    exact ⟨fewTensors, fewEntries, isFound⟩
  · rintro ⟨fewTensors, fewEntries, isFound⟩
    exact ⟨_, rfl, _, rfl, (), fewTensors, (), fewEntries, isFound⟩

theorem readPreamble_scans :
    Scans maxHeaderBytes readPreamble preambleLayout
      fun preamble found => preamble.Plausible ∧ found = preamble := by
  unfold readPreamble
  apply Scans.recast ((scans_readExact GgufError.truncated 4).bind fun found =>
    scans_unless (u32_scans.bind fun version => scans_unless (counts_scans version)))
  · rintro ⟨_, version, tensorCount, metadataCount⟩ preamble
      ⟨_, ⟨-, rfl⟩, isMagic, _, rfl, isSupported, fewTensors, fewEntries, rfl⟩
    rw [Bool.not_eq_true, Bool.not_eq_false'] at isSupported
    refine ⟨_, ⟨⟨isSupported, fewTensors, fewEntries⟩, rfl⟩, ?_, rfl⟩
    exact congrArg (· ++ _) (not_not.mp isMagic).symm
  · rintro ⟨version, tensorCount, metadataCount⟩ _ ⟨inRange, rfl⟩ _
    refine ⟨(magic, BitVec.ofNatLT version inRange.version_fits,
      BitVec.ofNatLT tensorCount (count_fits inRange.tensors),
      BitVec.ofNatLT metadataCount (count_fits inRange.metadata)), ?_, rfl, rfl⟩
    refine ⟨magic, ⟨rfl, rfl⟩, not_not.mpr rfl, version, rfl, ?_, inRange.tensors,
      inRange.metadata, rfl⟩
    rw [inRange.version]
    decide

/-! ## The whole header -/

def HeaderContent.preamble {levels : Nat} (content : HeaderContent levels) : Preamble :=
  ⟨content.version, content.tensors.length, content.entries.length⟩

/-- How many bytes at the end of a header are passed over. -/
def HeaderContent.skippedEnd {levels : Nat} (content : HeaderContent levels) : Nat :=
  if content.tensors = [] then content.entries.getLast?.elim 0 Entry.skippedEnd else 0

/-- The reader goes through the content, and its entries say this. -/
structure HeaderContent.Reads {levels : Nat} (content : HeaderContent levels)
    (metadata : Metadata) : Prop where
  numbers : content.preamble.Plausible
  keys : forall entry, entry ∈ content.entries -> entry.key.length ≤ maxKeyLen
  absorbed : content.entries.foldlM (fun metadata entry => metadata.absorb entry.text entry.read)
    Metadata.initial = .ok metadata
  aligned : metadata.alignment ≠ 0
  names : forall tensor, tensor ∈ content.tensors -> tensor.name.length ≤ maxKeyLen
  dims : forall tensor, tensor ∈ content.tensors -> tensor.dims.length ≤ maxTensorDims

theorem usableAlignment_iff {metadata : Metadata} {found : Unit} :
    usableAlignment metadata = .ok found ↔ metadata.alignment ≠ 0 := by
  rw [usableAlignment]
  split
  next isZero => exact ⟨nofun, fun notZero => absurd isZero notZero⟩
  next notZero => exact ⟨fun _ => notZero, fun _ => rfl⟩

theorem encode_parts {levels : Nat} (content : HeaderContent levels) :
    content.encode = content.preamble.encode ++ (content.entries.flatMap Entry.encode ++
      content.tensors.flatMap TensorRecord.encode) := by
  simp only [HeaderContent.encode, Preamble.encode, HeaderContent.preamble, List.append_assoc]

theorem joined_skippedEnd {levels : Nat} (content : HeaderContent levels) :
    joinUnread 0 (joinUnread ((entryLayout levels).listUnread content.entries)
      (tensorLayout.listUnread content.tensors)
      (content.tensors.flatMap TensorRecord.encode).length)
      (content.entries.flatMap Entry.encode ++
        content.tensors.flatMap TensorRecord.encode).length = content.skippedEnd := by
  rw [joinUnread_zero_left, Layout.listUnread_eq entry_someRead,
    Layout.listUnread_of_read fun _ => rfl, HeaderContent.skippedEnd]
  cases content.tensors with
  | nil => rfl
  | cons tensor rest =>
      apply joinUnread_of_lt
      rw [List.flatMap_cons, TensorRecord.encode, encodeString, List.length_append,
        List.length_append, List.length_append, length_leBytes]
      omega

def contentLayout (levels : Nat) : Layout (HeaderContent levels) where
  encode := HeaderContent.encode
  unread := HeaderContent.skippedEnd
  unread_le content := by
    rw [← joined_skippedEnd]
    exact (preambleLayout.pair ((entryLayout levels).list.pair tensorLayout.list)).unread_le
      (content.preamble, content.entries, content.tensors)

theorem readParts_scans :
    Scans maxHeaderBytes readParts (contentLayout maxArrayDepth) fun content found =>
      content.Reads found.2.1 ∧ found.1 = content.preamble ∧
        found.2.2 = content.tensors.foldl Tensors.addRecord Tensors.initial := by
  unfold readParts
  apply Scans.recast (readPreamble_scans.bind fun preamble =>
    (scans_forRange readEntry_scans preamble.metadataCount 0 Metadata.initial).bind fun metadata =>
      scans_decided (usableAlignment metadata) fun _ =>
        (scans_forRange readTensor_scans preamble.tensorCount 0 Tensors.initial).still fun tensors =>
          scans_pure (preamble, metadata, tensors))
  · rintro ⟨⟨version, tensorCount, metadataCount⟩, entries, tensors⟩ _
      ⟨_, ⟨inRange, rfl⟩, metadata, ⟨hasEntries, entrySteps⟩, _, isAligned, _,
        ⟨hasTensors, tensorSteps⟩, rfl⟩
    change entries.length = metadataCount at hasEntries
    change tensors.length = tensorCount at hasTensors
    subst hasEntries hasTensors
    rcases steps_checked.mp entrySteps with ⟨keys, entrySteps⟩
    rcases steps_checked.mp tensorSteps with ⟨names, tensorSteps⟩
    rcases steps_checked.mp tensorSteps with ⟨dims, tensorSteps⟩
    refine ⟨⟨version, entries, tensors⟩, ⟨⟨inRange, keys, steps_except.mp entrySteps,
      usableAlignment_iff.mp isAligned, names, dims⟩, rfl, steps_function.mp tensorSteps⟩, ?_, ?_⟩
    · exact encode_parts ⟨version, entries, tensors⟩
    · exact (joined_skippedEnd ⟨version, entries, tensors⟩).symm
  · rintro content ⟨_, metadata, _⟩ ⟨reads, rfl, rfl⟩ _
    refine ⟨(content.preamble, content.entries, content.tensors), ?_, (encode_parts content).symm,
      joined_skippedEnd content⟩
    refine ⟨_, ⟨reads.numbers, rfl⟩, metadata, ⟨rfl, ?_⟩, (), usableAlignment_iff.mpr reads.aligned,
      _, ⟨rfl, ?_⟩, rfl⟩
    · exact steps_checked.mpr ⟨reads.keys, steps_except.mpr reads.absorbed⟩
    · exact steps_checked.mpr ⟨reads.names, steps_checked.mpr ⟨reads.dims, steps_function.mpr rfl⟩⟩

end Gguf
end RocmCli
