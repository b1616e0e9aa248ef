import RocmCli.Gguf.Format
import RocmCli.Gguf.Reader

namespace RocmCli
namespace Gguf

open Scan Text

/-!
# Reading metadata values

Each reader finds exactly the encodings of the values of its type.  A value
that is passed over is unread from where the last seek in it begins, so an
array of strings or of arrays is unread only in its last element.
-/

/-! ## Numbers, lengths and strings -/

theorem u32_scans :
    Scans maxHeaderBytes Reader.u32 (Layout.bits 4) fun bits found => found = bits.toNat := by
  apply ((scans_bits GgufError.truncated 4).still fun buf => scans_pure (leNat buf)).restate
  intro bits found
  rw [exists_eq_left, leNat_bits]

theorem u64_scans :
    Scans maxHeaderBytes Reader.u64 (Layout.bits 8) fun bits found => found = bits.toNat := by
  apply ((scans_bits GgufError.truncated 8).still fun buf => scans_pure (leNat buf)).restate
  intro bits found
  rw [exists_eq_left, leNat_bits]

theorem skip_scans (count : Nat) :
    Scans maxHeaderBytes (Reader.skip count) Layout.jumped fun bytes _ => bytes.length = count := by
  unfold Reader.skip
  split
  next tooLong =>
    apply scans_throw
    rintro bytes _ rfl
    exact Nat.not_le.mpr tooLong
  next => exact scans_advance count

theorem checkSizeAfter_scans (item : Nat) :
    Scans maxHeaderBytes (Reader.checkSizeAfter item) Layout.nothing
      fun _ found => found = () := by
  unfold Reader.checkSizeAfter
  split
  · exact scans_within _
  · exact scans_pure ()

/-- The bytes of a text, passed over if there are too many to keep. -/
def textLayout (keepUpTo : Nat) : Layout Bytes where
  encode := id
  unread text := if keepUpTo < text.length then text.length else 0
  unread_le := by
    intro text
    change (if keepUpTo < text.length then text.length else 0) ≤ text.length
    split <;> omega

/-- A length and a text. -/
def stringLayout (keepUpTo : Nat) : Layout Bytes := (textLayout keepUpTo).tagged 8 List.length

/-- What a string reads as. -/
def readString (keepUpTo : Nat) (text : Bytes) : Option String :=
  if keepUpTo < text.length then none else some (fromUtf8Lossy text)

theorem length_fits {length : Nat} (small : length ≤ maxHeaderBytes) : length < 256 ^ 8 :=
  Nat.lt_of_le_of_lt small (by decide)

theorem string_scans (keepUpTo : Nat) :
    Scans maxHeaderBytes (Reader.string keepUpTo) (stringLayout keepUpTo) fun text found =>
      found = readString keepUpTo text := by
  unfold Reader.string stringLayout
  apply u64_scans.tagged
  case small => exact fun text small => length_fits small
  intro len
  by_cases tooLong : keepUpTo < len
  · rw [if_pos tooLong]
    apply ((skip_scans len).still fun _ => scans_pure none).recast
    · rintro text found ⟨_, hasLength, isFound⟩
      refine ⟨text, ⟨hasLength, ?_⟩, rfl, ?_⟩
      · rw [readString, if_pos (hasLength ▸ tooLong), isFound]
      · exact if_pos (hasLength ▸ tooLong)
    · rintro text found ⟨hasLength, isFound⟩ _
      rw [readString, if_pos (hasLength ▸ tooLong)] at isFound
      exact ⟨text, ⟨(), hasLength, isFound⟩, rfl, (if_pos (hasLength ▸ tooLong)).symm⟩
  · rw [if_neg tooLong]
    apply ((scans_readExact GgufError.truncated len).still fun buf =>
      scans_pure (some (fromUtf8Lossy buf))).recast
    · rintro text found ⟨_, ⟨hasLength, rfl⟩, isFound⟩
      refine ⟨_, ⟨hasLength, ?_⟩, rfl, ?_⟩
      · rw [readString, if_neg (hasLength ▸ tooLong), isFound]
      · exact if_neg (hasLength ▸ tooLong)
    · rintro text found ⟨hasLength, isFound⟩ _
      rw [readString, if_neg (hasLength ▸ tooLong)] at isFound
      exact ⟨text, ⟨text, ⟨hasLength, rfl⟩, isFound⟩, rfl, (if_neg (hasLength ▸ tooLong)).symm⟩

/-! ## Values of fixed width -/

/-- How the bytes of a type are read. -/
def FixedType.num : FixedType -> Num
  | uint8 | uint16 | uint32 | uint64 | bool => .unsigned
  | int8 | int16 | int32 | int64 => .signed
  | float32 | float64 => .other

theorem FixedType.num_other (type : FixedType) : (type.num != .other) = type.isInteger := by
  cases type <;> rfl

theorem fixedWidth_typeId (type : FixedType) :
    fixedWidth type.typeId = some (type.width, type.num) := by
  cases type <;> rfl

theorem exists_fixedType {typeId width : Nat} {num : Num}
    (isFixed : fixedWidth typeId = some (width, num)) :
    exists type : FixedType, type.typeId = typeId ∧ type.width = width ∧ type.num = num := by
  unfold fixedWidth at isFixed
  split at isFixed <;> cases isFixed
  · exact ⟨.uint8, rfl, rfl, rfl⟩
  · exact ⟨.bool, rfl, rfl, rfl⟩
  · exact ⟨.int8, rfl, rfl, rfl⟩
  · exact ⟨.uint16, rfl, rfl, rfl⟩
  · exact ⟨.int16, rfl, rfl, rfl⟩
  · exact ⟨.uint32, rfl, rfl, rfl⟩
  · exact ⟨.int32, rfl, rfl, rfl⟩
  · exact ⟨.float32, rfl, rfl, rfl⟩
  · exact ⟨.uint64, rfl, rfl, rfl⟩
  · exact ⟨.int64, rfl, rfl, rfl⟩
  · exact ⟨.float64, rfl, rfl, rfl⟩

theorem not_fixedType {typeId : Nat} (notFixed : fixedWidth typeId = none) (type : FixedType) :
    type.typeId ≠ typeId := by
  rintro rfl
  rw [fixedWidth_typeId] at notFixed
  cases notFixed

theorem decodeInt_signed {width : Nat} (narrow : 8 * width ≤ 64) (bits : BitVec (8 * width)) :
    decodeInt (leBytes width bits.toNat) width .signed =
      if 0 ≤ bits.toInt then some bits.toInt.toNat else none := by
  unfold decodeInt
  rw [leNat_bits bits, ← shift_bits narrow bits]

theorem decodeInt_bits (type : FixedType) (bits : BitVec (8 * type.width)) :
    decodeInt (leBytes type.width bits.toNat) type.width type.num = type.integer bits := by
  cases type with
  | uint8 | uint16 | uint32 | uint64 | bool => exact congrArg some (leNat_bits bits)
  | int8 | int16 | int32 | int64 => exact decodeInt_signed (by decide) bits
  | float32 | float64 => rfl

theorem scalar_scans (type : FixedType) :
    Scans maxHeaderBytes (Reader.scalar type.width type.num) (Layout.bits type.width)
      fun bits found => found = (type.integer bits).elim .skipped .uint := by
  apply ((scans_bits GgufError.truncated type.width).still fun buf =>
    scans_pure ((decodeInt buf type.width type.num).elim Value.skipped Value.uint)).restate
  intro bits found
  rw [exists_eq_left, decodeInt_bits]

/-! ## Arrays -/

/-- The elements kept so far, after one more. -/
def keepElement (type : FixedType) (values : List Nat × Bool) (bits : BitVec (8 * type.width)) :
    List Nat × Bool :=
  (type.integer bits).elim (values.1, false) fun value => (values.1 ++ [value], values.2)

theorem foldl_keepElement_usable (type : FixedType) (values : List Nat × Bool)
    (elements : List (BitVec (8 * type.width))) :
    (elements.foldl (keepElement type) values).2 =
      (values.2 && (elements.mapM type.integer).isSome) := by
  induction elements generalizing values with
  | nil => simp
  | cons bits rest ih =>
      rw [List.foldl_cons, ih, keepElement, List.mapM_cons]
      cases type.integer bits with
      | none => simp
      | some value => cases rest.mapM type.integer <;> simp

variable {type : FixedType} {elements : List (BitVec (8 * type.width))}

theorem foldl_keepElement {values : List Nat × Bool} {integers : List Nat}
    (areIntegers : elements.mapM type.integer = some integers) :
    (elements.foldl (keepElement type) values).1 = values.1 ++ integers := by
  induction elements generalizing values integers with
  | nil =>
      cases areIntegers
      simp
  | cons bits rest ih =>
      rw [List.mapM_cons] at areIntegers
      rw [List.foldl_cons, keepElement]
      cases isValue : type.integer bits with
      | none =>
          rw [isValue] at areIntegers
          cases areIntegers
      | some value =>
          rw [isValue] at areIntegers
          cases areRest : rest.mapM type.integer with
          | none =>
              rw [areRest] at areIntegers
              cases areIntegers
          | some later =>
              rw [areRest] at areIntegers
              cases areIntegers
              rw [ih areRest]
              simp

/-- The kept elements are the integers of the array. -/
theorem kept_integers (type : FixedType) (elements : List (BitVec (8 * type.width))) :
    (let values := elements.foldl (keepElement type) ([], true)
      if values.2 then Value.ints values.1 else .skipped) =
      (elements.mapM type.integer).elim .skipped .ints := by
  simp only [foldl_keepElement_usable, Bool.true_and]
  cases areIntegers : elements.mapM type.integer with
  | none => rfl
  | some integers => simp [foldl_keepElement areIntegers]

/-- The elements of an array of fixed width: they are passed over in one go
unless they are kept. -/
def scalarsLayout (type : FixedType) (keep : Bool) : Layout (List (BitVec (8 * type.width))) where
  encode elements := elements.flatMap fun bits => leBytes type.width bits.toNat
  unread elements :=
    if keep && type.isInteger && elements.length ≤ maxKeptArray then 0
    else elements.length * type.width
  unread_le := by
    intro elements
    rw [length_flatMap_leBytes]
    split <;> omega

namespace ArrayOf

variable {Inner : Type} {nests : Bool}

/-- What an array reads as. -/
def read (keep : Bool) (array : ArrayOf Inner nests) : Value :=
  if keep && array.count ≤ maxKeptArray then array.integers.elim .skipped .ints else .skipped

end ArrayOf

/-- What an array of fixed width reads as. -/
def readScalars (type : FixedType) (keep : Bool) (elements : List (BitVec (8 * type.width))) :
    Value :=
  (ArrayOf.scalars type elements : ArrayOf Empty false).read keep

theorem readScalars_kept {keep : Bool}
    (kept : (keep && type.isInteger && elements.length ≤ maxKeptArray) = true) :
    readScalars type keep elements = (elements.mapM type.integer).elim .skipped .ints := by
  simp only [Bool.and_eq_true] at kept
  rw [readScalars, ArrayOf.read, ArrayOf.integers, if_pos kept.1.2, kept.1.1, Bool.true_and]
  exact if_pos kept.2

theorem readScalars_passed {keep : Bool}
    (passed : ¬ (keep && type.isInteger && elements.length ≤ maxKeptArray) = true) :
    readScalars type keep elements = .skipped := by
  rw [readScalars, ArrayOf.read, ArrayOf.integers]
  change ¬ (keep && type.isInteger && decide (elements.length ≤ maxKeptArray)) = true at passed
  change (if (keep && decide (elements.length ≤ maxKeptArray)) = true then _ else _) = _
  cases isInteger : type.isInteger with
  | false => simp
  | true =>
      rw [isInteger, Bool.and_true] at passed
      rw [if_neg passed]

theorem keptElement_scans (type : FixedType) (item : Nat) (values : List Nat × Bool) :
    Scans maxHeaderBytes (Reader.keptElement type.width type.num item values)
      (Layout.bits type.width) fun bits next => next = keepElement type values bits := by
  have each (buf : Bytes) (rest : Reader (List Nat × Bool))
      (isRest : rest = (decodeInt buf type.width type.num).elim (pure (values.1, false))
        fun value => pure (values.1 ++ [value], values.2)) :
      Scans maxHeaderBytes rest Layout.nothing fun _ next =>
        next = (decodeInt buf type.width type.num).elim (values.1, false) fun value =>
          (values.1 ++ [value], values.2) := by
    subst isRest
    cases decodeInt buf type.width type.num with
    | none => exact scans_pure _
    | some value => exact scans_pure _
  refine ((scans_bits GgufError.truncated type.width).still fun buf =>
    each buf _ (by cases decodeInt buf type.width type.num <;> rfl)).restate ?_
  intro bits next
  rw [exists_eq_left, decodeInt_bits]
  rfl

theorem fixedArray_scans (type : FixedType) (len : Nat) (keep : Bool) :
    Scans maxHeaderBytes (Reader.fixedArray type.width type.num len keep)
      (scalarsLayout type keep)
      fun elements found => elements.length = len ∧ found = readScalars type keep elements := by
  unfold Reader.fixedArray
  rw [type.num_other]
  by_cases kept : (keep && type.isInteger && decide (len ≤ maxKeptArray)) = true
  · rw [if_pos kept]
    have items := scans_forRange (keptElement_scans type) len 0 ([], true)
    apply Scans.recast (items.still fun values =>
      scans_pure (if values.2 then Value.ints values.1 else .skipped))
    · rintro elements found ⟨values, ⟨rfl, steps⟩, rfl⟩
      refine ⟨elements, ⟨rfl, ?_⟩, rfl, ?_⟩
      · rw [steps_function.mp steps, readScalars_kept kept]
        exact kept_integers type elements
      · exact (if_pos kept).trans (Layout.listUnread_of_read (fun _ => rfl) elements).symm
    · rintro elements found ⟨rfl, rfl⟩ _
      refine ⟨elements, ⟨_, ⟨rfl, steps_function.mpr rfl⟩, ?_⟩, rfl, ?_⟩
      · rw [readScalars_kept kept]
        exact (kept_integers type elements).symm
      · exact (Layout.listUnread_of_read (fun _ => rfl) elements).trans (if_pos kept).symm
  · rw [if_neg kept]
    split
    next tooLong =>
      apply scans_throw
      rintro elements found ⟨rfl, -⟩
      have fits : maxHeaderBytes < maxU64 := by decide
      change ¬ (elements.flatMap _).length ≤ maxHeaderBytes
      rw [length_flatMap_leBytes]
      omega
    next =>
      apply Scans.recast ((skip_scans (len * type.width)).still fun _ => scans_pure Value.skipped)
      · rintro bytes found ⟨_, hasLength, rfl⟩
        rcases exists_elements hasLength with ⟨elements, hasCount, areElements⟩
        subst hasCount
        refine ⟨elements, ⟨rfl, (readScalars_passed kept).symm⟩, areElements, ?_⟩
        · exact (if_neg kept).trans hasLength.symm
      · rintro elements found ⟨rfl, rfl⟩ _
        refine ⟨_, ⟨(), length_flatMap_leBytes elements, readScalars_passed kept⟩, rfl, ?_⟩
        exact (length_flatMap_leBytes elements).trans (if_neg kept).symm

/-- A string that is passed over, and its length. -/
def skippedString : Layout Bytes := Layout.jumped.tagged 8 List.length

theorem skipString_scans (item : Nat) (state : Unit) :
    Scans maxHeaderBytes (Reader.skipString item state) skippedString fun _ _ => True := by
  unfold Reader.skipString skippedString
  apply u64_scans.tagged
  case small => exact fun text small => length_fits small
  intro len
  apply ((skip_scans len).still fun _ => checkSizeAfter_scans item).restate
  intro text found
  exact ⟨fun isText => ⟨isText.choose_spec.1, trivial⟩, fun isText => ⟨(), isText.1, rfl⟩⟩

theorem skipArray_scans {Inner : Type} {inner : Layout Inner} {reader : Reader Value}
    {readInner : Inner -> Value}
    (scans : Scans maxHeaderBytes reader inner fun item found => found = readInner item)
    (item : Nat) (state : Unit) :
    Scans maxHeaderBytes (Reader.skipArray reader item state) inner fun _ _ => True := by
  apply (scans.still fun _ => checkSizeAfter_scans item).restate
  intro array found
  exact ⟨fun _ => trivial, fun _ => ⟨readInner array, rfl, rfl⟩⟩

/-- Elements that are passed over one by one. -/
theorem passOver_scans {X : Type} {layout : Layout X} {body : Nat -> Unit -> Reader Unit}
    (each : forall item state, Scans maxHeaderBytes (body item state) layout fun _ _ => True)
    (len : Nat) :
    Scans maxHeaderBytes (do forRange body len 0 (); return Value.skipped) layout.list
      fun elements found => elements.length = len ∧ found = .skipped := by
  have counted (state : Unit) (elements : List X) : Steps (fun _ _ _ => True) state elements () := by
    induction elements with
    | nil => rfl
    | cons element rest ih => exact ⟨(), trivial, ih⟩
  apply Scans.restate ((scans_forRange each len 0 ()).still fun _ => scans_pure Value.skipped)
  intro elements found
  constructor
  · rintro ⟨_, ⟨hasCount, -⟩, isFound⟩
    exact ⟨hasCount, isFound⟩
  · rintro ⟨hasCount, isFound⟩
    exact ⟨(), ⟨hasCount, counted () elements⟩, isFound⟩

theorem skippedString_someRead (text : Bytes) :
    skippedString.unread text < (skippedString.encode text).length := by
  change text.length < (leBytes 8 text.length ++ text).length
  rw [List.length_append, length_leBytes]
  omega

/-- How many bytes at the end of an array are passed over. -/
def ArrayOf.skippedEnd {Inner : Type} {nests : Bool} (keep : Bool) (innerEnd : Inner -> Nat) :
    ArrayOf Inner nests -> Nat
  | scalars type elements =>
      if keep && type.isInteger && elements.length ≤ maxKeptArray then 0
      else elements.length * type.width
  | strings elements => elements.getLast?.elim 0 List.length
  | arrays _ elements => elements.getLast?.elim 0 innerEnd

section ArrayOf

variable {Inner : Type} {nests : Bool} (inner : Layout Inner)
  (someRead : forall item, inner.unread item < (inner.encode item).length)

/-- The elements of an array. -/
def elementsLayout (keep : Bool) : Layout (ArrayOf Inner nests) where
  encode := ArrayOf.encodeElements inner.encode
  unread := ArrayOf.skippedEnd keep inner.unread
  unread_le := by
    intro array
    cases array with
    | scalars type elements => exact (scalarsLayout type keep).unread_le elements
    | strings elements =>
        have few := skippedString.list.unread_le elements
        change skippedString.listUnread elements ≤ _ at few
        rwa [Layout.listUnread_eq skippedString_someRead] at few
    | arrays allowed elements =>
        have few := inner.list.unread_le elements
        change inner.listUnread elements ≤ _ at few
        rwa [Layout.listUnread_eq someRead] at few

/-- An array: the type of its elements, their number and the elements. -/
def arrayOfLayout (keep : Bool) : Layout (ArrayOf Inner nests) :=
  ((elementsLayout inner someRead keep).tagged 8 ArrayOf.count).tagged 4 ArrayOf.elementTypeId

theorem arrayOf_someRead (keep : Bool) (array : ArrayOf Inner nests) :
    (arrayOfLayout inner someRead keep).unread array <
      ((arrayOfLayout inner someRead keep).encode array).length := by
  have few := (elementsLayout inner someRead keep).unread_le array
  change (elementsLayout inner someRead keep).unread array <
    (leBytes 4 array.elementTypeId ++ (leBytes 8 array.count ++ _)).length
  rw [List.length_append, List.length_append, length_leBytes, length_leBytes]
  exact Nat.lt_of_le_of_lt few (by omega)

theorem count_le_encoded (some : forall item, 0 < (inner.encode item).length)
    (array : ArrayOf Inner nests) :
    array.count ≤ (array.encodeElements inner.encode).length := by
  have atLeast {X : Type} (encode : X -> Bytes) (some : forall item, 0 < (encode item).length)
      (items : List X) : items.length ≤ (items.flatMap encode).length := by
    induction items with
    | nil => exact Nat.zero_le _
    | cons item rest ih =>
        have first := some item
        rw [List.flatMap_cons, List.length_append, List.length_cons]
        omega
  cases array with
  | scalars type elements =>
      apply atLeast
      intro bits
      rw [length_leBytes]
      exact type.width_pos
  | strings elements =>
      apply atLeast
      exact fun text => Nat.zero_lt_of_lt (skippedString_someRead text)
  | arrays allowed elements =>
      apply atLeast
      exact some

theorem elementTypeId_fits (array : ArrayOf Inner nests) : array.elementTypeId < 256 ^ 4 := by
  cases array with
  | scalars type elements => exact type.typeId_fits
  | strings elements => exact stringTypeId_fits
  | arrays allowed elements => exact arrayTypeId_fits

theorem read_strings (keep : Bool) (elements : List Bytes) :
    (ArrayOf.strings elements : ArrayOf Inner nests).read keep = .skipped :=
  ite_self _

theorem read_arrays (keep : Bool) (allowed : nests = true) (elements : List Inner) :
    (ArrayOf.arrays allowed elements).read keep = .skipped :=
  ite_self _

theorem arrayOf_scans {nested : Option (Reader Value)} {readInner : Inner -> Value}
    (nesting : nests = nested.isSome)
    (innerScans : forall reader, nested = some reader ->
      Scans maxHeaderBytes reader inner fun item found => found = readInner item)
    (keep : Bool) :
    Scans maxHeaderBytes (Reader.arrayOf nested keep) (arrayOfLayout inner someRead keep)
      fun (array : ArrayOf Inner nests) found => found = array.read keep := by
  unfold Reader.arrayOf arrayOfLayout
  apply u32_scans.tagged
  case small => exact fun array _ => elementTypeId_fits array
  intro elementType
  apply u64_scans.tagged
  case small =>
    intro array small
    have some (item : Inner) := Nat.zero_lt_of_lt (someRead item)
    exact length_fits (Nat.le_trans (count_le_encoded inner some array) small)
  intro len
  cases isFixed : fixedWidth elementType with
  | some fixed =>
      rcases fixed with ⟨width, num⟩
      rcases exists_fixedType isFixed with ⟨type, rfl, rfl, rfl⟩
      apply (fixedArray_scans type len keep).recast
      · rintro elements found ⟨hasCount, isFound⟩
        exact ⟨.scalars type elements, ⟨hasCount, rfl, isFound⟩, rfl, rfl⟩
      · rintro array found ⟨hasCount, hasType, isFound⟩ _
        cases array with
        | scalars other elements =>
            cases FixedType.typeId_injective hasType
            exact ⟨elements, ⟨hasCount, isFound⟩, rfl, rfl⟩
        | strings elements => cases type <;> cases hasType
        | arrays allowed elements => cases type <;> cases hasType
  | none =>
      change Scans _ (if elementType = 8 then _ else _) _ _
      by_cases isString : elementType = 8
      · rw [if_pos isString]
        apply (passOver_scans skipString_scans len).recast
        · rintro elements found ⟨hasCount, isFound⟩
          refine ⟨.strings elements, ⟨hasCount, isString.symm, ?_⟩, rfl, ?_⟩
          · rw [read_strings, isFound]
          · exact (Layout.listUnread_eq skippedString_someRead elements).symm
        · rintro array found ⟨hasCount, hasType, isFound⟩ _
          cases array with
          | scalars other elements => exact absurd hasType (not_fixedType isFixed other)
          | strings elements =>
              rw [read_strings] at isFound
              exact ⟨elements, ⟨hasCount, isFound⟩, rfl,
                Layout.listUnread_eq skippedString_someRead elements⟩
          | arrays allowed elements =>
              rw [isString] at hasType
              cases hasType
      · rw [if_neg isString]
        by_cases isArray : elementType = 9
        · rw [if_pos isArray]
          cases nested with
          | none =>
              apply scans_throw
              rintro array found ⟨-, hasType, -⟩
              cases array with
              | scalars other elements => exact absurd hasType (not_fixedType isFixed other)
              | strings elements => exact absurd hasType.symm isString
              | arrays allowed elements => cases nesting.symm.trans allowed
          | some reader =>
              apply (passOver_scans (skipArray_scans (innerScans reader rfl)) len).recast
              · rintro elements found ⟨hasCount, isFound⟩
                refine ⟨.arrays nesting elements, ⟨hasCount, isArray.symm, ?_⟩, rfl, ?_⟩
                · rw [read_arrays, isFound]
                · exact (Layout.listUnread_eq someRead elements).symm
              · rintro array found ⟨hasCount, hasType, isFound⟩ _
                cases array with
                | scalars other elements => exact absurd hasType (not_fixedType isFixed other)
                | strings elements => exact absurd hasType.symm isString
                | arrays allowed elements =>
                    rw [read_arrays] at isFound
                    exact ⟨elements, ⟨hasCount, isFound⟩, rfl,
                      Layout.listUnread_eq someRead elements⟩
        · rw [if_neg isArray]
          apply scans_throw
          rintro array found ⟨-, hasType, -⟩
          cases array with
          | scalars other elements => exact absurd hasType (not_fixedType isFixed other)
          | strings elements => exact absurd hasType.symm isString
          | arrays allowed elements => exact absurd hasType.symm isArray

end ArrayOf

/-! ## Nested arrays -/

def noLayout : Layout Empty where
  encode inner := nomatch inner
  unread inner := nomatch inner
  unread_le inner := nomatch inner

/-- How many bytes at the end of an array are passed over.  An array in
another is never kept. -/
def arraySkippedEnd : (levels : Nat) -> Bool -> NestedArray levels -> Nat
  | 0, keep => ArrayOf.skippedEnd keep fun inner => nomatch inner
  | levels + 1, keep => ArrayOf.skippedEnd keep (arraySkippedEnd levels false)

theorem array_someRead (levels : Nat) (keep : Bool) (array : NestedArray levels) :
    arraySkippedEnd levels keep array < (encodeArray levels array).length := by
  induction levels generalizing keep with
  | zero => exact arrayOf_someRead noLayout nofun keep array
  | succ levels ih =>
      let inner : Layout (NestedArray levels) :=
        ⟨encodeArray levels, arraySkippedEnd levels false,
          fun item => Nat.le_of_lt (ih false item)⟩
      exact arrayOf_someRead inner (ih false) keep array

def arrayLayout (levels : Nat) (keep : Bool) : Layout (NestedArray levels) where
  encode := encodeArray levels
  unread := arraySkippedEnd levels keep
  unread_le array := Nat.le_of_lt (array_someRead levels keep array)

/-- What an array reads as. -/
def readArray : (levels : Nat) -> Bool -> NestedArray levels -> Value
  | 0, keep => ArrayOf.read keep
  | _ + 1, keep => ArrayOf.read keep

theorem array_scans (levels : Nat) (keep : Bool) :
    Scans maxHeaderBytes (Reader.array levels keep) (arrayLayout levels keep)
      fun array found => found = readArray levels keep array := by
  induction levels generalizing keep with
  | zero =>
      have noReader (reader : Reader Value) (isReader : none = some reader) :
          Scans maxHeaderBytes reader noLayout fun _ found => found = .skipped :=
        nomatch isReader
      exact arrayOf_scans noLayout nofun rfl noReader keep
  | succ levels ih =>
      apply arrayOf_scans (arrayLayout levels false) (array_someRead levels false) rfl
      rintro reader ⟨⟩
      exact ih false

/-! ## Values -/

namespace MetadataValue

variable {levels : Nat}

/-- What a value reads as. -/
def read (keep : Bool) : MetadataValue levels -> Value
  | scalar type bits => (type.integer bits).elim .skipped .uint
  | string text => (readString maxKeptString text).elim .skipped .str
  | array elements => readArray levels keep elements

/-- How many bytes at the end of a value are passed over. -/
def skippedEnd (keep : Bool) : MetadataValue levels -> Nat
  | scalar _ _ => 0
  | string text => if maxKeptString < text.length then text.length else 0
  | array elements => arraySkippedEnd levels keep elements

end MetadataValue

theorem value_someRead {levels : Nat} (keep : Bool) (value : MetadataValue levels) :
    value.skippedEnd keep < value.encode.length := by
  cases value with
  | scalar type bits =>
      change 0 < (leBytes type.width bits.toNat).length
      rw [length_leBytes]
      exact type.width_pos
  | string text =>
      change (if _ then _ else _) < (leBytes 8 text.length ++ text).length
      rw [List.length_append, length_leBytes]
      split <;> omega
  | array elements => exact array_someRead levels keep elements

/-- The value of an entry. -/
def valueLayout (levels : Nat) (keep : Bool) : Layout (MetadataValue levels) where
  encode := MetadataValue.encode
  unread := MetadataValue.skippedEnd keep
  unread_le value := Nat.le_of_lt (value_someRead keep value)

theorem value_scans (valueType : Nat) (keep : Bool) :
    Scans maxHeaderBytes (Reader.value valueType keep) (valueLayout maxArrayDepth keep)
      fun value found => value.typeId = valueType ∧ found = value.read keep := by
  unfold Reader.value
  cases isFixed : fixedWidth valueType with
  | some fixed =>
      rcases fixed with ⟨width, num⟩
      rcases exists_fixedType isFixed with ⟨type, rfl, rfl, rfl⟩
      apply (scalar_scans type).recast
      · rintro bits found isFound
        exact ⟨.scalar type bits, ⟨rfl, isFound⟩, rfl, rfl⟩
      · rintro value found ⟨hasType, isFound⟩ _
        cases value with
        | scalar other bits =>
            cases FixedType.typeId_injective hasType
            exact ⟨bits, isFound, rfl, rfl⟩
        | string text => cases type <;> cases hasType
        | array elements => cases type <;> cases hasType
  | none =>
      change Scans _ (if valueType = 8 then _ else _) _ _
      by_cases isString : valueType = 8
      · rw [if_pos isString]
        apply ((string_scans maxKeptString).still fun text =>
          scans_pure (text.elim Value.skipped Value.str)).recast
        · rintro text found ⟨_, rfl, isFound⟩
          exact ⟨.string text, ⟨isString.symm, isFound⟩, rfl, rfl⟩
        · rintro value found ⟨hasType, isFound⟩ _
          cases value with
          | scalar other bits => exact absurd hasType (not_fixedType isFixed other)
          | string text => exact ⟨text, ⟨_, rfl, isFound⟩, rfl, rfl⟩
          | array elements =>
              rw [isString] at hasType
              cases hasType
      · rw [if_neg isString]
        by_cases isArray : valueType = 9
        · rw [if_pos isArray]
          apply (array_scans maxArrayDepth keep).recast
          · rintro elements found isFound
            exact ⟨.array elements, ⟨isArray.symm, isFound⟩, rfl, rfl⟩
          · rintro value found ⟨hasType, isFound⟩ _
            cases value with
            | scalar other bits => exact absurd hasType (not_fixedType isFixed other)
            | string text => exact absurd hasType.symm isString
            | array elements => exact ⟨elements, isFound, rfl, rfl⟩
        · rw [if_neg isArray]
          apply scans_throw
          rintro value found ⟨hasType, -⟩
          cases value with
          | scalar other bits => exact absurd hasType (not_fixedType isFixed other)
          | string text => exact absurd hasType.symm isString
          | array elements => exact absurd hasType.symm isArray

end Gguf
end RocmCli
