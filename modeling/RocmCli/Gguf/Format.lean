import RocmCli.Support.Scan

namespace RocmCli
namespace Gguf

open Scan

/-!
# The GGUF header format

A header is a magic, a version, two counts, the metadata entries and the
tensor records, with every number little-endian.  A metadata value has one of
thirteen types: eleven of fixed width, strings, and arrays.  Arrays nest, here
up to a number of levels in their type.
-/

/-- The types of fixed width. -/
inductive FixedType where
  | uint8 | int8 | uint16 | int16 | uint32 | int32 | float32 | bool | uint64 | int64 | float64
  deriving DecidableEq, Repr

namespace FixedType

def typeId : FixedType -> Nat
  | uint8 => 0 | int8 => 1 | uint16 => 2 | int16 => 3 | uint32 => 4 | int32 => 5 | float32 => 6
  | bool => 7 | uint64 => 10 | int64 => 11 | float64 => 12

/-- The width in bytes. -/
def width : FixedType -> Nat
  | uint8 | int8 | bool => 1
  | uint16 | int16 => 2
  | uint32 | int32 | float32 => 4
  | uint64 | int64 | float64 => 8

def isInteger : FixedType -> Bool
  | float32 | float64 => false
  | _ => true

/-- The non-negative integer in a bit pattern; a boolean is its byte. -/
def integer (type : FixedType) (bits : BitVec (8 * type.width)) : Option Nat :=
  match type with
  | uint8 | uint16 | uint32 | uint64 | bool => some bits.toNat
  | int8 | int16 | int32 | int64 => if 0 ≤ bits.toInt then some bits.toInt.toNat else none
  | float32 | float64 => none

theorem width_pos (type : FixedType) : 0 < type.width := by
  cases type <;> decide

theorem typeId_injective : Function.Injective typeId := by
  intro left right
  cases left <;> cases right <;> decide

theorem typeId_fits (type : FixedType) : type.typeId < 256 ^ 4 := by
  cases type <;> decide

end FixedType

def stringTypeId : Nat := 8

def arrayTypeId : Nat := 9

theorem stringTypeId_fits : stringTypeId < 256 ^ 4 := by decide

theorem arrayTypeId_fits : arrayTypeId < 256 ^ 4 := by decide

/-- An array, whose elements may be arrays if it may nest. -/
inductive ArrayOf (Inner : Type) (nests : Bool) where
  | scalars (type : FixedType) (elements : List (BitVec (8 * type.width)))
  | strings (elements : List Bytes)
  | arrays (allowed : nests = true) (elements : List Inner)

/-- Arrays that hold arrays up to this many levels deep. -/
def NestedArray : Nat -> Type
  | 0 => ArrayOf Empty false
  | levels + 1 => ArrayOf (NestedArray levels) true

def encodeString (text : Bytes) : Bytes := leBytes 8 text.length ++ text

namespace ArrayOf

variable {Inner : Type} {nests : Bool}

def elementTypeId : ArrayOf Inner nests -> Nat
  | scalars type _ => type.typeId
  | strings _ => stringTypeId
  | arrays _ _ => arrayTypeId

def count : ArrayOf Inner nests -> Nat
  | scalars _ elements => elements.length
  | strings elements => elements.length
  | arrays _ elements => elements.length

def encodeElements (encodeInner : Inner -> Bytes) : ArrayOf Inner nests -> Bytes
  | scalars type elements => elements.flatMap fun bits => leBytes type.width bits.toNat
  | strings elements => elements.flatMap encodeString
  | arrays _ elements => elements.flatMap encodeInner

/-- The type of the elements, their number, and the elements. -/
def encode (encodeInner : Inner -> Bytes) (array : ArrayOf Inner nests) : Bytes :=
  leBytes 4 array.elementTypeId ++ (leBytes 8 array.count ++ array.encodeElements encodeInner)

/-- The elements of an integer array with no negative element. -/
def integers : ArrayOf Inner nests -> Option (List Nat)
  | scalars type elements =>
      if type.isInteger then elements.mapM type.integer else none
  | strings _ | arrays _ _ => none

end ArrayOf

def encodeArray : (levels : Nat) -> NestedArray levels -> Bytes
  | 0 => ArrayOf.encode fun inner => nomatch inner
  | levels + 1 => ArrayOf.encode (encodeArray levels)

def arrayIntegers : (levels : Nat) -> NestedArray levels -> Option (List Nat)
  | 0 => ArrayOf.integers
  | _ + 1 => ArrayOf.integers

def arrayCount : (levels : Nat) -> NestedArray levels -> Nat
  | 0 => ArrayOf.count
  | _ + 1 => ArrayOf.count

/-- A value of one of the thirteen types. -/
inductive MetadataValue (levels : Nat) where
  | scalar (type : FixedType) (bits : BitVec (8 * type.width))
  | string (text : Bytes)
  | array (elements : NestedArray levels)

namespace MetadataValue

variable {levels : Nat}

def typeId : MetadataValue levels -> Nat
  | scalar type _ => type.typeId
  | string _ => stringTypeId
  | array _ => arrayTypeId

def encode : MetadataValue levels -> Bytes
  | scalar type bits => leBytes type.width bits.toNat
  | string text => encodeString text
  | array elements => encodeArray levels elements

end MetadataValue

structure Entry (levels : Nat) where
  key : Bytes
  value : MetadataValue levels

def Entry.encode {levels : Nat} (entry : Entry levels) : Bytes :=
  encodeString entry.key ++ (leBytes 4 entry.value.typeId ++ entry.value.encode)

structure TensorRecord where
  name : Bytes
  dims : List (BitVec 64)
  ggmlType : BitVec 32
  offset : BitVec 64

def TensorRecord.encode (tensor : TensorRecord) : Bytes :=
  encodeString tensor.name ++ (leBytes 4 tensor.dims.length ++
    (tensor.dims.flatMap (fun dim => leBytes 8 dim.toNat) ++
      (leBytes 4 tensor.ggmlType.toNat ++ leBytes 8 tensor.offset.toNat)))

/-- Everything a header says. -/
structure HeaderContent (levels : Nat) where
  version : Nat
  entries : List (Entry levels)
  tensors : List TensorRecord

def magic : Bytes := [0x47, 0x47, 0x55, 0x46]

def HeaderContent.encode {levels : Nat} (content : HeaderContent levels) : Bytes :=
  magic ++ (leBytes 4 content.version ++ (leBytes 8 content.tensors.length ++
    (leBytes 8 content.entries.length ++
      (content.entries.flatMap Entry.encode ++ content.tensors.flatMap TensorRecord.encode))))

end Gguf
end RocmCli
