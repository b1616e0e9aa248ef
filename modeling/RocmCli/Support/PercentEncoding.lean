import Mathlib.Data.List.Basic

namespace RocmCli
namespace Percent

/-!
# Percent encoding

A text is written as the bytes of its UTF-8 form, each either as the
unreserved character it is or as a percent sign and two hexadecimal digits.
Reading takes the two digits back, and everything else as the byte it is.
-/

/-- The unreserved characters of a URL: letters, digits and four signs. -/
def isUnreserved (byte : UInt8) : Bool :=
  (48 ≤ byte && byte ≤ 57) || (65 ≤ byte && byte ≤ 90) || (97 ≤ byte && byte ≤ 122) ||
    byte == 45 || byte == 46 || byte == 95 || byte == 126

def hexDigit (value : UInt8) : Char :=
  if value < 10 then Char.ofNat (48 + value.toNat) else Char.ofNat (55 + value.toNat)

def hexValue (digit : Char) : Option UInt8 :=
  let code := digit.toNat
  if 48 ≤ code ∧ code ≤ 57 then some (UInt8.ofNat (code - 48))
  else if 65 ≤ code ∧ code ≤ 70 then some (UInt8.ofNat (code - 55))
  else if 97 ≤ code ∧ code ≤ 102 then some (UInt8.ofNat (code - 87))
  else none

def encodeByte (byte : UInt8) : List Char :=
  if isUnreserved byte then [Char.ofNat byte.toNat]
  else ['%', hexDigit (byte >>> 4), hexDigit (byte &&& 15)]

def encode (value : String) : String :=
  String.ofList (value.toUTF8.data.toList.flatMap encodeByte)

/-- The bytes a percent-encoded text stands for. -/
def decodeBytes : List Char -> Option (List UInt8)
  | [] => some []
  | '%' :: high :: low :: rest => do
      let high <- hexValue high
      let low <- hexValue low
      let rest <- decodeBytes rest
      return (high <<< 4 ||| low) :: rest
  | character :: rest =>
      if character = '%' ∨ 127 < character.toNat then none
      else (decodeBytes rest).map (UInt8.ofNat character.toNat :: ·)

def decode (value : String) : Option String :=
  (decodeBytes value.toList).bind (fun bytes => String.fromUTF8? ⟨bytes.toArray⟩)

/-! ## Reading what was written -/

theorem hexValue_hexDigit {value : UInt8} (small : value < 16) :
    hexValue (hexDigit value) = some value := by
  have all : forall code : Fin 16, hexValue (hexDigit (UInt8.ofNat code)) =
      some (UInt8.ofNat code) := by decide
  have isNat := all ⟨value.toNat, UInt8.lt_iff_toNat_lt.mp small⟩
  rwa [UInt8.ofNat_toNat] at isNat

theorem decodeBytes_unreserved {byte : UInt8} (unreserved : isUnreserved byte = true)
    (rest : List Char) :
    decodeBytes (Char.ofNat byte.toNat :: rest) = (decodeBytes rest).map (byte :: ·) := by
  have all : forall code : Fin 256, isUnreserved (UInt8.ofNat code) = true ->
      Char.ofNat (UInt8.ofNat code).toNat ≠ '%' ∧
        ¬ 127 < (Char.ofNat (UInt8.ofNat code).toNat).toNat ∧
          UInt8.ofNat (Char.ofNat (UInt8.ofNat code).toNat).toNat = UInt8.ofNat code := by
    decide +kernel
  have known := all ⟨byte.toNat, UInt8.toNat_lt byte⟩
  rw [UInt8.ofNat_toNat] at known
  rcases known unreserved with ⟨notSign, ascii, same⟩
  rw [decodeBytes, if_neg (not_or.mpr ⟨notSign, ascii⟩), same]
  intro high low more isSign
  exact absurd isSign notSign

theorem decodeBytes_encodeByte (byte : UInt8) (rest : List Char) :
    decodeBytes (encodeByte byte ++ rest) = (decodeBytes rest).map (byte :: ·) := by
  unfold encodeByte
  by_cases unreserved : isUnreserved byte = true
  · rw [if_pos unreserved]
    exact decodeBytes_unreserved unreserved rest
  · have halves : forall code : Fin 256, UInt8.ofNat code >>> 4 < 16 ∧ UInt8.ofNat code &&& 15 < 16 ∧
        (UInt8.ofNat code >>> 4) <<< 4 ||| (UInt8.ofNat code &&& 15) = UInt8.ofNat code := by
      decide +kernel
    have known := halves ⟨byte.toNat, UInt8.toNat_lt byte⟩
    rw [UInt8.ofNat_toNat] at known
    rcases known with ⟨highSmall, lowSmall, whole⟩
    rw [if_neg unreserved]
    simp only [List.cons_append, List.nil_append, decodeBytes, hexValue_hexDigit highSmall,
      hexValue_hexDigit lowSmall, Option.bind_eq_bind, Option.bind_some, whole]
    cases decodeBytes rest <;> rfl

theorem decodeBytes_encodeBytes (bytes : List UInt8) :
    decodeBytes (bytes.flatMap encodeByte) = some bytes := by
  induction bytes with
  | nil => rfl
  | cons byte rest ih =>
      rw [List.flatMap_cons, decodeBytes_encodeByte, ih]
      rfl

/-- Decoding gives an encoded text back. -/
theorem decode_encode (value : String) : decode (encode value) = some value := by
  unfold decode encode
  rw [String.toList_ofList, decodeBytes_encodeBytes, Option.bind_some, Array.toArray_toList]
  have valid : (⟨value.toUTF8.data⟩ : ByteArray).IsValidUTF8 := value.isValidUTF8
  rw [String.fromUTF8?, dif_pos valid]
  rfl

/-! ## What is written -/

/-- The characters of an encoded text. -/
def isWritten (character : Char) : Bool :=
  character.isAlphanum || character == '-' || character == '.' || character == '_' ||
    character == '~' || character == '%'

theorem isWritten_encode {value : String} {character : Char}
    (member : character ∈ (encode value).toList) : isWritten character = true := by
  have all : forall code : Fin 256, (encodeByte (UInt8.ofNat code)).all isWritten = true := by
    decide +kernel
  rw [encode, String.toList_ofList, List.mem_flatMap] at member
  rcases member with ⟨byte, _, written⟩
  have known := all ⟨byte.toNat, UInt8.toNat_lt byte⟩
  rw [UInt8.ofNat_toNat] at known
  exact List.all_eq_true.mp known character written

end Percent
end RocmCli
