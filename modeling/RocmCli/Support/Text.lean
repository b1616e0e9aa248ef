import RocmCli.Support.ErrorChain
import Mathlib

namespace RocmCli
namespace Text

/-!
# Text as the programs read it

Trimming is by the Unicode `White_Space` property.
-/

/-- The characters with the Unicode `White_Space` property. -/
def isWhitespace (character : Char) : Bool :=
  let code := character.toNat
  (0x09 ≤ code && code ≤ 0x0d) || code == 0x20 || code == 0x85 || code == 0xa0 ||
    code == 0x1680 || (0x2000 ≤ code && code ≤ 0x200a) || code == 0x2028 || code == 0x2029 ||
    code == 0x202f || code == 0x205f || code == 0x3000

/-- Drop the matching characters at both ends. -/
def trimMatches (drop : Char -> Bool) (value : String) : String :=
  String.ofList (((value.toList.dropWhile drop).reverse.dropWhile drop).reverse)

def trim (value : String) : String := trimMatches isWhitespace value

def requireNonempty (value fieldName : String) : Except ErrorChain Unit :=
  if trim value = "" then .error (ErrorChain.ofMessage s!"{fieldName} must not be empty")
  else .ok ()

def trimStart (value : String) : String := String.ofList (value.toList.dropWhile isWhitespace)

/-- Equality up to the case of the letters `A` to `Z`. -/
def eqIgnoreAsciiCase (left right : String) : Bool :=
  left.toList.map Char.toLower == right.toList.map Char.toLower

variable {left right : String}

theorem eqIgnoreAsciiCase_iff :
    eqIgnoreAsciiCase left right = true ↔
      left.toList.map Char.toLower = right.toList.map Char.toLower := beq_iff_eq

theorem eqIgnoreAsciiCase_refl (value : String) : eqIgnoreAsciiCase value value = true :=
  eqIgnoreAsciiCase_iff.mpr rfl

theorem eqIgnoreAsciiCase_symm (same : eqIgnoreAsciiCase left right = true) :
    eqIgnoreAsciiCase right left = true :=
  eqIgnoreAsciiCase_iff.mpr (eqIgnoreAsciiCase_iff.mp same).symm

theorem eqIgnoreAsciiCase_trans {middle : String} (first : eqIgnoreAsciiCase left middle = true)
    (second : eqIgnoreAsciiCase middle right = true) : eqIgnoreAsciiCase left right = true :=
  eqIgnoreAsciiCase_iff.mpr
    ((eqIgnoreAsciiCase_iff.mp first).trans (eqIgnoreAsciiCase_iff.mp second))

/-- The largest value of a 64-bit unsigned integer. -/
def maxU64 : Nat := 2 ^ 64 - 1

/-- Read a 64-bit unsigned integer: decimal digits after an optional plus. -/
def parseU64 (value : String) : Option Nat :=
  let digits := match value.toList with
    | '+' :: rest => rest
    | characters => characters
  if digits.isEmpty || !digits.all Char.isDigit then none
  else
    let number := digits.foldl (fun number digit => number * 10 + (digit.toNat - '0'.toNat)) 0
    if number ≤ maxU64 then some number else none

/-- The bytes of an ASCII text. -/
def asciiBytes (text : String) : List UInt8 :=
  text.toList.map fun character => UInt8.ofNat character.toNat

variable {character : Char}

/-- A property of the characters below a bound is checked code by code. -/
theorem forall_toNat_lt {bound : Nat} (property : Char -> Prop)
    (table : forall code, code < bound -> property (Char.ofNat code))
    (small : character.toNat < bound) : property character := by
  have read := table character.toNat small
  rwa [Char.ofNat_toNat] at read

theorem toLower_of_wide (wide : 127 < character.toNat) : character.toLower = character := by
  unfold Char.toLower
  apply dif_neg
  intro upper
  have last : 'Z'.val.toNat = 90 := rfl
  have bound : character.toNat ≤ 90 := by
    have inside := UInt32.le_iff_toNat_le.mp upper.2
    rwa [last] at inside
  omega

/-- Only letters have a letter as their lower case. -/
theorem eq_of_toLower_eq {target : Char} (notLetter : target.isAlpha = false)
    (lowered : character.toLower = target) : character = target := by
  by_cases ascii : character.toNat < 128
  · have letters : character.toLower.isAlpha = true ∨ character.toLower = character := by
      apply forall_toNat_lt (fun character => character.toLower.isAlpha = true ∨
        character.toLower = character) _ ascii
      decide
    rcases letters with letter | same
    · rw [lowered, notLetter] at letter
      exact absurd letter (by decide)
    · exact same.symm.trans lowered
  · exact (toLower_of_wide (by omega)).symm.trans lowered

/-! ## Trimming -/

/-- Dropping from the front stops at a character that is kept. -/
theorem dropWhile_stop {R : Type u} {drop : R -> Bool} {stop : R} (kept : drop stop = false)
    (front back : List R) :
    (front ++ stop :: back).dropWhile drop = front.dropWhile drop ++ stop :: back := by
  induction front with
  | nil => exact List.dropWhile_cons_of_neg (Bool.eq_false_iff.mp kept)
  | cons first front ih =>
      rw [List.cons_append]
      by_cases dropped : drop first = true
      · rw [List.dropWhile_cons_of_pos dropped, List.dropWhile_cons_of_pos dropped,
          ih]
      · rw [List.dropWhile_cons_of_neg dropped, List.dropWhile_cons_of_neg dropped]
        rfl

variable {value : String}

/-- Trimming keeps a text up to its last character that is no white space. -/
theorem trim_kept {front back : List Char} {last : Char}
    (whole : value.toList = front ++ last :: back)
    (headKept : forall character, (front ++ [last]).head? = some character ->
      isWhitespace character = false) (lastKept : isWhitespace last = false) :
    (trim value).toList = front ++ last :: (back.reverse.dropWhile isWhitespace).reverse := by
  have start : (front ++ last :: back).dropWhile isWhitespace = front ++ last :: back := by
    cases front with
    | nil => exact List.dropWhile_cons_of_neg (Bool.eq_false_iff.mp lastKept)
    | cons first front =>
        exact List.dropWhile_cons_of_neg (Bool.eq_false_iff.mp (headKept first rfl))
  have reversed : (front ++ last :: back).reverse = back.reverse ++ last :: front.reverse := by simp
  unfold trim trimMatches
  rw [String.toList_ofList, whole, start, reversed, dropWhile_stop lastKept, List.reverse_append,
    List.reverse_cons, List.reverse_reverse, List.append_assoc, List.singleton_append]

/-- A text without white space is not trimmed. -/
theorem trim_of_no_space
    (noSpace : forall character, character ∈ value.toList -> isWhitespace character = false) :
    trim value = value := by
  have kept : forall characters : List Char, characters ⊆ value.toList ->
      characters.dropWhile isWhitespace = characters := by
    intro characters within
    cases characters with
    | nil => rfl
    | cons first rest =>
        exact List.dropWhile_cons_of_neg
          (Bool.eq_false_iff.mp (noSpace first (within List.mem_cons_self)))
  unfold trim trimMatches
  rw [kept _ (List.Subset.refl _), kept _ (List.reverse_subset.mpr (List.Subset.refl _)),
    List.reverse_reverse, String.ofList_toList]

/-! ## Names with a value -/

/-- What is left of a text behind its start. -/
def stripPrefix (start value : String) : Option String :=
  if start.toList <+: value.toList then some (String.ofList (value.toList.drop start.length))
  else none

theorem stripPrefix_append (start : String) (back : List Char)
    (whole : value.toList = start.toList ++ back) :
    stripPrefix start value = some (String.ofList back) := by
  unfold stripPrefix
  rw [whole, if_pos ⟨back, rfl⟩, ← String.length_toList, List.drop_left]

/-- The texts before and after the first equals sign. -/
def splitOnce (value : String) : Option (String × String) :=
  match value.toList.dropWhile (· != '=') with
  | [] => none
  | _ :: back => some (String.ofList (value.toList.takeWhile (· != '=')), String.ofList back)

theorem splitOnce_toList {front back : String} (split : splitOnce value = some (front, back)) :
    value.toList = front.toList ++ '=' :: back.toList := by
  unfold splitOnce at split
  have parts := @List.takeWhile_append_dropWhile Char (· != '=') value.toList
  cases dropped : value.toList.dropWhile (· != '=') with
  | nil =>
      rw [dropped] at split
      exact nomatch split
  | cons sign rest =>
      rw [dropped] at split parts
      have isSign : sign = '=' := by
        have stopped := List.head?_dropWhile_not (· != '=') value.toList
        rw [dropped] at stopped
        simpa using stopped
      have same := Option.some.inj split
      rw [← (Prod.mk.inj same).1, ← (Prod.mk.inj same).2, String.toList_ofList, String.toList_ofList]
      rw [isSign] at parts
      exact parts.symm

/-! ## UTF-8 with errors -/

/-- What a first byte above ASCII asks for: the length of the sequence and the
range of its second byte. -/
def utf8Lead (lead : UInt8) : Option (Nat × UInt8 × UInt8) :=
  if 0xc2 ≤ lead && lead ≤ 0xdf then some (2, 0x80, 0xbf)
  else if lead == 0xe0 then some (3, 0xa0, 0xbf)
  else if lead == 0xed then some (3, 0x80, 0x9f)
  else if 0xe1 ≤ lead && lead ≤ 0xef then some (3, 0x80, 0xbf)
  else if lead == 0xf0 then some (4, 0x90, 0xbf)
  else if 0xf1 ≤ lead && lead ≤ 0xf3 then some (4, 0x80, 0xbf)
  else if lead == 0xf4 then some (4, 0x80, 0x8f)
  else none

/-- How many of the next bytes continue the sequence, at most `count`. -/
def utf8Trail : Nat -> UInt8 -> UInt8 -> List UInt8 -> Nat
  | 0, _, _, _ | _, _, _, [] => 0
  | count + 1, low, high, byte :: rest =>
      if low ≤ byte && byte ≤ high then 1 + utf8Trail count 0x80 0xbf rest else 0

/-- The first character and its length in bytes.  The longest start of a
sequence that is not finished counts as one replacement character. -/
def utf8Step (lead : UInt8) (rest : List UInt8) : Char × Nat :=
  if lead < 0x80 then (Char.ofNat lead.toNat, 1)
  else
    match utf8Lead lead with
    | none => (Char.ofNat 0xfffd, 1)
    | some (length, low, high) =>
      let trail := utf8Trail (length - 1) low high rest
      if trail = length - 1 then
        let start := lead.toNat % 2 ^ (7 - length)
        let code := (rest.take trail).foldl (fun code byte => code * 64 + byte.toNat % 64) start
        (Char.ofNat code, length)
      else (Char.ofNat 0xfffd, 1 + trail)

def utf8Chars : Nat -> List UInt8 -> List Char
  | 0, _ | _, [] => []
  | fuel + 1, lead :: rest =>
      let step := utf8Step lead rest
      step.1 :: utf8Chars fuel (rest.drop (step.2 - 1))

/-- The text of the bytes, with replacement characters where they are not
UTF-8. -/
def fromUtf8Lossy (bytes : List UInt8) : String :=
  String.ofList (utf8Chars bytes.length bytes)

/-- The length of the first sequence, if it is one. -/
def utf8Whole (lead : UInt8) (rest : List UInt8) : Option Nat :=
  if lead < 0x80 then some 1
  else
    match utf8Lead lead with
    | none => none
    | some (length, low, high) =>
      if utf8Trail (length - 1) low high rest = length - 1 then some length else none

def isUtf8Within : Nat -> List UInt8 -> Bool
  | _, [] => true
  | 0, _ => false
  | fuel + 1, lead :: rest =>
      match utf8Whole lead rest with
      | none => false
      | some length => isUtf8Within fuel (rest.drop (length - 1))

/-- The bytes are UTF-8 throughout. -/
def isUtf8 (bytes : List UInt8) : Bool := isUtf8Within bytes.length bytes

/-- An ASCII byte is a character of its own. -/
theorem fromUtf8Lossy_ascii {byte : UInt8} (ascii : byte < 0x80) (rest : List UInt8) :
    (fromUtf8Lossy (byte :: rest)).toList = Char.ofNat byte.toNat :: (fromUtf8Lossy rest).toList := by
  have step : utf8Step byte rest = (Char.ofNat byte.toNat, 1) := if_pos ascii
  unfold fromUtf8Lossy
  rw [String.toList_ofList, String.toList_ofList, List.length_cons, utf8Chars, step]
  rfl

example : ([[0x61, 0xe2, 0x82, 0xac], [0xe2, 0x82], [0xff]].map isUtf8) = [true, false, false] := by
  decide

example : fromUtf8Lossy [0x61, 0xe2, 0x82, 0xac, 0xe2, 0x82, 0x62, 0xff] = "a€\ufffdb\ufffd" := by
  decide

example : parseU64 "+18446744073709551615" = some maxU64 := by decide

example : parseU64 "18446744073709551616" = none := by decide

theorem not_mem_toDigits (notDigit : character.isDigit = false) (number : Nat) :
    character ∉ Nat.toDigits 10 number := by
  intro member
  rw [Nat.isDigit_of_mem_toDigits (by decide) (by decide) member] at notDigit
  exact (nomatch notDigit)

end Text
end RocmCli
