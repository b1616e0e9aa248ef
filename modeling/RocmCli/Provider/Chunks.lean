import RocmCli.Provider.BodyFraming

namespace RocmCli
namespace Provider

open ByteReader
open Text (trim maxU64 fromUtf8Lossy isUtf8 fromUtf8Lossy_ascii isWhitespace)

/-!
# Chunks as a server may spell them

The size of a chunk stands in hexadecimal digits of either case, with any
number of zeros in front, and may be followed by extensions.  Reading the line
finds the number, also in a line that is cut off behind some of its digits.
-/

/-! ## Spellings -/

def semicolon : UInt8 := 0x3b

def lineEnd : Bytes := [0x0d, 0x0a]

def asciiByte (character : Char) : UInt8 := UInt8.ofNat character.toNat

/-- A line that declares a size. -/
structure SizeLine where
  digits : List Char
  blanks : Bytes
  extension : Bytes
  nonempty : digits ≠ []
  hex : forall digit, digit ∈ digits -> (hexValue digit).isSome = true
  blank : forall byte, byte ∈ blanks -> byte = 0x20 ∨ byte = 0x09
  marked : extension = [] ∨ extension.head? = some semicolon
  oneLine : newline ∉ extension

namespace SizeLine

def value (line : SizeLine) : Nat := hexNumber line.digits

def bytes (line : SizeLine) : Bytes :=
  line.digits.map asciiByte ++ (line.blanks ++ line.extension ++ lineEnd)

end SizeLine

/-- A chunk with data.  Its size is one that a machine can count. -/
structure Chunk where
  line : SizeLine
  data : Bytes
  nonempty : data ≠ []
  declared : line.value = data.length
  fits : data.length ≤ maxU64

def Chunk.encode (chunk : Chunk) : Bytes := chunk.line.bytes ++ (chunk.data ++ lineEnd)

def encodeChunks (chunks : List Chunk) : Bytes := chunks.flatMap Chunk.encode

def dataOf (chunks : List Chunk) : Bytes := chunks.flatMap Chunk.data

/-- A body in chunks: the last line declares nothing, and what stands behind it
is the trailer. -/
structure ChunkedBody where
  chunks : List Chunk
  last : SizeLine
  zero : last.value = 0
  trailer : Bytes

namespace ChunkedBody

/-- The body up to the end of its last size line. -/
def untilLast (body : ChunkedBody) : Bytes := encodeChunks body.chunks ++ body.last.bytes

def encode (body : ChunkedBody) : Bytes := body.untilLast ++ body.trailer

def data (body : ChunkedBody) : Bytes := dataOf body.chunks

end ChunkedBody

/-! ## Digits -/

theorem toNat_lt_of_hex {digit : Char} (hex : (hexValue digit).isSome = true) :
    digit.toNat < 128 := by
  have below : forall bound : Char, bound.toNat < 128 -> digit ≤ bound -> digit.toNat < 128 := by
    intro bound small least
    exact Nat.lt_of_le_of_lt (UInt32.le_iff_toNat_le.mp (Char.le_def.mp least)) small
  unfold hexValue at hex
  by_cases decimal : digit.isDigit = true
  · unfold Char.isDigit at decimal
    rw [Bool.and_eq_true, decide_eq_true_eq, decide_eq_true_eq] at decimal
    exact below '9' (by decide) (Char.le_def.mpr decimal.2)
  rw [if_neg decimal] at hex
  by_cases lower : ('a' ≤ digit && digit ≤ 'f') = true
  · rw [Bool.and_eq_true, decide_eq_true_eq, decide_eq_true_eq] at lower
    exact below 'f' (by decide) lower.2
  rw [if_neg lower] at hex
  by_cases upper : ('A' ≤ digit && digit ≤ 'F') = true
  · rw [Bool.and_eq_true, decide_eq_true_eq, decide_eq_true_eq] at upper
    exact below 'F' (by decide) upper.2
  · rw [if_neg upper] at hex
    exact nomatch hex

/-- A digit is no separator, and it is zero only where it counts nothing. -/
theorem hexValue_spec {digit : Char} (hex : (hexValue digit).isSome = true) :
    isWhitespace digit = false ∧ digit ≠ ';' ∧ digit ≠ '+' ∧ digit ≠ '\n' ∧
      (hexValue digit = some 0 ↔ digit = '0') := by
  have table : forall code, code < 128 -> (hexValue (Char.ofNat code)).isSome = true ->
      isWhitespace (Char.ofNat code) = false ∧ Char.ofNat code ≠ ';' ∧ Char.ofNat code ≠ '+' ∧
        Char.ofNat code ≠ '\n' ∧ (hexValue (Char.ofNat code) = some 0 ↔ Char.ofNat code = '0') := by
    decide
  exact Text.forall_toNat_lt (fun digit => (hexValue digit).isSome = true ->
    isWhitespace digit = false ∧ digit ≠ ';' ∧ digit ≠ '+' ∧ digit ≠ '\n' ∧
      (hexValue digit = some 0 ↔ digit = '0')) table (toNat_lt_of_hex hex) hex

theorem foldl_hex (digits : List Char) (start : Nat) :
    digits.foldl (fun number digit => number * 16 + (hexValue digit).getD 0) start =
      start * 16 ^ digits.length + hexNumber digits := by
  unfold hexNumber
  induction digits generalizing start with
  | nil => simp
  | cons digit digits ih =>
      rw [List.foldl_cons, List.foldl_cons, ih,
        ih (0 * 16 + (hexValue digit).getD 0), List.length_cons, Nat.pow_succ,
        Nat.zero_mul, Nat.zero_add, Nat.add_mul, Nat.mul_assoc, Nat.mul_comm 16, Nat.add_assoc]

theorem hexNumber_cons (digit : Char) (digits : List Char) :
    hexNumber (digit :: digits) =
      (hexValue digit).getD 0 * 16 ^ digits.length + hexNumber digits := by
  show digits.foldl _ (0 * 16 + (hexValue digit).getD 0) = _
  rw [foldl_hex, Nat.zero_mul, Nat.zero_add]

theorem hexNumber_append (front back : List Char) :
    hexNumber (front ++ back) = hexNumber front * 16 ^ back.length + hexNumber back := by
  show (front ++ back).foldl _ 0 = _
  rw [List.foldl_append, foldl_hex]
  rfl

variable {digits : List Char}

/-- Fewer digits declare no more. -/
theorem hexNumber_le {front : List Char} (starts : front <+: digits) :
    hexNumber front ≤ hexNumber digits := by
  obtain ⟨back, rfl⟩ := starts
  rw [hexNumber_append]
  have positive : 0 < 16 ^ back.length := Nat.pow_pos (by decide)
  calc hexNumber front ≤ hexNumber front * 16 ^ back.length := Nat.le_mul_of_pos_right _ positive
    _ ≤ _ := Nat.le_add_right _ _

theorem hexNumber_zero_iff (hex : forall digit, digit ∈ digits -> (hexValue digit).isSome = true) :
    hexNumber digits = 0 ↔ forall digit, digit ∈ digits -> digit = '0' := by
  induction digits with
  | nil => exact ⟨fun _ => nofun, fun _ => rfl⟩
  | cons digit digits ih =>
      have isHex := hex digit List.mem_cons_self
      have zero := (hexValue_spec isHex).2.2.2.2
      have later := ih fun other member => hex other (List.mem_cons_of_mem _ member)
      have positive : 16 ^ digits.length ≠ 0 := Nat.pos_iff_ne_zero.mp (Nat.pow_pos (by decide))
      have first : (hexValue digit).getD 0 = 0 ↔ digit = '0' := by
        obtain ⟨value, isValue⟩ := Option.isSome_iff_exists.mp isHex
        rw [← zero, isValue, Option.getD_some, Option.some.injEq]
      rw [hexNumber_cons, Nat.add_eq_zero_iff, Nat.mul_eq_zero, or_iff_left positive, first, later]
      simp

theorem fromStrRadix16_digits (nonempty : digits ≠ [])
    (hex : forall digit, digit ∈ digits -> (hexValue digit).isSome = true)
    (fits : hexNumber digits ≤ maxU64) :
    fromStrRadix16 (String.ofList digits) = .ok (hexNumber digits) := by
  unfold fromStrRadix16
  rw [String.toList_ofList]
  cases digits with
  | nil => exact absurd rfl nonempty
  | cons digit digits =>
      have notPlus := (hexValue_spec (hex digit List.mem_cons_self)).2.2.1
      have all : (digit :: digits).all (fun digit => (hexValue digit).isSome) = true :=
        List.all_eq_true.mpr hex
      split
      · rename_i rest same
        exact absurd (List.cons.inj same).1 notPlus
      · simp [all, fits]

/-! ## Reading a size line -/

/-- What may stand behind the digits of a line that is cut off anywhere. -/
def BehindDigits (bytes : Bytes) : Prop :=
  exists blanks rest, bytes = blanks ++ rest ∧
    (forall byte, byte ∈ blanks -> byte ∈ [0x20, 0x09, 0x0d, newline]) ∧
    (rest = [] ∨ rest.head? = some semicolon)

theorem prefix_append_cases {seen front back : Bytes} (starts : seen <+: front ++ back) :
    seen <+: front ∨ exists more, seen = front ++ more ∧ more <+: back := by
  rcases List.prefix_or_prefix_of_prefix starts (List.prefix_append front back) with
    inside | ⟨more, rfl⟩
  · exact Or.inl inside
  · exact Or.inr ⟨more, rfl, (List.prefix_append_right_inj front).mp starts⟩

theorem BehindDigits.start {bytes seen : Bytes} (behind : BehindDigits bytes)
    (starts : seen <+: bytes) : BehindDigits seen := by
  obtain ⟨blanks, rest, rfl, blank, marked⟩ := behind
  rcases prefix_append_cases starts with inBlanks | ⟨more, rfl, inRest⟩
  · refine ⟨seen, [], (List.append_nil _).symm, ?_, Or.inl rfl⟩
    exact fun byte member => blank byte (inBlanks.subset member)
  · refine ⟨blanks, more, rfl, blank, ?_⟩
    cases more with
    | nil => exact Or.inl rfl
    | cons byte more =>
        obtain ⟨back, rfl⟩ := inRest
        exact Or.inr (marked.resolve_left (by simp))

theorem SizeLine.behindDigits (line : SizeLine) :
    BehindDigits (line.blanks ++ line.extension ++ lineEnd) := by
  have blank : forall byte, byte ∈ line.blanks -> byte ∈ [0x20, 0x09, 0x0d, newline] := by
    intro byte member
    rcases line.blank byte member with rfl | rfl <;> decide
  rcases line.marked with none' | marked
  · refine ⟨line.blanks ++ lineEnd, [], by rw [none', List.append_nil, List.append_nil], ?_,
      Or.inl rfl⟩
    intro byte member
    rcases List.mem_append.mp member with inBlanks | inEnd
    · exact blank byte inBlanks
    · exact List.mem_cons_of_mem _ (List.mem_cons_of_mem _ inEnd)
  · refine ⟨line.blanks, line.extension ++ lineEnd, List.append_assoc _ _ _, blank, Or.inr ?_⟩
    rw [List.head?_append, marked]
    rfl

theorem fromUtf8Lossy_digits (hex : forall digit, digit ∈ digits -> (hexValue digit).isSome = true)
    (behind : Bytes) :
    (fromUtf8Lossy (digits.map asciiByte ++ behind)).toList =
      digits ++ (fromUtf8Lossy behind).toList := by
  induction digits with
  | nil => rfl
  | cons digit digits ih =>
      have small := toNat_lt_of_hex (hex digit List.mem_cons_self)
      have code : (asciiByte digit).toNat = digit.toNat := by
        unfold asciiByte
        rw [UInt8.toNat_ofNat']
        exact Nat.mod_eq_of_lt (by omega)
      have ascii : asciiByte digit < 0x80 := by
        rw [UInt8.lt_iff_toNat_lt, code]
        exact small
      rw [List.map_cons, List.cons_append, fromUtf8Lossy_ascii ascii, code, Char.ofNat_toNat,
        ih fun other member => hex other (List.mem_cons_of_mem _ member)]
      rfl

variable {behind : Bytes}

/-- The text behind the digits: white space, then nothing or an extension. -/
theorem fromUtf8Lossy_behind (shape : BehindDigits behind) :
    exists blanks rest, (fromUtf8Lossy behind).toList = blanks ++ rest ∧
      (forall character, character ∈ blanks ->
        isWhitespace character = true ∧ character ≠ ';') ∧
      (rest = [] ∨ exists more, rest = ';' :: more) := by
  obtain ⟨blanks, rest, rfl, blank, marked⟩ := shape
  induction blanks with
  | nil =>
      refine ⟨[], (fromUtf8Lossy rest).toList, rfl, nofun, ?_⟩
      rcases marked with rfl | marked
      · exact Or.inl rfl
      · cases rest with
        | nil => exact Or.inl rfl
        | cons byte rest =>
            rw [List.head?_cons, Option.some.injEq] at marked
            rw [marked, fromUtf8Lossy_ascii (by decide)]
            exact Or.inr ⟨_, rfl⟩
  | cons byte blanks ih =>
      obtain ⟨texts, more, whole, white, shape⟩ := ih
        fun other member => blank other (List.mem_cons_of_mem _ member)
      have table : [0x20, 0x09, 0x0d, newline].all (fun byte => decide (byte < (0x80 : UInt8) ∧
          isWhitespace (Char.ofNat byte.toNat) = true ∧ Char.ofNat byte.toNat ≠ ';')) = true := by
        decide
      obtain ⟨ascii, isWhite, notMark⟩ := of_decide_eq_true
        (List.all_eq_true.mp table byte (blank byte List.mem_cons_self))
      refine ⟨Char.ofNat byte.toNat :: texts, more, ?_, ?_, shape⟩
      · rw [List.cons_append, fromUtf8Lossy_ascii ascii, whole]
        rfl
      · intro character member
        rcases List.mem_cons.mp member with rfl | later
        · exact ⟨isWhite, notMark⟩
        · exact white character later

/-- The number is what stands in front of the white space and the extension. -/
theorem sizeText_seen (nonempty : digits ≠ [])
    (hex : forall digit, digit ∈ digits -> (hexValue digit).isSome = true)
    (shape : BehindDigits behind) :
    sizeText (fromUtf8Lossy (digits.map asciiByte ++ behind)) = String.ofList digits ∧
      trim (fromUtf8Lossy (digits.map asciiByte ++ behind)) ≠ "" := by
  obtain ⟨blanks, rest, whole, white, marked⟩ := fromUtf8Lossy_behind shape
  have text := fromUtf8Lossy_digits hex behind
  rw [whole] at text
  obtain ⟨front, last, rfl⟩ : exists front last, digits = front ++ [last] := by
    rcases List.eq_nil_or_concat digits with rfl | ⟨front, last, rfl⟩
    · exact absurd rfl nonempty
    · exact ⟨front, last, List.concat_eq_append⟩
  have lastHex := hexValue_spec (hex last (List.mem_append_right _ List.mem_cons_self))
  have headKept : forall character, (front ++ [last]).head? = some character ->
      isWhitespace character = false := fun character isHead =>
    (hexValue_spec (hex character (List.mem_of_head? isHead))).1
  have whiteEnd : forall blanks : List Char,
      (forall character, character ∈ blanks -> isWhitespace character = true ∧ character ≠ ';') ->
      blanks.reverse.dropWhile isWhitespace = [] := by
    intro blanks white
    rw [List.dropWhile_eq_nil_iff]
    exact fun character member => (white character (List.mem_reverse.mp member)).1
  have notMark : forall character, character ∈ front ++ [last] -> (character != ';') = true := by
    intro character member
    simpa using (hexValue_spec (hex character member)).2.1
  have alone : forall blanks : List Char,
      (forall character, character ∈ blanks -> isWhitespace character = true ∧ character ≠ ';') ->
      forall text : String, text.toList = front ++ [last] ++ blanks ->
      (trim text).toList = front ++ [last] := by
    intro blanks white text whole
    rw [List.append_assoc, List.singleton_append] at whole
    rw [Text.trim_kept whole headKept lastHex.1, whiteEnd blanks white]
    rfl
  rcases marked with rfl | ⟨more, rfl⟩
  · rw [List.append_nil] at text
    have trimmed := alone blanks white _ text
    refine ⟨?_, ?_⟩
    · unfold sizeText
      rw [trimmed, List.takeWhile_eq_self_iff.mpr notMark, ← String.toList_inj, String.toList_ofList]
      exact alone [] nofun _ (by simp)
    · intro empty
      rw [empty] at trimmed
      exact absurd trimmed (by simp)
  · have parts : (fromUtf8Lossy ((front ++ [last]).map asciiByte ++ behind)).toList =
        (front ++ [last] ++ blanks) ++ ';' :: more := by
      rw [text, List.append_assoc (front ++ [last])]
    have headKept' : forall character, (front ++ [last] ++ blanks ++ [';']).head? = some character ->
        isWhitespace character = false := by
      intro character isHead
      apply headKept
      rw [← isHead]
      cases front <;> rfl
    have trimmed := Text.trim_kept parts headKept' (by decide)
    refine ⟨?_, ?_⟩
    · unfold sizeText
      have before : forall character, character ∈ front ++ [last] ++ blanks ->
          (character != ';') = true := by
        intro character member
        rcases List.mem_append.mp member with inDigits | inBlanks
        · exact notMark character inDigits
        · simpa using (white character inBlanks).2
      rw [trimmed, List.takeWhile_append_of_pos before, List.takeWhile_cons_of_neg (by decide),
        List.append_nil, ← String.toList_inj, String.toList_ofList]
      exact alone blanks white _ (by simp)
    · intro empty
      rw [empty] at trimmed
      exact absurd trimmed (by simp)

/-- A line ends at its only line feed. -/
theorem SizeLine.bytes_eq (line : SizeLine) :
    exists front, line.bytes = front ++ [newline] ∧ newline ∉ front := by
  refine ⟨line.digits.map asciiByte ++ (line.blanks ++ line.extension ++ [0x0d]), ?_, ?_⟩
  · unfold SizeLine.bytes lineEnd newline
    simp
  · intro member
    simp only [List.mem_append, List.mem_map, List.mem_singleton] at member
    rcases member with ⟨digit, isDigit, same⟩ | (inBlanks | inExtension) | isReturn
    · have hex := line.hex digit isDigit
      have small := toNat_lt_of_hex hex
      have code := congrArg UInt8.toNat same
      unfold asciiByte at code
      rw [UInt8.toNat_ofNat', Nat.mod_eq_of_lt (by omega)] at code
      have isNewline : digit = '\n' := by rw [← Char.ofNat_toNat digit, code]; decide
      exact (hexValue_spec hex).2.2.2.1 isNewline
    · rcases line.blank _ inBlanks with same | same
      · exact absurd same (by decide)
      · exact absurd same (by decide)
    · exact line.oneLine inExtension
    · exact absurd isReturn (by decide)

/-- A start of a line is some of its digits, and what may stand behind them. -/
theorem SizeLine.seen_shape (line : SizeLine) {seen : Bytes} (begun : seen ≠ [])
    (starts : seen <+: line.bytes) :
    exists behind, seen = (line.digits.take seen.length).map asciiByte ++ behind ∧
      BehindDigits behind ∧ line.digits.take seen.length ≠ [] := by
  have some' : line.digits.take seen.length ≠ [] := by
    intro none'
    rcases List.take_eq_nil_iff.mp none' with zero | empty
    · exact begun (List.length_eq_zero_iff.mp zero)
    · exact line.nonempty empty
  rcases prefix_append_cases starts with inDigits | ⟨behind, whole, inRest⟩
  · refine ⟨[], ?_, ⟨[], [], rfl, nofun, Or.inl rfl⟩, some'⟩
    rw [List.append_nil, List.map_take]
    exact List.prefix_iff_eq_take.mp inDigits
  · refine ⟨behind, ?_, line.behindDigits.start inRest, some'⟩
    have all : line.digits.take seen.length = line.digits := by
      apply List.take_of_length_le
      rw [whole, List.length_append, List.length_map]
      exact Nat.le_add_right _ _
    rw [all]
    exact whole

/-- The number that the digits seen of a line declare. -/
def SizeLine.seenValue (line : SizeLine) (seen : Bytes) : Nat :=
  hexNumber (line.digits.take seen.length)

theorem SizeLine.seenValue_bytes (line : SizeLine) : line.seenValue line.bytes = line.value := by
  have all : line.digits.take line.bytes.length = line.digits := by
    apply List.take_of_length_le
    unfold SizeLine.bytes
    rw [List.length_append, List.length_map]
    exact Nat.le_add_right _ _
  unfold SizeLine.seenValue SizeLine.value
  rw [all]

section Lines

variable {line : SizeLine} {seen : Bytes} {reader left : Reader}

/-- Bytes of a size line, taken up to the line feed or to the end, declare what
their digits say, or are no text. -/
theorem readSizeLine_seen (fits : line.value ≤ maxU64) (begun : seen ≠ [])
    (starts : seen <+: line.bytes) (taken : readUntil newline reader = (seen, left)) :
    (isUtf8 seen = true -> readSizeLine reader = .ok (some (line.seenValue seen), left)) ∧
      (isUtf8 seen = false -> readSizeLine reader =
        .error ⟨(ErrorChain.ofMessage "stream did not contain valid UTF-8").context
          "failed to read local provider chunk size", false⟩) := by
  have notEmpty : seen.isEmpty = false := List.isEmpty_eq_false_iff.mpr begun
  unfold readSizeLine
  rw [taken]
  dsimp only
  rw [notEmpty, if_neg Bool.false_ne_true]
  refine ⟨?_, ?_⟩
  · intro text
    obtain ⟨behind, whole, shape, some'⟩ := line.seen_shape begun starts
    have hex : forall digit, digit ∈ line.digits.take seen.length ->
        (hexValue digit).isSome = true := fun digit member => line.hex digit (List.mem_of_mem_take member)
    obtain ⟨size, notBlank⟩ := sizeText_seen some' hex shape
    rw [← whole] at size notBlank
    have number := fromStrRadix16_digits some' hex
      (Nat.le_trans (hexNumber_le (List.take_prefix _ _)) fits)
    rw [text, Bool.not_true, if_neg Bool.false_ne_true, if_neg notBlank, size, number]
    rfl
  · intro noText
    rw [noText, Bool.not_false, if_pos rfl]

theorem readSizeLine_ended (ended : bytesOf reader = []) :
    readSizeLine reader = .error ⟨ErrorChain.ofMessage localStreamTruncated, false⟩ := by
  have free : newline ∉ bytesOf reader := by
    rw [ended]
    exact List.not_mem_nil
  obtain ⟨left, taken, _⟩ := readUntil_all free
  unfold readSizeLine
  rw [taken, ended]
  rfl

/-- A whole line is taken up to its line feed. -/
theorem readUntil_line (arrives : bytesOf reader = line.bytes ++ behind) :
    exists left, readUntil newline reader = (line.bytes, left) ∧ bytesOf left = behind := by
  obtain ⟨front, whole, free⟩ := line.bytes_eq
  rw [whole, List.append_assoc, List.singleton_append] at arrives
  rw [whole]
  exact readUntil_found free arrives

/-- A line that is cut off is taken to the end. -/
theorem readUntil_cut (arrives : bytesOf reader = seen) (starts : seen <+: line.bytes)
    (unfinished : seen ≠ line.bytes) :
    exists left, readUntil newline reader = (seen, left) ∧ bytesOf left = [] := by
  obtain ⟨front, whole, free⟩ := line.bytes_eq
  rw [whole] at starts unfinished
  have inFront : seen <+: front := (List.prefix_concat_iff.mp starts).resolve_left unfinished
  rw [← arrives] at inFront ⊢
  exact readUntil_all fun member => free (inFront.subset member)

end Lines

end Provider
end RocmCli
