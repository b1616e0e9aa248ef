import RocmCli.Net.HttpResponse

namespace RocmCli
namespace Net

open Provider (Bytes lineEnd textLines)
open Text (trim parseU64 maxU64 eqIgnoreAsciiCase eqIgnoreAsciiCase_iff fromUtf8Lossy lossyChars
  isWhitespace)

/-!
# What a head says

The head ends at its first blank line, its lines are its fields, and looking up
a name finds the first field of that name.
-/

/-! ## Bytes of fields -/

variable {byte : UInt8}

theorem field_byte_spec (isByte : isFieldByte byte = true) : byte ≠ 0x0d ∧ byte ≠ 0x0a := by
  constructor
  · rintro rfl
    exact absurd isByte (by decide)
  · rintro rfl
    exact absurd isByte (by decide)

/-- A byte of a name is a letter, a digit or a mark. -/
theorem token_byte_spec (isByte : isTokenByte byte = true) :
    byte < 0x80 ∧ byte ≠ 0x0d ∧ byte ≠ 0x0a ∧ byte ≠ 0x3a ∧
      isWhitespace (Char.ofNat byte.toNat) = false := by
  have table : forall code : Fin 256, isTokenByte (UInt8.ofNat code) = true ->
      UInt8.ofNat code < 0x80 ∧ UInt8.ofNat code ≠ 0x0d ∧ UInt8.ofNat code ≠ 0x0a ∧
        UInt8.ofNat code ≠ 0x3a ∧ isWhitespace (Char.ofNat (UInt8.ofNat code).toNat) = false := by
    decide +kernel
  have spec := table ⟨byte.toNat, byte.toNat_lt⟩
  rw [UInt8.ofNat_toNat] at spec
  exact spec isByte

namespace HeaderField

variable (field : HeaderField)

theorem name_spec (member : byte ∈ field.name) :
    byte < 0x80 ∧ byte ≠ 0x0d ∧ byte ≠ 0x0a ∧ byte ≠ 0x3a ∧
      isWhitespace (Char.ofNat byte.toNat) = false :=
  token_byte_spec (List.all_eq_true.mp field.token byte member)

theorem bytes_oneLine (member : byte ∈ field.bytes) : byte ≠ 0x0d ∧ byte ≠ 0x0a := by
  rcases List.mem_append.mp member with inName | behind
  · have spec := field.name_spec inName
    exact ⟨spec.2.1, spec.2.2.1⟩
  · rcases List.mem_cons.mp behind with rfl | inValue
    · decide
    · exact field_byte_spec (List.all_eq_true.mp field.text byte inValue)

end HeaderField

theorem Head.statusLine_oneLine (head : Head) (member : byte ∈ head.statusLine) :
    byte ≠ 0x0d ∧ byte ≠ 0x0a := by
  rcases List.mem_append.mp member with inVersion | inStatus
  · have version : forall byte, byte ∈ Text.asciiBytes "HTTP/1.1 " -> byte ≠ 0x0d ∧ byte ≠ 0x0a := by
      decide +kernel
    exact version byte inVersion
  · exact field_byte_spec (List.all_eq_true.mp head.text byte inStatus)

/-! ## The end of the head -/

theorem headerEnd_cons (byte : UInt8) (rest : Bytes) :
    headerEnd (byte :: rest) =
      if blankLine <+: byte :: rest then some 0 else (headerEnd rest).map (· + 1) :=
  rfl

variable {bytes : Bytes}

/-- A blank line is found within the bytes. -/
theorem headerEnd_some {place : Nat} (found : headerEnd bytes = some place) :
    place + 4 ≤ bytes.length := by
  induction bytes generalizing place with
  | nil => cases found
  | cons byte bytes ih =>
    rw [headerEnd_cons] at found
    split at found
    next here =>
      cases found
      exact here.length_le
    next =>
      rcases Option.map_eq_some_iff.mp found with ⟨before, isBefore, rfl⟩
      have inside := ih isBefore
      rw [List.length_cons]
      omega

/-- More bytes behind a blank line move no blank line. -/
theorem headerEnd_append {front : Bytes} {place : Nat} (found : headerEnd front = some place)
    (back : Bytes) : headerEnd (front ++ back) = some place := by
  induction front generalizing place with
  | nil => cases found
  | cons byte front ih =>
    rw [headerEnd_cons] at found
    rw [List.cons_append, headerEnd_cons]
    by_cases here : blankLine <+: byte :: front
    · rw [if_pos here] at found
      have starts : blankLine <+: byte :: (front ++ back) :=
        here.trans (List.prefix_append (byte :: front) back)
      rw [if_pos starts, found]
    · rw [if_neg here] at found
      rcases Option.map_eq_some_iff.mp found with ⟨before, isBefore, rfl⟩
      have later : ¬ blankLine <+: byte :: (front ++ back) := by
        intro starts
        have long : blankLine.length ≤ (byte :: front).length := by
          have inside := headerEnd_some isBefore
          show 4 ≤ front.length + 1
          omega
        exact here (List.prefix_of_prefix_length_le starts
          (List.prefix_append (byte :: front) back) long)
      rw [if_neg later, ih isBefore]
      rfl

/-- There is no blank line before the end of a line. -/
theorem headerEnd_line {line : Bytes} (oneLine : forall byte, byte ∈ line -> byte ≠ 0x0d)
    (rest : Bytes) : headerEnd (line ++ rest) = (headerEnd rest).map (· + line.length) := by
  induction line with
  | nil =>
    rw [List.nil_append]
    cases headerEnd rest <;> rfl
  | cons byte line ih =>
    have notHere : ¬ blankLine <+: byte :: (line ++ rest) := by
      intro starts
      exact oneLine byte List.mem_cons_self (List.cons_prefix_cons.mp starts).1.symm
    rw [List.cons_append, headerEnd_cons, if_neg notHere,
      ih fun other member => oneLine other (List.mem_cons_of_mem byte member)]
    cases headerEnd rest with
    | none => rfl
    | some place => exact congrArg some (Nat.add_assoc place line.length 1)

/-- The end of a line that another follows is no blank line. -/
theorem headerEnd_lineEnd (notReturn : byte ≠ 0x0d) (rest : Bytes) :
    headerEnd (lineEnd ++ byte :: rest) = (headerEnd (byte :: rest)).map (· + 2) := by
  have first : ¬ blankLine <+: 0x0d :: 0x0a :: byte :: rest := by
    intro starts
    have third := (List.cons_prefix_cons.mp
      (List.cons_prefix_cons.mp (List.cons_prefix_cons.mp starts).2).2).1
    exact notReturn third.symm
  have second : ¬ blankLine <+: 0x0a :: byte :: rest := by
    intro starts
    exact absurd (List.cons_prefix_cons.mp starts).1 (by decide)
  show headerEnd (0x0d :: 0x0a :: byte :: rest) = _
  rw [headerEnd_cons, if_neg first, headerEnd_cons, if_neg second, Option.map_map]
  rfl

theorem headerEnd_fields (fields : List HeaderField) (body : Bytes) :
    headerEnd ((fields.flatMap fun field => lineEnd ++ field.bytes) ++ (blankLine ++ body)) =
      some (fields.flatMap fun field => lineEnd ++ field.bytes).length := by
  induction fields with
  | nil =>
    exact if_pos (List.prefix_append blankLine body)
  | cons field fields ih =>
    rw [List.flatMap_cons, List.append_assoc, List.append_assoc]
    cases name : field.name with
    | nil => exact absurd name field.nonempty
    | cons first rest =>
      have notReturn : first ≠ 0x0d := (field.name_spec (name ▸ List.mem_cons_self)).2.1
      have bytes : field.bytes = first :: (rest ++ 0x3a :: field.value) := by
        unfold HeaderField.bytes
        rw [name]
        rfl
      have line := headerEnd_line (fun byte member => (field.bytes_oneLine member).1)
        ((fields.flatMap fun field => lineEnd ++ field.bytes) ++ (blankLine ++ body))
      rw [ih] at line
      have break' := headerEnd_lineEnd notReturn ((rest ++ 0x3a :: field.value) ++
        ((fields.flatMap fun field => lineEnd ++ field.bytes) ++ (blankLine ++ body)))
      rw [← List.cons_append, ← bytes, line] at break'
      rw [break', List.length_append, List.length_append]
      refine congrArg some ?_
      show (fields.flatMap fun field => lineEnd ++ field.bytes).length + field.bytes.length + 2 =
        (2 + field.bytes.length) + _
      omega

/-- The head ends where its fields do. -/
theorem headerEnd_head (head : Head) (body : Bytes) :
    headerEnd (head.bytes ++ (blankLine ++ body)) = some head.bytes.length := by
  unfold Head.bytes
  rw [List.append_assoc, headerEnd_line (fun byte member => (head.statusLine_oneLine member).1),
    headerEnd_fields, Option.map_some, List.length_append, Nat.add_comm]

/-! ## The lines of the head -/

/-- The text of the head, line by line. -/
theorem lossyChars_fields (front : Bytes) (fields : List HeaderField) :
    lossyChars (front ++ fields.flatMap fun field => lineEnd ++ field.bytes) =
      lossyChars front ++ fields.flatMap fun field => '\r' :: '\n' :: lossyChars field.bytes := by
  induction fields generalizing front with
  | nil => rw [List.flatMap_nil, List.flatMap_nil, List.append_nil, List.append_nil]
  | cons field fields ih =>
    have behind := ih field.bytes
    have break' := @Text.lossyChars_append 0x0d (by decide) front
      (0x0a :: (field.bytes ++ fields.flatMap fun field => lineEnd ++ field.bytes))
    have feed := @Text.lossyChars_append 0x0a (by decide) []
      (field.bytes ++ fields.flatMap fun field => lineEnd ++ field.bytes)
    rw [List.nil_append] at feed
    rw [feed, behind] at break'
    exact break'

/-- A text without the character of a line end has one line. -/
theorem textLines_single {line : List Char} (oneLine : '\n' ∉ line) (nonempty : line ≠ []) :
    textLines (String.ofList line) = [String.ofList line] := by
  have some : line.isEmpty = false := by
    cases line with
    | nil => exact absurd rfl nonempty
    | cons _ _ => rfl
  unfold textLines
  rw [String.toList_ofList, List.splitOn_eq_singleton oneLine]
  simp [some]

/-- The first line of a text. -/
theorem textLines_cons {line : List Char} (oneLine : '\n' ∉ line) (rest : List Char) :
    textLines (String.ofList (line ++ '\r' :: '\n' :: rest)) =
      String.ofList line :: textLines (String.ofList rest) := by
  have free : '\n' ∉ line ++ ['\r'] := by
    rw [List.mem_append, List.mem_singleton]
    rintro (inLine | isReturn)
    · exact oneLine inLine
    · exact absurd isReturn (by decide)
  have parts : (line ++ '\r' :: '\n' :: rest).splitOn '\n' =
      (line ++ ['\r']) :: rest.splitOn '\n' := by
    rw [← List.splitOn_append_cons_self_of_not_mem free, List.append_assoc]
    rfl
  have nonempty := List.splitOn_ne_nil '\n' rest
  rcases List.exists_cons_of_ne_nil nonempty with ⟨part, others, isSplit⟩
  unfold textLines
  rw [String.toList_ofList, String.toList_ofList, parts, isSplit]
  dsimp only
  rw [List.dropLast_cons_cons, List.map_cons, List.getLast?_concat, if_pos rfl,
    List.dropLast_concat, List.getLast?_cons_cons]
  rfl

/-- No line end is read from bytes without one. -/
theorem lossyChars_oneLine (free : forall byte, byte ∈ bytes -> byte ≠ 0x0a) :
    '\n' ∉ lossyChars bytes := by
  intro member
  exact free _ (Text.mem_lossyChars (by decide) (by decide) member) rfl

theorem lossyChars_ne_nil (nonempty : bytes ≠ []) : lossyChars bytes ≠ [] := by
  cases bytes with
  | nil => exact absurd rfl nonempty
  | cons lead rest =>
    rw [Text.lossyChars_cons]
    exact List.cons_ne_nil _ _

theorem textLines_fields {front : Bytes} (oneLine : forall byte, byte ∈ front -> byte ≠ 0x0a)
    (nonempty : front ≠ []) (fields : List HeaderField) :
    textLines (fromUtf8Lossy (front ++ fields.flatMap fun field => lineEnd ++ field.bytes)) =
      fromUtf8Lossy front :: fields.map fun field => fromUtf8Lossy field.bytes := by
  have asText (bytes : Bytes) : fromUtf8Lossy bytes = String.ofList (lossyChars bytes) :=
    String.ofList_toList.symm
  induction fields generalizing front with
  | nil =>
    rw [List.flatMap_nil, List.append_nil, asText]
    exact textLines_single (lossyChars_oneLine oneLine) (lossyChars_ne_nil nonempty)
  | cons field fields ih =>
    have later := ih (fun byte member => (field.bytes_oneLine member).2)
      (List.append_ne_nil_of_right_ne_nil field.name (List.cons_ne_nil 0x3a field.value))
    rw [asText, lossyChars_fields, List.flatMap_cons, List.cons_append, List.cons_append,
      textLines_cons (lossyChars_oneLine oneLine), ← lossyChars_fields, ← asText, ← asText, later,
      List.map_cons]

/-! ## Looking up a name -/

/-- What one line says of a name. -/
def lineValue (name : String) (line : String) : Option String :=
  match line.toList.dropWhile (· != ':') with
  | [] => none
  | _ :: value =>
      if eqIgnoreAsciiCase (trim (String.ofList (line.toList.takeWhile (· != ':')))) name then
        some (trim (String.ofList value))
      else none

theorem headerValue_eq (headers name : String) :
    headerValue headers name = (textLines headers).findSome? (lineValue name) :=
  rfl

/-- A field says its value of its name. -/
theorem lineValue_field (field : HeaderField) (name : String) :
    lineValue name (fromUtf8Lossy field.bytes) =
      if field.isNamed name then some field.valueText else none := by
  have ascii := fun byte (member : byte ∈ field.name) => (field.name_spec member).1
  have nameChars := Text.lossyChars_ascii ascii
  have whole : (fromUtf8Lossy field.bytes).toList =
      lossyChars field.name ++ ':' :: lossyChars field.value :=
    @Text.lossyChars_append 0x3a (by decide) field.name field.value
  have noColon : forall character, character ∈ lossyChars field.name -> (character != ':') = true := by
    intro character member
    rw [bne_iff_ne]
    rintro rfl
    have inside := Text.mem_lossyChars (by decide) (by decide) member
    exact (field.name_spec inside).2.2.2.1 rfl
  have noSpace : forall character, character ∈ lossyChars field.name ->
      isWhitespace character = false := by
    intro character member
    rw [nameChars] at member
    rcases List.mem_map.mp member with ⟨byte, inside, rfl⟩
    exact (field.name_spec inside).2.2.2.2
  unfold lineValue
  rw [whole, List.dropWhile_append_of_pos noColon, List.takeWhile_append_of_pos noColon,
    List.dropWhile_cons_of_neg (by decide), List.takeWhile_cons_of_neg (by decide), List.append_nil,
    Text.trim_of_no_space (by rwa [String.toList_ofList])]
  unfold HeaderField.isNamed HeaderField.nameText HeaderField.valueText lossyChars
  rw [String.ofList_toList]
  dsimp only
  rw [String.ofList_toList]

variable {first : Char}

theorem trim_head (kept : isWhitespace first = false) (rest : List Char) :
    (trim (String.ofList (first :: rest))).toList.head? = some first := by
  unfold trim Text.trimMatches
  rw [String.toList_ofList, String.toList_ofList,
    List.dropWhile_cons_of_neg (Bool.eq_false_iff.mp kept), List.reverse_cons]
  rw [Text.dropWhile_stop kept, List.reverse_append, List.reverse_cons, List.reverse_nil]
  rfl

/-- The status line says nothing of a name that does not begin as it does. -/
theorem lineValue_status (head : Head) {name : String} (begins : name.toList.head? = some first)
    (other : first.toLower ≠ 'h') :
    lineValue name (fromUtf8Lossy head.statusLine) = none := by
  have starts : (fromUtf8Lossy head.statusLine).toList =
      'H' :: lossyChars (Text.asciiBytes "TTP/1.1 " ++ head.status) :=
    @Text.lossyChars_append 0x48 (by decide) [] (Text.asciiBytes "TTP/1.1 " ++ head.status)
  unfold lineValue
  rw [starts]
  split
  next => rfl
  next value _ =>
    refine if_neg fun same => ?_
    rw [List.takeWhile_cons_of_pos (by decide), eqIgnoreAsciiCase_iff] at same
    have heads := congrArg List.head? same
    rw [List.head?_map, List.head?_map, trim_head (by decide), begins] at heads
    exact other (Option.some.inj heads).symm

/-- Looking up a name finds its first field. -/
theorem headerValue_head (head : Head) {name : String} (begins : name.toList.head? = some first)
    (other : first.toLower ≠ 'h') :
    headerValue (fromUtf8Lossy head.bytes) name = (head.field? name).map HeaderField.valueText := by
  have nonempty : head.statusLine ≠ [] := List.cons_ne_nil _ _
  unfold Head.bytes
  rw [headerValue_eq, textLines_fields (fun byte member => (head.statusLine_oneLine member).2) nonempty,
    List.findSome?_cons, lineValue_status head begins other]
  unfold Head.field?
  induction head.fields with
  | nil => rfl
  | cons field fields ih =>
    dsimp only at ih ⊢
    rw [List.map_cons, List.findSome?_cons, lineValue_field, List.find?_cons]
    cases field.isNamed name with
    | true => rfl
    | false => exact ih

/-! ## Numbers -/

/-- Trimming takes the white space around a text without any. -/
theorem trim_between {before text after : List Char}
    (spaceBefore : forall character, character ∈ before -> isWhitespace character = true)
    (spaceAfter : forall character, character ∈ after -> isWhitespace character = true)
    (free : forall character, character ∈ text -> isWhitespace character = false)
    (nonempty : text ≠ []) :
    trim (String.ofList (before ++ (text ++ after))) = String.ofList text := by
  rcases List.exists_cons_of_ne_nil nonempty with ⟨first, rest, isText⟩
  have start : (text ++ after).dropWhile isWhitespace = text ++ after := by
    rw [isText]
    exact List.dropWhile_cons_of_neg
      (Bool.eq_false_iff.mp (free first (isText ▸ List.mem_cons_self)))
  have ended : text.reverse.dropWhile isWhitespace = text.reverse := by
    cases isReverse : text.reverse with
    | nil => rfl
    | cons last others =>
      refine List.dropWhile_cons_of_neg (Bool.eq_false_iff.mp (free last ?_))
      exact List.mem_reverse.mp (isReverse ▸ List.mem_cons_self)
  unfold trim Text.trimMatches
  rw [String.toList_ofList, List.dropWhile_append_of_pos spaceBefore, start, List.reverse_append,
    List.dropWhile_append_of_pos (fun character member => spaceAfter character (List.mem_reverse.mp member)),
    ended, List.reverse_reverse]

theorem digit_byte_spec (isDigit : (0x30 ≤ byte && byte ≤ 0x39) = true) :
    byte < 0x80 ∧ isWhitespace (Char.ofNat byte.toNat) = false ∧ Char.ofNat byte.toNat ≠ '+' ∧
      (Char.ofNat byte.toNat).isDigit = true ∧ (Char.ofNat byte.toNat).toNat = byte.toNat := by
  have table : forall code : Fin 256,
      (0x30 ≤ UInt8.ofNat code && UInt8.ofNat code ≤ 0x39) = true ->
      UInt8.ofNat code < 0x80 ∧ isWhitespace (Char.ofNat (UInt8.ofNat code).toNat) = false ∧
        Char.ofNat (UInt8.ofNat code).toNat ≠ '+' ∧
        (Char.ofNat (UInt8.ofNat code).toNat).isDigit = true ∧
        (Char.ofNat (UInt8.ofNat code).toNat).toNat = (UInt8.ofNat code).toNat := by
    decide +kernel
  have spec := table ⟨byte.toNat, byte.toNat_lt⟩
  rw [UInt8.ofNat_toNat] at spec
  exact spec isDigit

namespace Decimal

variable (number : Decimal)

theorem digit_spec (member : byte ∈ number.digits) :
    byte < 0x80 ∧ isWhitespace (Char.ofNat byte.toNat) = false ∧ Char.ofNat byte.toNat ≠ '+' ∧
      (Char.ofNat byte.toNat).isDigit = true ∧ (Char.ofNat byte.toNat).toNat = byte.toNat :=
  digit_byte_spec (List.all_eq_true.mp number.decimal byte member)

theorem blank_spec (member : byte ∈ number.before ++ number.after) :
    byte < 0x80 ∧ isWhitespace (Char.ofNat byte.toNat) = true := by
  have isBlank := List.all_eq_true.mp number.blank byte member
  rw [Bool.or_eq_true, beq_iff_eq, beq_iff_eq] at isBlank
  rcases isBlank with rfl | rfl
  · decide
  · decide

/-- The digits as characters. -/
def chars : List Char := number.digits.map fun byte => Char.ofNat byte.toNat

/-- Reading the number drops what is blank. -/
theorem trim_bytes : trim (fromUtf8Lossy number.bytes) = String.ofList number.chars := by
  have ascii : forall byte, byte ∈ number.bytes -> byte < 0x80 := by
    intro byte member
    rcases List.mem_append.mp member with before | behind
    · exact (number.blank_spec (List.mem_append_left _ before)).1
    · rcases List.mem_append.mp behind with digit | after
      · exact (number.digit_spec digit).1
      · exact (number.blank_spec (List.mem_append_right _ after)).1
  have text : fromUtf8Lossy number.bytes = String.ofList (lossyChars number.bytes) :=
    String.ofList_toList.symm
  have nonempty : number.chars ≠ [] := fun none => number.nonempty (List.map_eq_nil_iff.mp none)
  rw [text, Text.lossyChars_ascii ascii]
  unfold bytes
  rw [List.map_append, List.map_append]
  refine trim_between ?_ ?_ ?_ nonempty
  · intro character member
    rcases List.mem_map.mp member with ⟨byte, inside, rfl⟩
    exact (number.blank_spec (List.mem_append_left _ inside)).2
  · intro character member
    rcases List.mem_map.mp member with ⟨byte, inside, rfl⟩
    exact (number.blank_spec (List.mem_append_right _ inside)).2
  · intro character member
    rcases List.mem_map.mp member with ⟨byte, inside, rfl⟩
    exact (number.digit_spec inside).2.1

theorem value_chars : number.chars.foldl (fun value digit => value * 10 + (digit.toNat - '0'.toNat)) 0 =
    number.value := by
  have digits : forall byte, byte ∈ number.digits -> (Char.ofNat byte.toNat).toNat = byte.toNat :=
    fun byte member => (number.digit_spec member).2.2.2.2
  unfold chars value
  rw [List.foldl_map]
  generalize number.digits = bytes at digits
  generalize (0 : Nat) = start
  induction bytes generalizing start with
  | nil => rfl
  | cons digit rest ih =>
    rw [List.foldl_cons, List.foldl_cons, digits digit List.mem_cons_self]
    exact ih (fun byte member => digits byte (List.mem_cons_of_mem digit member)) _

end Decimal

/-- A declared number is read as it is. -/
theorem parse_decimal {field : HeaderField} {number : Decimal} (value : field.value = number.bytes)
    (fits : number.value ≤ maxU64) : parseU64 field.valueText = some number.value := by
  unfold HeaderField.valueText
  rw [value, number.trim_bytes]
  rcases List.exists_cons_of_ne_nil number.nonempty with ⟨first, rest, isDigits⟩
  have chars : number.chars = Char.ofNat first.toNat :: rest.map fun byte => Char.ofNat byte.toNat := by
    unfold Decimal.chars
    rw [isDigits]
    rfl
  have noSign := (number.digit_spec (isDigits ▸ List.mem_cons_self)).2.2.1
  have allDigits : number.chars.all Char.isDigit = true := by
    rw [List.all_eq_true]
    intro character member
    rcases List.mem_map.mp member with ⟨byte, inside, rfl⟩
    exact (number.digit_spec inside).2.2.2.1
  have nonempty : number.chars.isEmpty = false := by
    rw [chars]
    rfl
  unfold parseU64
  rw [String.toList_ofList]
  split
  next later isSigned =>
    rw [chars] at isSigned
    exact absurd (List.cons.inj isSigned).1 noSign
  next =>
    dsimp only
    rw [number.value_chars, allDigits, nonempty, if_pos fits]
    rfl

end Net
end RocmCli
