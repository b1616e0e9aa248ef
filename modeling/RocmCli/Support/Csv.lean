import Mathlib.Data.List.Basic

namespace RocmCli
namespace Support.Csv

/-!
# Comma-separated records

The writer puts a field in quotes where it has to and ends each record with a
line feed; the reader takes the bytes one by one.  A written record is read back
as it was, whatever was read before it, so the records of a text are those of
its lines.
-/

abbrev Bytes := List UInt8

abbrev Field := Bytes

def comma : UInt8 := 0x2c
def quote : UInt8 := 0x22
def lineFeed : UInt8 := 0x0a
def carriageReturn : UInt8 := 0x0d

/-! ## Writing -/

def needsQuotes (field : Field) : Bool :=
  field.any fun byte => byte == comma || byte == quote || byte == lineFeed ||
    byte == carriageReturn

/-- The bytes of a field with every quote doubled. -/
def escape : Field -> Bytes
  | [] => []
  | byte :: rest => if byte = quote then quote :: quote :: escape rest else byte :: escape rest

def writeField (field : Field) : Bytes :=
  if needsQuotes field then quote :: (escape field ++ [quote]) else field

/-- The fields of a record with a comma between each two. -/
def writeFields : Field -> List Field -> Bytes
  | first, [] => writeField first
  | first, second :: rest => writeField first ++ comma :: writeFields second rest

def writeRecord (first : Field) (rest : List Field) : Bytes :=
  writeFields first rest ++ [lineFeed]

/-! ## Reading -/

inductive Mode where
  | startRecord
  | startField
  | inField
  | inQuotedField
  | inDoubleEscapedQuote
deriving DecidableEq, Repr

/-- The reader between two bytes: the field and the record it is in, and the
records it has read. -/
structure Reader where
  mode : Mode
  field : Field
  record : List Field
  records : List (List Field)
deriving DecidableEq, Repr

namespace Reader

def endField (reader : Reader) : Reader :=
  { reader with mode := .startField, field := [], record := reader.record ++ [reader.field] }

def endRecord (reader : Reader) : Reader :=
  { reader with
    mode := .startRecord
    field := []
    record := []
    records := reader.records ++ [reader.record ++ [reader.field]] }

def keep (reader : Reader) (mode : Mode) (byte : UInt8) : Reader :=
  { reader with mode := mode, field := reader.field ++ [byte] }

def isTerminator (byte : UInt8) : Bool := byte == lineFeed || byte == carriageReturn

/-- A byte outside quotes. -/
def stepPlain (reader : Reader) (byte : UInt8) : Reader :=
  if byte = comma then reader.endField
  else if isTerminator byte then reader.endRecord
  else reader.keep .inField byte

/-- A byte where a field starts. -/
def stepStart (reader : Reader) (byte : UInt8) : Reader :=
  if byte = quote then { reader with mode := .inQuotedField } else reader.stepPlain byte

def step (reader : Reader) (byte : UInt8) : Reader :=
  match reader.mode with
  | .startRecord => if isTerminator byte then reader else reader.stepStart byte
  | .startField => reader.stepStart byte
  | .inField => reader.stepPlain byte
  | .inQuotedField =>
      if byte = quote then { reader with mode := .inDoubleEscapedQuote }
      else reader.keep .inQuotedField byte
  | .inDoubleEscapedQuote =>
      if byte = quote then reader.keep .inQuotedField byte else reader.stepPlain byte

/-- The reader at the start of a record. -/
def between (records : List (List Field)) : Reader := ⟨.startRecord, [], [], records⟩

/-- The records at the end of the input, which ends the record it is in. -/
def finish (reader : Reader) : List (List Field) :=
  if reader.mode = .startRecord then reader.records else reader.endRecord.records

end Reader

open Reader

def readRecords (bytes : Bytes) : List (List Field) := (bytes.foldl step (between [])).finish

/-! ## Reading what was written -/

variable {field : Field} {byte : UInt8}

theorem step_inField {record : List Field} {records : List (List Field)} :
    step ⟨.inField, field, record, records⟩ byte =
      stepPlain ⟨.inField, field, record, records⟩ byte := rfl

/-- A quoted field is read up to its closing quote. -/
theorem read_escape (field done : Field) (record : List Field) (records : List (List Field)) :
    (escape field).foldl step ⟨.inQuotedField, done, record, records⟩ =
      ⟨.inQuotedField, done ++ field, record, records⟩ := by
  induction field generalizing done with
  | nil => rw [escape, List.foldl_nil, List.append_nil]
  | cons byte rest ih =>
      unfold escape
      by_cases isQuote : byte = quote
      · subst isQuote
        rw [if_pos rfl, List.foldl_cons, List.foldl_cons]
        have doubled : step (step ⟨.inQuotedField, done, record, records⟩ quote) quote =
            ⟨.inQuotedField, done ++ [quote], record, records⟩ := rfl
        rw [doubled, ih, List.append_assoc]
        rfl
      · rw [if_neg isQuote, List.foldl_cons]
        have kept : step ⟨.inQuotedField, done, record, records⟩ byte =
            ⟨.inQuotedField, done ++ [byte], record, records⟩ := if_neg isQuote
        rw [kept, ih, List.append_assoc]
        rfl

/-- A byte that needs no quotes is neither a separator nor a quote. -/
theorem plain_of_unquoted (unquoted : needsQuotes field = false) (listed : byte ∈ field) :
    byte ≠ comma ∧ byte ≠ quote ∧ isTerminator byte = false := by
  have plain := List.any_eq_false.mp unquoted byte listed
  simp only [Bool.or_eq_true, beq_iff_eq, not_or] at plain
  refine ⟨plain.1.1.1, plain.1.1.2, ?_⟩
  unfold isTerminator
  rw [Bool.or_eq_false_iff]
  exact ⟨beq_eq_false_iff_ne.mpr plain.1.2, beq_eq_false_iff_ne.mpr plain.2⟩

/-- Inside an unquoted field the bytes are kept. -/
theorem read_plain (unquoted : needsQuotes field = false) (done : Field) (record : List Field)
    (records : List (List Field)) :
    field.foldl step ⟨.inField, done, record, records⟩ =
      ⟨.inField, done ++ field, record, records⟩ := by
  induction field generalizing done with
  | nil => rw [List.foldl_nil, List.append_nil]
  | cons byte rest ih =>
      rcases plain_of_unquoted unquoted List.mem_cons_self with ⟨notComma, _, notEnd⟩
      have kept : step ⟨.inField, done, record, records⟩ byte =
          ⟨.inField, done ++ [byte], record, records⟩ := by
        rw [step_inField, stepPlain, if_neg notComma, notEnd]
        rfl
      have unquotedRest : needsQuotes rest = false :=
        (Bool.or_eq_false_iff.mp unquoted).2
      rw [List.foldl_cons, kept, ih unquotedRest, List.append_assoc]
      rfl

/-- The reader has a whole field: what comes next ends it. -/
structure Whole (reader : Reader) (field : Field) (record : List Field)
    (records : List (List Field)) : Prop where
  comma : step reader comma = ⟨.startField, [], record ++ [field], records⟩
  lineFeed : step reader lineFeed = between (records ++ [record ++ [field]])

theorem whole_plain (mode : Mode) (plain : mode = .startField ∨ mode = .inField)
    (field : Field) (record : List Field) (records : List (List Field)) :
    Whole ⟨mode, field, record, records⟩ field record records := by
  rcases plain with rfl | rfl
  · exact ⟨rfl, rfl⟩
  · exact ⟨rfl, rfl⟩

/-- From the start of a field, the written field is read as it was. -/
theorem read_field (field : Field) (record : List Field) (records : List (List Field)) :
    Whole ((writeField field).foldl step ⟨.startField, [], record, records⟩) field record
      records := by
  unfold writeField
  rcases quoted : needsQuotes field with _ | _
  · rw [if_neg Bool.false_ne_true]
    cases field with
    | nil => exact whole_plain .startField (Or.inl rfl) [] record records
    | cons byte rest =>
        rcases plain_of_unquoted quoted List.mem_cons_self with ⟨notComma, notQuote, notEnd⟩
        have kept : step ⟨.startField, [], record, records⟩ byte =
            ⟨.inField, [byte], record, records⟩ := by
          change stepStart _ byte = _
          rw [stepStart, if_neg notQuote, stepPlain, if_neg notComma, notEnd]
          rfl
        have unquotedRest : needsQuotes rest = false := (Bool.or_eq_false_iff.mp quoted).2
        rw [List.foldl_cons, kept, read_plain unquotedRest]
        exact whole_plain .inField (Or.inr rfl) _ record records
  · rw [if_pos rfl, List.foldl_cons, List.foldl_append]
    have opened : step ⟨.startField, [], record, records⟩ quote =
        ⟨.inQuotedField, [], record, records⟩ := rfl
    rw [opened, read_escape]
    exact ⟨rfl, rfl⟩

/-- From the start of a field, the rest of a written record is read as it was. -/
theorem read_fields (first : Field) (rest : List Field) (record : List Field)
    (records : List (List Field)) :
    (writeFields first rest ++ [lineFeed]).foldl step ⟨.startField, [], record, records⟩ =
      between (records ++ [record ++ first :: rest]) := by
  induction rest generalizing first record with
  | nil =>
      rw [List.foldl_append]
      exact (read_field first record records).lineFeed
  | cons second rest ih =>
      rw [writeFields, List.append_assoc, List.foldl_append, List.cons_append, List.foldl_cons,
        (read_field first record records).comma, ih, List.append_assoc]
      rfl

variable {first : Field} {rest : List Field}

/-- At the start of a record a written record does not begin with a terminator,
unless it is one empty field. -/
theorem head_writeRecord (several : first ≠ [] ∨ rest ≠ []) :
    exists byte tail, writeRecord first rest = byte :: tail ∧ isTerminator byte = false := by
  have begins : forall after, (first = [] -> exists byte tail, after = byte :: tail ∧
      isTerminator byte = false) ->
      exists byte tail, writeField first ++ after = byte :: tail ∧ isTerminator byte = false := by
    intro after empty
    unfold writeField
    rcases quoted : needsQuotes first with _ | _
    · rw [if_neg Bool.false_ne_true]
      cases first with
      | nil => exact empty rfl
      | cons byte tail =>
          exact ⟨byte, tail ++ after, rfl, (plain_of_unquoted quoted List.mem_cons_self).2.2⟩
    · rw [if_pos rfl]
      exact ⟨quote, _, rfl, rfl⟩
  unfold writeRecord
  cases rest with
  | nil =>
      refine begins [lineFeed] fun empty => ?_
      rcases several with nonempty | more
      · exact absurd empty nonempty
      · exact absurd rfl more
  | cons second rest =>
      rw [writeFields, List.append_assoc]
      exact begins _ fun _ => ⟨comma, _, rfl, rfl⟩

/-- A written record is read back as it was, after any other records. -/
theorem read_record (several : first ≠ [] ∨ rest ≠ []) (records : List (List Field)) :
    (writeRecord first rest).foldl step (between records) =
      between (records ++ [first :: rest]) := by
  have whole := read_fields first rest [] records
  rcases head_writeRecord several with ⟨byte, tail, begins, notEnd⟩
  unfold writeRecord at begins ⊢
  rw [begins, List.foldl_cons] at whole ⊢
  have same : step (between records) byte = step ⟨.startField, [], [], records⟩ byte := by
    unfold step between
    dsimp only
    rw [notEnd]
    change stepStart _ byte = stepStart _ byte
    unfold stepStart stepPlain
    rw [notEnd]
    rfl
  rw [same]
  exact whole

/-! ## Bytes that end nothing -/

/-- The bytes that end no record. -/
def isInner (field : Field) : Bool := field.all fun byte => !isTerminator byte

theorem isInner_iff :
    isInner field = true ↔ forall byte, byte ∈ field -> isTerminator byte = false := by
  unfold isInner
  rw [List.all_eq_true]
  refine forall₂_congr fun byte _ => ?_
  rw [Bool.not_eq_true']

/-- A byte that ends nothing adds no record, and a record has begun with it. -/
theorem step_inner (inner : isTerminator byte = false) (reader : Reader) :
    (reader.step byte).records = reader.records ∧ (reader.step byte).mode ≠ .startRecord := by
  have plain : (reader.stepPlain byte).records = reader.records ∧
      (reader.stepPlain byte).mode ≠ .startRecord := by
    unfold stepPlain
    rw [inner]
    split
    · exact ⟨rfl, nofun⟩
    · exact ⟨rfl, nofun⟩
  have begins : (reader.stepStart byte).records = reader.records ∧
      (reader.stepStart byte).mode ≠ .startRecord := by
    unfold stepStart
    split
    · exact ⟨rfl, nofun⟩
    · exact plain
  unfold step
  cases reader.mode with
  | startRecord =>
      dsimp only
      rw [inner]
      exact begins
  | startField => exact begins
  | inField => exact plain
  | inQuotedField =>
      dsimp only
      split
      · exact ⟨rfl, nofun⟩
      · exact ⟨rfl, nofun⟩
  | inDoubleEscapedQuote =>
      dsimp only
      split
      · exact ⟨rfl, nofun⟩
      · exact plain

theorem fold_inner {part : Bytes} (inner : isInner part = true) (reader : Reader) :
    (part.foldl step reader).records = reader.records ∧
      (part ≠ [] -> (part.foldl step reader).mode ≠ .startRecord) := by
  induction part generalizing reader with
  | nil => exact ⟨rfl, fun no => absurd rfl no⟩
  | cons byte rest ih =>
      have all := isInner_iff.mp inner
      have innerRest : isInner rest = true :=
        isInner_iff.mpr fun other listed => all other (List.mem_cons_of_mem _ listed)
      rcases step_inner (all byte List.mem_cons_self) reader with ⟨same, begun⟩
      rcases ih innerRest (reader.step byte) with ⟨sameRest, begunRest⟩
      refine ⟨sameRest.trans same, fun _ => ?_⟩
      cases rest with
      | nil => exact begun
      | cons next rest => exact begunRest (List.cons_ne_nil _ _)

/-- A text without a line ending is at most one record. -/
theorem readRecords_inner {part : Bytes} (inner : isInner part = true) :
    (part = [] ∧ readRecords part = []) ∨ exists record, readRecords part = [record] := by
  cases part with
  | nil => exact Or.inl ⟨rfl, rfl⟩
  | cons byte rest =>
      right
      rcases fold_inner inner (between []) with ⟨none_, begun⟩
      unfold readRecords finish
      rw [if_neg (begun (List.cons_ne_nil _ _))]
      unfold endRecord
      dsimp only
      rw [none_]
      exact ⟨_, rfl⟩

theorem mem_escape (listed : byte ∈ escape field) : byte ∈ field := by
  induction field with
  | nil => exact listed
  | cons first rest ih =>
      unfold escape at listed
      split at listed
      · rename_i isQuote
        rcases List.mem_cons.mp listed with same | listed
        · rw [same, isQuote]
          exact List.mem_cons_self
        · rcases List.mem_cons.mp listed with same | listed
          · rw [same, isQuote]
            exact List.mem_cons_self
          · exact List.mem_cons_of_mem _ (ih listed)
      · rcases List.mem_cons.mp listed with same | listed
        · rw [same]
          exact List.mem_cons_self
        · exact List.mem_cons_of_mem _ (ih listed)

theorem writeField_inner (inner : isInner field = true) : isInner (writeField field) = true := by
  unfold writeField
  split
  · refine isInner_iff.mpr fun byte listed => ?_
    rcases List.mem_cons.mp listed with rfl | listed
    · rfl
    · rcases List.mem_append.mp listed with inField | isQuote
      · exact isInner_iff.mp inner byte (mem_escape inField)
      · rw [List.mem_singleton.mp isQuote]
        rfl
  · exact inner

theorem writeFields_inner (inner : forall field, field ∈ first :: rest -> isInner field = true) :
    isInner (writeFields first rest) = true := by
  induction rest generalizing first with
  | nil => exact writeField_inner (inner first List.mem_cons_self)
  | cons second rest ih =>
      have head := writeField_inner (inner first List.mem_cons_self)
      have tail := @ih second fun field listed =>
        inner field (List.mem_cons_of_mem _ listed)
      refine isInner_iff.mpr fun byte listed => ?_
      rcases List.mem_append.mp listed with inHead | listed
      · exact isInner_iff.mp head byte inHead
      · rcases List.mem_cons.mp listed with rfl | inTail
        · rfl
        · exact isInner_iff.mp tail byte inTail

/-! ## What was read before -/

/-- The reader with some records before its own. -/
def Reader.behind (before : List (List Field)) (reader : Reader) : Reader :=
  { reader with records := before ++ reader.records }

section

variable (before : List (List Field))
include before

theorem endRecord_behind (reader : Reader) :
    (reader.behind before).endRecord = reader.endRecord.behind before := by
  unfold Reader.behind endRecord
  rw [List.append_assoc]

theorem stepPlain_behind (reader : Reader) (byte : UInt8) :
    (reader.behind before).stepPlain byte = (reader.stepPlain byte).behind before := by
  unfold stepPlain
  split
  · rfl
  · split
    · exact endRecord_behind before reader
    · rfl

theorem stepStart_behind (reader : Reader) (byte : UInt8) :
    (reader.behind before).stepStart byte = (reader.stepStart byte).behind before := by
  unfold stepStart
  split
  · rfl
  · exact stepPlain_behind before reader byte

theorem step_behind (reader : Reader) (byte : UInt8) :
    (reader.behind before).step byte = (reader.step byte).behind before := by
  unfold step
  change (match reader.mode with
    | .startRecord => _ | .startField => _ | .inField => _ | .inQuotedField => _
    | .inDoubleEscapedQuote => _) = _
  cases reader.mode with
  | startRecord =>
      dsimp only
      split
      · rfl
      · exact stepStart_behind before reader byte
  | startField => exact stepStart_behind before reader byte
  | inField => exact stepPlain_behind before reader byte
  | inQuotedField =>
      dsimp only
      split
      · rfl
      · rfl
  | inDoubleEscapedQuote =>
      dsimp only
      split
      · rfl
      · exact stepPlain_behind before reader byte

theorem fold_behind (part : Bytes) (reader : Reader) :
    part.foldl step (reader.behind before) = (part.foldl step reader).behind before := by
  induction part generalizing reader with
  | nil => rfl
  | cons byte rest ih =>
      rw [List.foldl_cons, step_behind, ih]
      rfl

/-- Records that were read stand before those of the rest. -/
theorem finish_between (part : Bytes) :
    (part.foldl step (between before)).finish = before ++ readRecords part := by
  have same : between before = (between []).behind before := by
    unfold between Reader.behind
    rw [List.append_nil]
  rw [same, fold_behind]
  unfold readRecords finish
  change (if (part.foldl step (between [])).mode = .startRecord then _ else _) = _
  split
  · rfl
  · rw [endRecord_behind]
    rfl

end

end Support.Csv
end RocmCli
