import RocmCli.Telemetry.BenchDelivery

namespace RocmCli
namespace BenchRows

open Text Runs Support Csv

/-!
# Rows as comma-separated lines

With the eighteen columns as the fields of a row, the reader and the writer of
comma-separated records are a library as the delivery of rows relies on it.  On
them a drain in the middle of a write is shown to lose a row.
-/

/-! ## The library -/

/-- A row as its eighteen fields, none with a line ending. -/
structure CsvRow where
  first : Field
  rest : List Field
  columns : rest.length = 17
  oneLine : forall field, field ∈ first :: rest -> isInner field = true

def CsvRow.fields (row : CsvRow) : List Field := row.first :: row.rest

/-- The row of a record that has its columns. -/
def toRow : List Field -> Option CsvRow
  | [] => none
  | first :: rest =>
      if fits : rest.length = 17 ∧ (first :: rest).all isInner = true then
        some ⟨first, rest, fits.1, List.all_eq_true.mp fits.2⟩
      else none

/-- The rows of the records after a header. -/
def toRows (columns : Nat) : List (List Field) -> Except String (List CsvRow)
  | [] => .ok []
  | record :: records =>
      if record.length ≠ columns then .error "found record with unequal lengths"
      else
        match toRow record with
        | none => .error "CSV deserialize error"
        | some row => (toRows columns records).map (row :: ·)

def readRows (content : BenchRows.Bytes) : Except String (List CsvRow) :=
  match readRecords content with
  | [] => .ok []
  | header :: records => toRows header.length records

/-- The row of a text that is one record. -/
def readsAsRow (part : BenchRows.Bytes) : Option CsvRow :=
  match readRecords part with
  | [record] => toRow record
  | _ => none

def csvLibrary : CsvLibrary CsvRow where
  line row := writeRecord row.first row.rest
  read := readRows
  readsAs := readsAsRow

/-! ## The library is lawful -/

theorem CsvRow.rest_ne_nil (row : CsvRow) : row.rest ≠ [] := by
  intro none_
  have columns := row.columns
  rw [none_] at columns
  cases columns

theorem headerBytes_record :
    headerBytes = writeRecord (asciiBytes "cell") (csvColumns.tail.map asciiBytes) := by
  decide +kernel

theorem header_columns : (csvColumns.tail.map asciiBytes).length = 17 := by decide

/-- The names of the columns, as they are read. -/
def headerFields : List Field := asciiBytes "cell" :: csvColumns.tail.map asciiBytes

/-- Reading a file with rows goes through its header and its rows. -/
theorem fold_fileOf (rows : List CsvRow) :
    (csvLibrary.fileOf rows).foldl Reader.step (Reader.between []) =
      Reader.between (headerFields :: rows.map CsvRow.fields) := by
  have later : forall before : List (List Field),
      (rows.flatMap csvLibrary.line).foldl Reader.step (Reader.between before) =
        Reader.between (before ++ rows.map CsvRow.fields) := by
    induction rows with
    | nil =>
        intro before
        rw [List.map_nil, List.append_nil]
        rfl
    | cons row rows ih =>
        intro before
        rw [List.flatMap_cons, List.foldl_append]
        change List.foldl Reader.step ((writeRecord row.first row.rest).foldl Reader.step _) _ = _
        rw [read_record (Or.inr row.rest_ne_nil), ih, List.append_assoc]
        rfl
  unfold CsvLibrary.fileOf
  rw [List.foldl_append, headerBytes_record,
    read_record (Or.inr (List.ne_nil_of_length_eq_add_one header_columns)), later]
  rfl

theorem toRow_fields (row : CsvRow) : toRow row.fields = some row := by
  have fits : row.rest.length = 17 ∧ (row.first :: row.rest).all isInner = true :=
    ⟨row.columns, List.all_eq_true.mpr row.oneLine⟩
  exact dif_pos fits

theorem toRows_fields (rows : List CsvRow) (records : List (List Field)) :
    toRows headerFields.length (rows.map CsvRow.fields ++ records) =
      (toRows headerFields.length records).map (rows ++ ·) := by
  induction rows with
  | nil =>
      change toRows _ records = _
      cases toRows headerFields.length records with
      | error error => rfl
      | ok others => rfl
  | cons row rows ih =>
      have columns : row.fields.length = headerFields.length := by
        unfold CsvRow.fields headerFields
        rw [List.length_cons, List.length_cons, row.columns, header_columns]
      rw [List.map_cons, List.cons_append, toRows, if_neg (not_not.mpr columns), toRow_fields]
      dsimp only
      rw [ih]
      cases toRows headerFields.length records with
      | error error => rfl
      | ok others => rfl

theorem csvLibrary_read (content : BenchRows.Bytes) : csvLibrary.read content = readRows content :=
  rfl

theorem csvLibrary_lawful : csvLibrary.Lawful where
  lineEnds row := by
    refine ⟨writeFields row.first row.rest, rfl, ?_, ?_⟩
    · intro listed
      have inner := isInner_iff.mp (writeFields_inner row.oneLine) newline listed
      cases inner
    · have several := row.rest_ne_nil
      cases others : row.rest with
      | nil => exact absurd others several
      | cons second rest =>
          rw [writeFields]
          exact List.append_ne_nil_of_right_ne_nil _ (List.cons_ne_nil _ _)
  readHeader front isFront := by
    rcases isFront with ⟨rest, whole⟩
    rcases rest.eq_nil_or_concat with rfl | ⟨back, last, rfl⟩
    · rw [List.append_nil] at whole
      subst whole
      have header := fold_fileOf []
      rw [fileOf_nil] at header
      rw [csvLibrary_read, readRows, readRecords, header]
      rfl
    · rw [List.concat_eq_append, ← List.append_assoc, headerBytes_eq] at whole
      have line := (List.append_inj' whole rfl).1
      have inner : isInner headerLine = true := by decide +kernel
      have innerFront : isInner front = true := by
        refine isInner_iff.mpr fun byte listed => ?_
        exact isInner_iff.mp inner byte (line ▸ List.mem_append_left back listed)
      rw [csvLibrary_read, readRows]
      rcases readRecords_inner innerFront with ⟨_, none_⟩ | ⟨record, one⟩
      · rw [none_]
      · rw [one]
        rfl
  readRows rows := by
    have all := toRows_fields rows []
    rw [List.append_nil] at all
    rw [csvLibrary_read, BenchRows.readRows, readRecords, fold_fileOf]
    change toRows headerFields.length (rows.map CsvRow.fields) = _
    rw [all]
    exact congrArg Except.ok (List.append_nil rows)
  readHalf rows row part rest isLine nonempty unfinished noRow := by
    have innerPart : isInner part = true := by
      refine isInner_iff.mpr fun byte listed => ?_
      have inner := isInner_iff.mp (writeFields_inner row.oneLine)
      rcases rest.eq_nil_or_concat with nothing | ⟨back, last, rfl⟩
      · exact absurd nothing unfinished
      · rw [List.concat_eq_append, ← List.append_assoc] at isLine
        have front := (List.append_inj' isLine rfl).1
        exact inner byte (front ▸ List.mem_append_left back listed)
    rcases readRecords_inner innerPart with ⟨empty, _⟩ | ⟨record, one⟩
    · exact absurd empty nonempty
    · have records : readRecords (csvLibrary.fileOf rows ++ part) =
          headerFields :: (rows.map CsvRow.fields ++ [record]) := by
        unfold readRecords
        rw [List.foldl_append, fold_fileOf, finish_between, one]
        rfl
      have none_ : toRow record = none := by
        change readsAsRow part = none at noRow
        unfold readsAsRow at noRow
        rw [one] at noRow
        exact noRow
      rw [csvLibrary_read, readRows, records]
      dsimp only
      rw [toRows_fields, toRows]
      split
      · exact ⟨_, rfl⟩
      · rw [none_]
        exact ⟨_, rfl⟩

/-! ## A drain in the middle of a write -/

/-- A row of a short benchmark, as it is written. -/
def sampleRow : CsvRow where
  first := asciiBytes "bench-c1"
  rest := ["1", "1", "test-model", "vllm", "16", "8", "4", "200", "100", "10.000000", "5.000000",
    "0.500000", "l", "1", "0", "50.000000", "20.000000"].map asciiBytes
  columns := by decide
  oneLine := List.all_eq_true.mp (by decide +kernel)

/-- The call has written its row but for the last nine bytes when the tailer
drains, and finishes after that. -/
def drainedMidway : List (Action CsvRow) :=
  Action.append sampleRow :: (List.replicate 272 Action.write ++
    Action.drain :: (List.replicate 9 Action.write ++ [Action.drain]))

/-- The row is returned with 2 for its last figure, which is 20, and never again. -/
theorem drainedMidway_loses : ¬ ExactlyOnce csvLibrary (fresh none) drainedMidway := by
  intro once
  have fields := once.written.map CsvRow.fields
  revert fields
  decide +kernel

/-- Writing is never out of order. -/
theorem guarded_writes {Row : Type} {library : CsvLibrary Row} (state : State Row) (count : Nat) :
    Guarded (step library) (Orderly library) state (List.replicate count .write) := by
  induction count generalizing state with
  | zero => trivial
  | succ count ih => exact ⟨trivial, ih _⟩

/-- A call that is not disturbed, between two drains. -/
theorem exactlyOnce_undisturbed :
    ExactlyOnce csvLibrary (fresh (some []))
      (([Action.drain, Action.append sampleRow] ++ List.replicate 281 Action.write) ++
        [Action.drain]) := by
  refine exactlyOnce csvLibrary_lawful rfl _ ?_
  refine (guarded_append _ _ _).mpr ⟨(guarded_append _ _ _).mpr ⟨⟨?_, ?_, trivial⟩,
    guarded_writes _ _⟩, ?_, trivial⟩
  · intro begun
    revert begun
    decide
  · intro _ begun
    revert begun
    decide
  · intro _ unfinished
    have ended : unterminated (finalState (step csvLibrary) (fresh (some []))
        ([Action.drain, Action.append sampleRow] ++
          List.replicate 281 Action.write)).content = [] := by
      decide +kernel
    exact absurd ended unfinished

end BenchRows
end RocmCli
