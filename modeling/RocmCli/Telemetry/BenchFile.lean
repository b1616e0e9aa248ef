import RocmCli.Support.Runs
import RocmCli.Support.Text

namespace RocmCli
namespace BenchRows

open Text Runs

/-!
# Benchmark rows on their way to the dashboard

Benchmark runs append rows to one CSV file under a lock, byte by byte as far as
a reader can see, and a tailer reads the whole file again each time and returns
the rows it has not returned yet.  A run may stop at any byte, and what it leaves
behind stays in the file.
-/

abbrev Bytes := List UInt8

def newline : UInt8 := 0x0a

def csvColumns : List String :=
  ["cell", "run", "concurrency", "model", "engine", "input_len", "output_len", "n_requests",
    "prompt_tokens", "completion_tokens", "prompt_tps", "gen_tps", "wall_s", "launcher",
    "max_running_reqs", "max_waiting_reqs", "ttft_ms", "tpot_ms"]

def headerChars : List Char := [','].intercalate (csvColumns.map String.toList) ++ ['\n']

def csvHeader : String := String.ofList headerChars

def headerBytes : Bytes := headerChars.map fun character => UInt8.ofNat character.toNat

/-- The header without the line feed at its end. -/
def headerLine : Bytes := headerBytes.dropLast

/-! ## The CSV library -/

/-- Rows as the CSV library writes and reads them: the line of a row, the rows of
a whole file with its header, and the row that a last line without a line feed
is read as, if it is read as one. -/
structure CsvLibrary (Row : Type) where
  line : Row -> Bytes
  read : Bytes -> Except String (List Row)
  readsAs : Bytes -> Option Row

/-- The content of a file with some rows. -/
def CsvLibrary.fileOf {Row : Type} (library : CsvLibrary Row) (rows : List Row) : Bytes :=
  headerBytes ++ rows.flatMap library.line

/-- What is relied on: a row is one line, written rows are read back, a header
alone has no rows, and a last line that is no row is an error. -/
structure CsvLibrary.Lawful {Row : Type} (library : CsvLibrary Row) : Prop where
  lineEnds : forall row, exists body,
    library.line row = body ++ [newline] ∧ newline ∉ body ∧ body ≠ []
  readHeader : forall front, front <+: headerBytes -> library.read front = .ok []
  readRows : forall rows, library.read (library.fileOf rows) = .ok rows
  readHalf : forall rows row part rest, part ++ rest = library.line row -> part ≠ [] ->
    rest ≠ [] -> library.readsAs part = none ->
      exists error, library.read (library.fileOf rows ++ part) = .error error

/-! ## Appending -/

/-- The first line, with its line feed if it has one. -/
def firstLine : Bytes -> Bytes
  | [] => []
  | byte :: rest => if byte = newline then [byte] else byte :: firstLine rest

/-- The first line is text, and that of the header but for blanks around it. -/
def headerMatches (content : Bytes) : Bool :=
  isUtf8 (firstLine content) && trim (fromUtf8Lossy (firstLine content)) == trim csvHeader

variable {Row : Type}

/-- What a call that has the lock is going to write, unless the header is not
the one it knows.  The warning about rows without an engine is left out. -/
def appendOneRow (library : CsvLibrary Row) (content : Bytes) (row : Row) : Option Bytes :=
  if content = [] then some (headerBytes ++ library.line row)
  else if headerMatches content then some (library.line row)
  else none

/-- A call that has the lock, with what it has still to write. -/
structure Writer (Row : Type) where
  row : Row
  pending : Bytes

/-- The file, the call that has its lock, the tailer's count, the rows whose
append has returned `Ok` and what the successful drains have returned. -/
structure State (Row : Type) where
  file : Option Bytes
  writer : Option (Writer Row)
  rowsSeen : Nat
  appended : List Row
  drained : List (List Row)

/-- A call takes the lock, or waits for it; the call that has it writes its next
byte, or stops; the tailer drains. -/
inductive Action (Row : Type) where
  | append (row : Row)
  | write
  | stop
  | drain

def State.content (state : State Row) : Bytes := state.file.getD []

/-- The next byte is in the file; with the last one the call has returned. -/
def writeByte (state : State Row) (row : Row) (byte : UInt8) (pending : Bytes) : State Row :=
  if pending = [] then
    { state with
      file := some (state.content ++ [byte])
      writer := none
      appended := state.appended ++ [row] }
  else
    { state with
      file := some (state.content ++ [byte])
      writer := some ⟨row, pending⟩ }

/-! ## Draining -/

/-- All rows were read: return those not returned yet, or all of them where the
file has become shorter. -/
def returnNew (state : State Row) (all : List Row) : State Row :=
  let seen := if all.length < state.rowsSeen then 0 else state.rowsSeen
  { state with
    rowsSeen := seen + (all.drop seen).length
    drained := state.drained ++ [all.drop seen] }

/-- Without a file there is nothing to return; where reading fails, nothing
changes. -/
def drain (library : CsvLibrary Row) (state : State Row) : State Row :=
  match state.file with
  | none => { state with drained := state.drained ++ [[]] }
  | some content =>
      match library.read content with
      | .error _ => state
      | .ok all => returnNew state all

def drainSucceeds (library : CsvLibrary Row) (state : State Row) : Bool :=
  match state.file with
  | none => true
  | some content => (library.read content).isOk

def step (library : CsvLibrary Row) (state : State Row) : Action Row -> State Row
  | .append row =>
      match state.writer with
      | some _ => state
      | none =>
          { state with
            file := some state.content
            writer := (appendOneRow library state.content row).map fun pending => ⟨row, pending⟩ }
  | .write =>
      match state.writer with
      | some ⟨row, byte :: pending⟩ => writeByte state row byte pending
      | _ => state
  | .stop => { state with writer := none }
  | .drain => drain library state

/-! ## The first line -/

theorem firstLine_ended {body : Bytes} (inner : newline ∉ body) (rest : Bytes) :
    firstLine (body ++ newline :: rest) = body ++ [newline] := by
  induction body with
  | nil => exact if_pos rfl
  | cons byte body ih =>
      rw [List.mem_cons, not_or] at inner
      rw [List.cons_append, firstLine, if_neg (Ne.symm inner.1), ih inner.2]
      rfl

theorem firstLine_length (content : Bytes) : (firstLine content).length ≤ content.length := by
  induction content with
  | nil => exact Nat.le_refl _
  | cons byte rest ih =>
      unfold firstLine
      split
      · exact Nat.succ_le_succ (Nat.zero_le _)
      · exact Nat.succ_le_succ ih

theorem utf8Chars_length (fuel : Nat) (bytes : Bytes) : (utf8Chars fuel bytes).length ≤ fuel := by
  induction fuel generalizing bytes with
  | zero => exact Nat.le_refl _
  | succ fuel ih =>
      cases bytes with
      | nil => exact Nat.zero_le _
      | cons lead rest => exact Nat.succ_le_succ (ih _)

theorem trim_length (text : String) : (trim text).toList.length ≤ text.toList.length := by
  unfold trim trimMatches
  rw [String.toList_ofList, List.length_reverse]
  refine Nat.le_trans (List.dropWhile_sublist _).length_le ?_
  rw [List.length_reverse]
  exact (List.dropWhile_sublist _).length_le

theorem headerBytes_eq : headerBytes = headerLine ++ [newline] := by decide +kernel

theorem newline_notMem_headerLine : newline ∉ headerLine := by decide

theorem headerLine_length : headerLine.length = (trim csvHeader).toList.length := by
  unfold trim trimMatches csvHeader
  rw [String.toList_ofList, String.toList_ofList]
  decide +kernel

/-- Less than the line of the header does not match it. -/
theorem headerMatches_short {content : Bytes} (short : content.length < headerLine.length) :
    headerMatches content = false := by
  unfold headerMatches
  rw [Bool.and_eq_false_iff]
  right
  rw [beq_eq_false_iff_ne]
  intro same
  have trimmed := trim_length (fromUtf8Lossy (firstLine content))
  have decoded := utf8Chars_length (firstLine content).length (firstLine content)
  have line := firstLine_length content
  rw [same, ← headerLine_length] at trimmed
  unfold fromUtf8Lossy at trimmed
  rw [String.toList_ofList] at trimmed
  omega

theorem headerMatches_headerBytes : headerMatches headerBytes = true := by
  have line : firstLine headerBytes = headerBytes := by decide +kernel
  have text : fromUtf8Lossy headerBytes = csvHeader := by
    have decoded : utf8Chars headerBytes.length headerBytes = headerChars := by decide +kernel
    unfold fromUtf8Lossy csvHeader
    rw [decoded]
  have valid : isUtf8 headerBytes = true := by decide +kernel
  unfold headerMatches
  rw [line, text, valid, beq_self_eq_true]
  rfl

/-- A file that begins with the header matches it. -/
theorem headerMatches_front (rest : Bytes) : headerMatches (headerBytes ++ rest) = true := by
  have same : firstLine (headerBytes ++ rest) = firstLine headerBytes := by
    rw [headerBytes_eq, List.append_assoc, List.singleton_append,
      firstLine_ended newline_notMem_headerLine, firstLine_ended newline_notMem_headerLine]
  have whole := headerMatches_headerBytes
  unfold headerMatches at whole ⊢
  rw [same]
  exact whole

/-! ## The last line -/

/-- The bytes after the last line feed. -/
def unterminated (content : Bytes) : Bytes :=
  (content.reverse.takeWhile fun byte => byte != newline).reverse

theorem takeWhile_inner {part : Bytes} (inner : newline ∉ part) (rest : Bytes) :
    (part ++ newline :: rest).takeWhile (fun byte => byte != newline) = part := by
  induction part with
  | nil => rfl
  | cons byte part ih =>
      rw [List.mem_cons, not_or] at inner
      have other : (byte != newline) = true := bne_iff_ne.mpr (Ne.symm inner.1)
      rw [List.cons_append, List.takeWhile_cons, other, if_pos rfl,
        ih inner.2]

theorem unterminated_ended (front : Bytes) {part : Bytes} (inner : newline ∉ part) :
    unterminated (front ++ [newline] ++ part) = part := by
  unfold unterminated
  have innerReverse : newline ∉ part.reverse := fun listed => inner (List.mem_reverse.mp listed)
  rw [List.reverse_append, List.reverse_append, List.reverse_singleton, List.singleton_append,
    takeWhile_inner innerReverse, List.reverse_reverse]

/-- A text of one unended line is unterminated as a whole. -/
theorem unterminated_whole {part : Bytes} (inner : newline ∉ part) : unterminated part = part := by
  unfold unterminated
  have innerReverse : newline ∉ part.reverse := fun listed => inner (List.mem_reverse.mp listed)
  rw [List.takeWhile_eq_self_iff.mpr, List.reverse_reverse]
  intro byte listed
  exact bne_iff_ne.mpr fun isNewline => innerReverse (isNewline ▸ listed)

/-- Header and lines end with a line feed. -/
theorem rows_end {library : CsvLibrary Row} (lawful : library.Lawful) (rows : List Row) :
    exists front, library.fileOf rows = front ++ [newline] := by
  unfold CsvLibrary.fileOf
  rcases rows.eq_nil_or_concat with rfl | ⟨before, last, rfl⟩
  · exact ⟨headerLine, by rw [List.flatMap_nil, List.append_nil, headerBytes_eq]⟩
  · rcases lawful.lineEnds last with ⟨body, ends, _⟩
    refine ⟨headerBytes ++ before.flatMap library.line ++ body, ?_⟩
    rw [List.concat_eq_append, List.flatMap_append, List.flatMap_singleton, ends]
    simp only [List.append_assoc]

/-- The front of a line that is not the whole of it has no line feed. -/
theorem newline_notMem_part {library : CsvLibrary Row} (lawful : library.Lawful) {row : Row}
    {part rest : Bytes} (isLine : part ++ rest = library.line row) (unfinished : rest ≠ []) :
    newline ∉ part := by
  rcases lawful.lineEnds row with ⟨body, ends, inner, _⟩
  intro listed
  rw [ends] at isLine
  rcases rest.eq_nil_or_concat with nothing | ⟨back, last, rfl⟩
  · exact unfinished nothing
  · rw [List.concat_eq_append, ← List.append_assoc] at isLine
    have front := (List.append_inj' isLine rfl).1
    exact inner (front ▸ List.mem_append_left back listed)

end BenchRows
end RocmCli
