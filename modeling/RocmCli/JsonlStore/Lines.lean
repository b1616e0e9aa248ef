import RocmCli.Support.Segments
import RocmCli.JsonlStore.Files

namespace RocmCli
namespace JsonlStore

open Segments

/-!
# The lines of a store

Parsing a whole store, scanning one backwards from its end, and classifying
its last line ahead of an append.  All three work on bytes, since a record cut
mid-write can end inside a character.

The JSON library is a parameter: writing a record, reading one, and asking
whether some bytes are JSON at all.  What the engine relies on is collected in
`SerdeJson.Lawful`.
-/

abbrev Bytes := List UInt8

/-- The byte that ends a line. -/
def newline : UInt8 := 0x0a

/-- How many bytes the backward scans read per step. -/
def jsonlScanChunk : Nat := 64 * 1024

/-- The JSON library, as used on one record type. -/
structure SerdeJson (T : Type u) where
  toVec : T -> Bytes
  fromSlice : Bytes -> Except String T
  /-- Whether the bytes are valid JSON of any shape. -/
  validJson : Bytes -> Bool

/-- A record is written as one line holding a JSON object, reads back as
itself, and cut short anywhere is not JSON. -/
structure SerdeJson.Lawful {T : Type u} (serde : SerdeJson T) : Prop where
  oneLine : forall record, newline ∉ serde.toVec record
  roundTrip : forall record, serde.fromSlice (serde.toVec record) = .ok record
  object : forall record, (serde.toVec record).head? = some 0x7b
  parsedIsJson : forall bytes record, serde.fromSlice bytes = .ok record ->
    serde.validJson bytes = true
  cutIsNotJson : forall record cut, cut <+: serde.toVec record ->
    cut ≠ serde.toVec record -> serde.validJson cut = false

/-- Space, tab, line feed, form feed and carriage return. -/
def isAsciiWhitespace (byte : UInt8) : Bool :=
  byte == 0x20 || byte == 0x09 || byte == 0x0a || byte == 0x0c || byte == 0x0d

def isBlank (line : Bytes) : Bool := line.all isAsciiWhitespace

/-- The test is "not valid JSON", not "not a valid record": complete JSON of
the wrong shape is real data. -/
def isTornRecord {T : Type u} (serde : SerdeJson T) (line : Bytes) : Bool :=
  !serde.validJson line

/-! ## Whole-store parsing -/

section Parsing

variable {T : Type u} (serde : SerdeJson T) (path contextLabel : String)

/-- The loop over the store's segments, from line `index` on. -/
def parseJsonlLines (unterminated : Bool) (lineCount : Nat) :
    (index : Nat) -> List Bytes -> Except ErrorChain (List (Nat × T))
  | _, [] => .ok []
  | index, line :: rest =>
      if isBlank line then
        parseJsonlLines unterminated lineCount (index + 1) rest
      else
        match serde.fromSlice line with
        | .ok record =>
            match parseJsonlLines unterminated lineCount (index + 1) rest with
            | .ok records => .ok ((index, record) :: records)
            | .error error => .error error
        | .error error =>
            if unterminated && index + 1 == lineCount && isTornRecord serde line then
              parseJsonlLines unterminated lineCount (index + 1) rest
            else
              .error ((ErrorChain.ofMessage error).context
                s!"failed to parse {contextLabel} in {path}")

/-- Parse a whole store, pairing each record with its line index.  Only an
unterminated last line that is not JSON is skipped. -/
def parseJsonlRecords (bytes : Bytes) : Except ErrorChain (List (Nat × T)) :=
  let unterminated := !bytes.isEmpty && bytes.getLast? != some newline
  let segments := bytes.splitOn newline
  parseJsonlLines serde path contextLabel unterminated segments.length 0 segments

end Parsing

/-! ## Scanning backwards -/

/-- Read bytes `[start, stop)` of a file; fewer when the file ends before. -/
def readRange (file : Bytes) (start stop : Nat) : Bytes :=
  (file.drop start).take (stop - start)

/-- The index of the last byte satisfying `predicate`. -/
def rposition (predicate : UInt8 -> Bool) : Bytes -> Option Nat
  | [] => none
  | byte :: rest =>
      match rposition predicate rest with
      | some index => some (index + 1)
      | none => if predicate byte then some 0 else none

/-- Yields the segments of a file from last to first.  A zero chunk is read as
one, so every read makes progress. -/
structure ReverseLines where
  chunk : Nat
  chunk_pos : 0 < chunk
  /-- File offset of `pending`'s first byte; what is before it is unread. -/
  pos : Nat
  pending : Bytes
  done : Bool

namespace ReverseLines

def new (len chunk : Nat) : ReverseLines where
  chunk := if chunk = 0 then 1 else chunk
  chunk_pos := by split <;> omega
  pos := len
  pending := []
  done := false

/-- The reads of one `nextLine`, each prepending a chunk until the pending
bytes hold a line break or the file's start is reached. -/
def scan (path : String) (file : Bytes) (lines : ReverseLines) :
    Except ErrorChain (Nat × Bytes) × ReverseLines :=
  match rposition (fun byte => byte == newline) lines.pending with
  | some found =>
      (.ok (lines.pos + found + 1, lines.pending.drop (found + 1)),
        { lines with pending := lines.pending.take found })
  | none =>
      if _atStart : lines.pos = 0 then
        (.ok (0, lines.pending), { lines with pending := [], done := true })
      else
        let start := lines.pos - lines.chunk
        let bytes := readRange file start lines.pos
        if bytes.length != lines.pos - start && !lines.pending.isEmpty then
          (.error (ErrorChain.ofMessage s!"{path} shrank while it was being read"), lines)
        else
          scan path file { lines with pending := bytes ++ lines.pending, pos := start }
termination_by lines.pos
decreasing_by
  have progress := lines.chunk_pos
  simp_wf
  omega

/-- The next line with its offset in the file; `none` after the first line. -/
def nextLine (path : String) (file : Bytes) (lines : ReverseLines) :
    Except ErrorChain (Option (Nat × Bytes)) × ReverseLines :=
  if lines.done then (.ok none, lines)
  else
    match scan path file lines with
    | (.ok line, rest) => (.ok (some line), rest)
    | (.error error, rest) => (.error error, rest)

end ReverseLines

/-! ## The last line, ahead of an append -/

/-- How the current last line was found, with the offset of the append's own
bytes, or of the debris to be cut first. -/
inductive TailState where
  | clean (start : Nat)
  | validUnterminated (start : Nat)
  | torn (tailStart : Nat)
  deriving DecidableEq, Repr

/-- Classify the current last line.  `statError` and `readError` are the
system's failures of the two kinds of call it makes. -/
def inspectTail {T : Type u} (serde : SerdeJson T) (path : String)
    (statError readError : Option String) (file : Bytes) : Except ErrorChain TailState :=
  match statError with
  | some error => .error ((ErrorChain.ofMessage error).context s!"failed to stat {path}")
  | none =>
    let len := file.length
    if len = 0 then .ok (.clean len)
    else
      match readError with
      | some error => .error ((ErrorChain.ofMessage error).context s!"failed to read {path}")
      | none =>
        if readRange file (len - 1) len = [newline] then .ok (.clean len)
        else
          match (ReverseLines.nextLine path file (ReverseLines.new len jsonlScanChunk)).1 with
          | .error error => .error error
          | .ok line =>
              let (tailStart, tail) := line.getD (0, [])
              if tail.isEmpty then .ok (.clean len)
              else if isBlank tail || !isTornRecord serde tail then .ok (.validUnterminated len)
              else .ok (.torn tailStart)

/-! ## What the scan yields -/

theorem readRange_eq_self_of_initial (file : Bytes) {start stop : Nat} (le : start ≤ stop) :
    file.take start ++ readRange file start stop = file.take stop := by
  rw [readRange, ← List.take_add, Nat.add_sub_cancel' le]

theorem rposition_none {bytes : Bytes} {target : UInt8}
    (absent : rposition (fun byte => byte == target) bytes = none) : target ∉ bytes := by
  induction bytes with
  | nil => exact List.not_mem_nil
  | cons byte rest ih =>
      rw [rposition] at absent
      split at absent
      · cases absent
      next earlier =>
        have different : ¬ byte = target := by
          intro same
          simp [same] at absent
        intro member
        rcases List.mem_cons.mp member with same | later
        · exact different same.symm
        · exact ih earlier later

/-- The position found splits the bytes at the last occurrence. -/
theorem rposition_some {bytes : Bytes} {target : UInt8} {found : Nat}
    (present : rposition (fun byte => byte == target) bytes = some found) :
    exists front segment, bytes = front ++ target :: segment ∧ found = front.length ∧
      target ∉ segment := by
  induction bytes generalizing found with
  | nil => cases present
  | cons byte rest ih =>
      rw [rposition] at present
      split at present
      next index later =>
        rcases ih later with ⟨front, segment, split, length, free⟩
        refine ⟨byte :: front, segment, ?_, ?_, free⟩
        · rw [split, List.cons_append]
        · cases present
          rw [length, List.length_cons]
      next absent =>
        split at present
        next same =>
          cases present
          refine ⟨[], rest, ?_, rfl, rposition_none absent⟩
          rw [List.nil_append, eq_of_beq same]
        next => cases present

namespace ReverseLines

/-- The bytes a scan has not yielded yet. -/
def remaining (file : Bytes) (lines : ReverseLines) : Bytes :=
  file.take lines.pos ++ lines.pending

/-- One call yields the last segment of what remains, at its offset, and leaves
what stands before its separator.  The induction follows the scan's own reads:
each moves bytes from the unread part to the pending part. -/
theorem scan_spec (path : String) (file : Bytes) (lines : ReverseLines)
    (inside : lines.pos ≤ file.length) (open_ : lines.done = false) :
    exists rest, scan path file lines =
        (.ok ((upToLast newline (lines.remaining file)).length,
          lastSegment newline (lines.remaining file)), rest) ∧
      rest.chunk = lines.chunk ∧ rest.pos ≤ file.length ∧
      rest.remaining file = (upToLast newline (lines.remaining file)).dropLast ∧
      (rest.done = true ↔ newline ∉ lines.remaining file) := by
  fun_induction scan path file lines with
  | case1 lines found present =>
      rcases rposition_some present with ⟨front, segment, split, length, free⟩
      have whole : lines.remaining file =
          (file.take lines.pos ++ front) ++ newline :: segment := by
        rw [remaining, split, List.append_assoc]
      have member : newline ∈ lines.remaining file := by rw [whole]; simp
      refine ⟨{ lines with pending := lines.pending.take found }, ?_, rfl, inside, ?_, ?_⟩
      · rw [whole, upToLast_append_cons free, lastSegment_append_cons free, split, length]
        simp [Nat.min_eq_left inside, Nat.add_assoc]
      · rw [whole, upToLast_append_cons free, List.dropLast_concat]
        simp [remaining, split, length]
      · simp [open_, member]
  | case2 lines absent atStart =>
      have free : newline ∉ lines.remaining file := by
        simpa [remaining, atStart] using rposition_none absent
      refine ⟨{ lines with pending := [], done := true }, ?_, rfl, inside, ?_, ?_⟩
      · rw [upToLast_of_free free, lastSegment_of_free free]
        simp [remaining, atStart]
      · rw [upToLast_of_free free]
        simp [remaining, atStart]
      · simp [free]
  | case3 lines absent notAtStart start bytes shrank =>
      have full : bytes.length = lines.pos - start := by
        simp [bytes, readRange]
        omega
      simp [full] at shrank
  | case4 lines absent notAtStart start bytes notShrank ih =>
      have same : remaining file
          { lines with pending := bytes ++ lines.pending, pos := start } =
          lines.remaining file := by
        have joined := readRange_eq_self_of_initial file (Nat.sub_le lines.pos lines.chunk)
        simp only [remaining, ← List.append_assoc]
        rw [joined]
      have shorter : start ≤ file.length := Nat.le_trans (Nat.sub_le _ _) inside
      have result := ih shorter open_
      rw [same] at result
      exact result

/-- The first line a scan yields is the segment after the last line break. -/
theorem nextLine_new (path : String) (file : Bytes) (chunk : Nat) :
    (nextLine path file (new file.length chunk)).1 =
      .ok (some ((upToLast newline file).length, lastSegment newline file)) := by
  rcases scan_spec path file (new file.length chunk) (Nat.le_refl _) rfl with
    ⟨rest, scanned, -⟩
  have whole : (new file.length chunk).remaining file = file := by
    simp [remaining, new]
  rw [whole] at scanned
  simp [nextLine, scanned, show (new file.length chunk).done = false from rfl]

end ReverseLines

/-! ## Classifying the last line -/

/-- A store ending on a line boundary, or empty, is clean. -/
theorem inspectTail_clean {T : Type u} (serde : SerdeJson T) (path : String) {file : Bytes}
    (boundary : lastSegment newline file = []) :
    inspectTail serde path none none file = .ok (.clean file.length) := by
  rw [inspectTail]
  by_cases empty : file.length = 0
  · simp [empty]
  · simp only [empty, if_false, ReverseLines.nextLine_new, boundary]
    simp

/-- Otherwise the last segment alone decides. -/
theorem inspectTail_unterminated {T : Type u} (serde : SerdeJson T) (path : String)
    {file : Bytes} (unterminated : lastSegment newline file ≠ []) :
    inspectTail serde path none none file =
      .ok (if isBlank (lastSegment newline file) || !isTornRecord serde (lastSegment newline file)
        then .validUnterminated file.length
        else .torn (upToLast newline file).length) := by
  have nonempty : ¬ file.length = 0 := by
    intro empty
    rw [List.eq_nil_of_length_eq_zero empty] at unterminated
    exact unterminated (lastSegment_of_free List.not_mem_nil)
  have notBoundary : ¬ readRange file (file.length - 1) file.length = [newline] := by
    intro boundary
    have joined := readRange_eq_self_of_initial file (Nat.sub_le file.length 1)
    rw [boundary, List.take_length] at joined
    apply unterminated
    rw [← joined]
    exact lastSegment_append_cons List.not_mem_nil _
  have tailNonempty : (lastSegment newline file).isEmpty = false := by
    simpa using unterminated
  rw [inspectTail]
  simp only [nonempty, notBoundary, if_false, ReverseLines.nextLine_new, Option.getD_some,
    tailNonempty, Bool.false_eq_true]
  split <;> rfl

end JsonlStore
end RocmCli
