import RocmCli.JsonlStore.Reading
import RocmCli.JsonlStore.Snapshot

namespace RocmCli
namespace JsonlStore

open Segments

/-!
# Reading the most recent records

A tail read scans each file backwards and stops once it has enough.  The lines
it has reached, read forwards, give the records it returns, and the lines it
has not reached do not matter.
-/

variable {T : Type u}

/-! ## The read -/

section Read

variable (serde : SerdeJson T) (path contextLabel : String)

namespace ReverseLines

/-- How much of a file a scan may still yield. -/
def left (lines : ReverseLines) : Nat :=
  if lines.done then 0 else lines.pos + lines.pending.length + 1

theorem rposition_lt {predicate : UInt8 -> Bool} {bytes : Bytes} {found : Nat}
    (present : rposition predicate bytes = some found) : found < bytes.length := by
  induction bytes generalizing found with
  | nil => cases present
  | cons byte rest ih =>
      rw [rposition] at present
      split at present
      next index later =>
        cases present
        exact Nat.succ_lt_succ (ih later)
      · split at present
        · cases present
          exact Nat.zero_lt_succ _
        · cases present

theorem scan_left (path : String) (file : Bytes) (lines : ReverseLines) {line : Nat × Bytes}
    {rest : ReverseLines} (scanned : scan path file lines = (.ok line, rest))
    (open_ : lines.done = false) : rest.left < lines.left := by
  fun_induction scan path file lines with
  | case1 lines found present =>
      cases scanned
      have inside := rposition_lt present
      simp only [left, open_, Bool.false_eq_true, if_false, List.length_take]
      omega
  | case2 lines absent atStart =>
      cases scanned
      simp [left, open_]
  | case3 lines absent notAtStart start bytes shrank => cases scanned
  | case4 lines absent notAtStart start bytes notShrank ih =>
      have later := ih scanned open_
      have short : bytes.length ≤ lines.pos - start := List.length_take_le _ _
      have below : start ≤ lines.pos := Nat.sub_le _ _
      simp only [left, open_, Bool.false_eq_true, if_false, List.length_append] at later ⊢
      omega

theorem nextLine_left {path : String} {file : Bytes} {lines rest : ReverseLines}
    {line : Nat × Bytes} (next : nextLine path file lines = (.ok (some line), rest)) :
    rest.left < lines.left := by
  unfold nextLine at next
  cases open_ : lines.done with
  | true =>
      rw [if_pos open_] at next
      cases next
  | false =>
      rw [if_neg (by simp [open_])] at next
      split at next
      next scanned =>
        cases next
        exact scan_left path file lines scanned open_
      · cases next

end ReverseLines

def parseLine (line : Bytes) : Except ErrorChain T :=
  match serde.fromSlice line with
  | .ok record => .ok record
  | .error error =>
      .error ((ErrorChain.ofMessage error).context s!"failed to parse {contextLabel} in {path}")

/-- The loop of a scan: lines from the end on, until there are enough records. -/
def scanLines (file : Bytes) (limit : Nat) (lines : ReverseLines) (records : List T) :
    Except ErrorChain (List T) :=
  if records.length < limit then
    match _next : ReverseLines.nextLine path file lines with
    | (.error error, _) => .error error
    | (.ok none, _) => .ok records
    | (.ok (some (_, line)), rest) =>
        if isBlank line then scanLines file limit rest records
        else
          match parseLine serde path contextLabel line with
          | .error error => .error error
          | .ok record => scanLines file limit rest (records ++ [record])
  else .ok records
termination_by lines.left
decreasing_by all_goals exact ReverseLines.nextLine_left _next

/-- One backward scan over the first `len` bytes of a file.  The first segment
is whatever follows the last line break. -/
def scanRecentJsonlRecords (file : Bytes) (len limit : Nat) : Except ErrorChain (List T) :=
  match ReverseLines.nextLine path file (ReverseLines.new len jsonlScanChunk) with
  | (.error error, _) => .error error
  | (.ok first, rest) => do
      let tail <-
        match first with
        | some (_, tail) =>
            if isBlank tail || isTornRecord serde tail then pure []
            else do
              let record <- parseLine serde path contextLabel tail
              pure [record]
        | none => pure []
      let records <- scanLines serde path contextLabel file limit rest tail
      pure (records.take limit).reverse

/-- A scan that fails while the file's length moved is tried again; `file` is
the file as it is throughout, with no writer. -/
def scanAttempts (file : Bytes) (limit : Nat) : (attempts : Nat) -> Except ErrorChain (List T)
  | 0 => scanRecentJsonlRecords serde path contextLabel file file.length limit
  | attempts + 1 =>
      let len := file.length
      match scanRecentJsonlRecords serde path contextLabel file len limit with
      | .error error => if file.length != len then scanAttempts file limit attempts else .error error
      | .ok records => .ok records

def loadRecentJsonlRecordsFrom (file : Bytes) (limit : Nat) : Except ErrorChain (List T) :=
  if limit = 0 then .ok [] else scanAttempts serde path contextLabel file limit 2

/-- The generations in turn, newest first, until there are enough records. -/
def loadGenerations (limit : Nat) (content : FileId -> Bytes) :
    List (Nat × FileId) -> (found : Nat) -> (newestFirst : List (List T)) ->
      Except ErrorChain (List T)
  | [], _, newestFirst => .ok newestFirst.reverse.flatten
  | (generation, file) :: rest, found, newestFirst => do
      let records <- loadRecentJsonlRecordsFrom serde (jsonlGenerationPath path generation)
        contextLabel (content file) (limit - found)
      if limit ≤ found + records.length then pure (newestFirst ++ [records]).reverse.flatten
      else loadGenerations limit content rest (found + records.length) (newestFirst ++ [records])

/-- The most recent `limit` records, oldest first. -/
def loadRecentJsonlRecords (generations limit : Nat) (io : ReaderIo)
    (views : Nat -> Store UInt8) (content : FileId -> Bytes) : Except ErrorChain (List T) :=
  if limit = 0 then .ok []
  else
    match openJsonlGenerations path generations io views with
    | .error error => .error error
    | .ok files => loadGenerations serde path contextLabel limit content files 0 []

end Read

/-! ## Lines read forwards -/

section Lines

variable {serde : SerdeJson T} {path contextLabel : String}

/-- The records of some lines, all of which can be read. -/
inductive Reads (serde : SerdeJson T) : List Bytes -> List T -> Prop where
  | nil : Reads serde [] []
  | blank {line lines records} : isBlank line = true -> Reads serde lines records ->
      Reads serde (line :: lines) records
  | record {line record lines records} : isBlank line = false ->
      serde.fromSlice line = .ok record -> Reads serde lines records ->
      Reads serde (line :: lines) (record :: records)

/-- The records of a last line: debris has none. -/
inductive EndsWith (serde : SerdeJson T) : Bytes -> List T -> Prop where
  | skipped {line} : (isBlank line || isTornRecord serde line) = true -> EndsWith serde line []
  | record {line record} : (isBlank line || isTornRecord serde line) = false ->
      serde.fromSlice line = .ok record -> EndsWith serde line [record]

variable {records : List T}

theorem reads_concat {lines : List Bytes} {line : Bytes}
    (reads : Reads serde (lines ++ [line]) records) :
    exists early late, records = early ++ late ∧ Reads serde lines early ∧
      (isBlank line = true ∧ late = [] ∨ isBlank line = false ∧
        exists record, serde.fromSlice line = .ok record ∧ late = [record]) := by
  induction lines generalizing records with
  | nil =>
      cases reads with
      | blank isBlank rest =>
          cases rest
          exact ⟨[], [], rfl, .nil, .inl ⟨isBlank, rfl⟩⟩
      | record notBlank parsed rest =>
          cases rest
          exact ⟨[], [_], rfl, .nil, .inr ⟨notBlank, _, parsed, rfl⟩⟩
  | cons first lines ih =>
      cases reads with
      | blank isBlank rest =>
          rcases ih rest with ⟨early, late, split, before, last⟩
          exact ⟨early, late, split, .blank isBlank before, last⟩
      | record notBlank parsed rest =>
          rcases ih rest with ⟨early, late, split, before, last⟩
          exact ⟨_ :: early, late, congrArg _ split, .record notBlank parsed before, last⟩

/-- Ahead of the last line a parse that succeeds reads every line. -/
theorem reads_of_parse (unterminated : Bool) {lineCount index : Nat} {lines : List Bytes}
    {records : List (Nat × T)} (inside : index + lines.length < lineCount)
    (parsed : parseJsonlLines serde path contextLabel unterminated lineCount index lines =
      .ok records) :
    Reads serde lines (records.map Prod.snd) := by
  induction lines generalizing index records with
  | nil =>
      cases parsed
      exact .nil
  | cons line rest ih =>
      rw [List.length_cons] at inside
      have notLast : (index + 1 == lineCount) = false := by
        apply beq_false_of_ne
        omega
      rw [parseJsonlLines] at parsed
      by_cases blank : isBlank line = true
      · rw [if_pos blank] at parsed
        exact .blank blank (ih (by omega) parsed)
      · rw [if_neg blank] at parsed
        cases read : serde.fromSlice line with
        | ok record =>
            rw [read] at parsed
            dsimp only at parsed
            split at parsed
            next others later =>
              cases parsed
              exact .record (Bool.eq_false_iff.mpr blank) read
                (ih (by omega) later)
            · cases parsed
        | error error =>
            rw [read] at parsed
            simp [notLast] at parsed

/-- A whole file that parses is read up to its last line, which may be debris. -/
theorem reads_of_parseJsonlRecords
    (parsedIsJson : forall bytes record, serde.fromSlice bytes = .ok record ->
      serde.validJson bytes = true)
    {bytes : Bytes} {records : List (Nat × T)}
    (parsed : parseJsonlRecords serde path contextLabel bytes = .ok records) :
    exists lines last early late, bytes.splitOn newline = lines ++ [last] ∧
      Reads serde lines early ∧ EndsWith serde last late ∧
      records.map Prod.snd = early ++ late := by
  rcases List.eq_nil_or_concat' (bytes.splitOn newline) with none | ⟨lines, last, split⟩
  · exact absurd none (List.splitOn_ne_nil newline bytes)
  · rw [parseJsonlRecords, split] at parsed
    rcases (parseJsonlLines_append _ _ _ _ _ _ _ _).mp parsed with
      ⟨early, late, earlyParsed, lateParsed, rfl⟩
    refine ⟨lines, last, _, late.map Prod.snd, split,
      reads_of_parse _ (by simp) earlyParsed, ?_, List.map_append⟩
    rw [parseJsonlLines] at lateParsed
    by_cases blank : isBlank last = true
    · rw [if_pos blank] at lateParsed
      cases lateParsed
      exact .skipped (by rw [blank, Bool.true_or])
    · rw [if_neg blank] at lateParsed
      cases read : serde.fromSlice last with
      | ok record =>
          rw [read] at lateParsed
          cases lateParsed
          have notTorn : isTornRecord serde last = false := by
            rw [isTornRecord, parsedIsJson last record read]
            rfl
          exact .record (by rw [notTorn, Bool.eq_false_iff.mpr blank]; rfl) read
      | error error =>
          rw [read] at lateParsed
          dsimp only at lateParsed
          split at lateParsed
          next torn =>
            cases lateParsed
            have isTorn := (Bool.and_eq_true_iff.mp torn).2
            exact .skipped (by rw [isTorn, Bool.or_true])
          · cases lateParsed

/-! ## Scans -/

/-- What a scan has not yielded is these segments. -/
def Holds (file : Bytes) (lines : ReverseLines) (segments : List Bytes) : Prop :=
  lines.done = true ∧ segments = [] ∨
    lines.done = false ∧ lines.pos ≤ file.length ∧
      (lines.remaining file).splitOn newline = segments

theorem nextLine_holds (path : String) {file : Bytes} {lines : ReverseLines}
    {segments : List Bytes} {last : Bytes} (holds : Holds file lines (segments ++ [last])) :
    exists start rest,
      ReverseLines.nextLine path file lines = (.ok (some (start, last)), rest) ∧
        Holds file rest segments := by
  rcases holds with ⟨_, impossible⟩ | ⟨open_, inside, split⟩
  · simp at impossible
  · rcases ReverseLines.scan_spec path file lines inside open_ with
      ⟨rest, scanned, _, restInside, remaining, done⟩
    have next : ReverseLines.nextLine path file lines =
        (.ok (some ((upToLast newline (lines.remaining file)).length,
          lastSegment newline (lines.remaining file))), rest) := by
      rw [ReverseLines.nextLine, if_neg (by simp [open_]), scanned]
    rcases splitOn_upToLast_append newline (lines.remaining file) with ⟨before, splits⟩
    have whole := splits (lastSegment newline (lines.remaining file))
    rw [upToLast_append_lastSegment, split,
      List.splitOn_eq_singleton (not_mem_lastSegment newline _)] at whole
    have isLast := (List.append_inj' whole rfl).2
    refine ⟨_, rest, (List.cons.inj isLast).1 ▸ next, ?_⟩
    by_cases member : newline ∈ lines.remaining file
    · have restOpen : rest.done = false :=
        Bool.eq_false_iff.mpr fun isDone => done.mp isDone member
      rcases upToLast_eq_nil_or_concat newline (lines.remaining file) with nothing | ⟨front, isFront⟩
      · have joined := upToLast_append_lastSegment newline (lines.remaining file)
        rw [nothing, List.nil_append] at joined
        exact absurd (joined ▸ member) (not_mem_lastSegment newline _)
      · refine .inr ⟨restOpen, restInside, ?_⟩
        rw [remaining, isFront, List.dropLast_concat]
        have joined := upToLast_append_lastSegment newline (lines.remaining file)
        rw [isFront, List.append_assoc, List.singleton_append] at joined
        rw [← joined, List.splitOn_append_cons_self,
          List.splitOn_eq_singleton (not_mem_lastSegment newline _)] at split
        exact (List.append_inj' split rfl).1
    · have nothing : segments = [] := by
        rw [List.splitOn_eq_singleton member] at split
        have alone : segments ++ [last] = [] ++ [lines.remaining file] := split.symm
        exact (List.append_inj' alone rfl).1
      exact .inl ⟨done.mpr member, nothing⟩

theorem nextLine_holds_nil (path : String) {file : Bytes} {lines : ReverseLines}
    (holds : Holds file lines []) :
    ReverseLines.nextLine path file lines = (.ok none, lines) := by
  rcases holds with ⟨isDone, _⟩ | ⟨_, _, split⟩
  · rw [ReverseLines.nextLine, if_pos isDone]
  · exact absurd split (List.splitOn_ne_nil newline _)

theorem holds_new (file : Bytes) (chunk : Nat) :
    Holds file (ReverseLines.new file.length chunk) (file.splitOn newline) := by
  refine .inr ⟨rfl, Nat.le_refl _, ?_⟩
  simp [ReverseLines.remaining, ReverseLines.new]

variable {limit : Nat}

/-- The loop returns what the lines it reaches read as, the last ones first. -/
theorem scanLines_eq (path contextLabel : String) {file : Bytes} {lines : ReverseLines}
    {older reached : List Bytes} {found : List T} (holds : Holds file lines (older ++ reached))
    (reads : Reads serde reached records)
    (enough : older = [] ∨ limit ≤ found.length + records.length) :
    scanLines serde path contextLabel file limit lines found =
      .ok (found ++ records.reverse.take (limit - found.length)) := by
  induction reached using List.reverseRecOn generalizing lines found records with
  | nil =>
      cases reads
      rw [scanLines]
      split
      next short =>
        rcases enough with nothing | enough
        · rw [nothing] at holds
          rw [nextLine_holds_nil path holds]
          simp
        · simp only [List.length_nil, Nat.add_zero] at enough
          omega
      · simp
  | append_singleton reached line ih =>
      rcases reads_concat reads with ⟨early, late, rfl, before, last⟩
      rw [← List.append_assoc] at holds
      rcases nextLine_holds path holds with ⟨start, rest, next, restHolds⟩
      rw [scanLines]
      split
      next short =>
        rw [next]
        dsimp only
        rcases last with ⟨blank, rfl⟩ | ⟨notBlank, record, parsed, rfl⟩
        · rw [List.append_nil] at enough ⊢
          rw [if_pos blank]
          exact ih restHolds before enough
        · rw [if_neg (by simp [notBlank]), parseLine, parsed]
          dsimp only
          have stillEnough : older = [] ∨
              limit ≤ (found ++ [record]).length + early.length := by
            rcases enough with nothing | enough
            · exact .inl nothing
            · simp only [List.length_append, List.length_singleton] at enough ⊢
              omega
          have one : limit - found.length = limit - (found ++ [record]).length + 1 := by
            simp only [List.length_append, List.length_singleton]
            omega
          rw [ih restHolds before stillEnough, one, List.reverse_append,
            List.reverse_singleton, List.singleton_append, List.take_succ_cons]
          simp
      next full =>
        have none : limit - found.length = 0 := by omega
        rw [none]
        simp

/-- A scan of a file whose reached lines can be read returns their last records. -/
theorem scanRecentJsonlRecords_eq (path contextLabel : String) {file : Bytes}
    {older reached : List Bytes} {last : Bytes} {early late : List T}
    (split : file.splitOn newline = older ++ reached ++ [last]) (reads : Reads serde reached early)
    (ends : EndsWith serde last late) (enough : older = [] ∨ limit ≤ (early ++ late).length) :
    scanRecentJsonlRecords serde path contextLabel file file.length limit =
      .ok ((early ++ late).rtake limit) := by
  have holds := holds_new file jsonlScanChunk
  rw [split] at holds
  rcases nextLine_holds path holds with ⟨start, rest, next, restHolds⟩
  have taken : forall tail : List T, tail.length ≤ 1 ->
      (older = [] ∨ limit ≤ (early ++ tail.reverse).length) ->
      (do
        let records <- scanLines serde path contextLabel file limit rest tail
        pure (records.take limit).reverse : Except ErrorChain (List T)) =
      .ok ((early ++ tail.reverse).rtake limit) := by
    intro tail short enoughWith
    rw [List.length_append, List.length_reverse, Nat.add_comm] at enoughWith
    rw [scanLines_eq path contextLabel restHolds reads enoughWith]
    refine congrArg Except.ok ?_
    rw [List.rtake_eq_reverse_take_reverse, List.reverse_append, List.reverse_reverse,
      List.take_append, List.take_append, List.take_take, Nat.min_self]
  rw [scanRecentJsonlRecords, next]
  dsimp only
  cases ends with
  | skipped isSkipped =>
      rw [if_pos isSkipped]
      exact taken [] (Nat.zero_le _) enough
  | record isRecord parsed =>
      rw [if_neg (by simp [isRecord]), parseLine, parsed]
      exact taken [_] (Nat.le_refl _) enough

theorem loadRecentJsonlRecordsFrom_eq (path contextLabel : String) {file : Bytes}
    (positive : 0 < limit)
    (scanned : scanRecentJsonlRecords serde path contextLabel file file.length limit =
      .ok records) :
    loadRecentJsonlRecordsFrom serde path contextLabel file limit = .ok records := by
  rw [loadRecentJsonlRecordsFrom, if_neg (Nat.ne_of_gt positive), scanAttempts, scanned]

/-! ## Generations -/

theorem rtake_append (older newer : List T) (limit : Nat) :
    (older ++ newer).rtake limit = older.rtake (limit - newer.length) ++ newer.rtake limit := by
  simp [List.rtake_eq_reverse_take_reverse, List.take_append]

theorem rtake_of_length_le {items : List T} (short : items.length ≤ limit) :
    items.rtake limit = items := by
  rw [List.rtake, Nat.sub_eq_zero_of_le short, List.drop_zero]

/-- What was found before stands after what is still to be found. -/
theorem loadGenerations_shift (path contextLabel : String) (content : FileId -> Bytes)
    (files : List (Nat × FileId)) {found : Nat} (newestFirst : List (List T))
    (short : found < limit) :
    loadGenerations serde path contextLabel limit content files found newestFirst =
      (loadGenerations serde path contextLabel (limit - found) content files 0 []).map
        fun records => records ++ newestFirst.reverse.flatten := by
  induction files generalizing limit found newestFirst with
  | nil => simp [loadGenerations, Except.map]
  | cons entry rest ih =>
      rcases entry with ⟨generation, file⟩
      rw [loadGenerations, loadGenerations, Nat.sub_zero]
      cases loadRecentJsonlRecordsFrom serde (jsonlGenerationPath path generation) contextLabel
        (content file) (limit - found) with
      | error error => rfl
      | ok records =>
          simp only [bind, Except.bind, pure, Except.pure, Nat.zero_add, List.nil_append]
          by_cases reached : limit ≤ found + records.length
          · rw [if_pos reached, if_pos (by omega)]
            simp [Except.map]
          · rw [if_neg reached, if_neg (by omega), ih _ (by omega),
              ih [records] (by omega), Nat.sub_sub]
            cases loadGenerations serde path contextLabel (limit - (found + records.length)) content
              rest 0 [] with
            | error error => rfl
            | ok older => simp [Except.map]

/-- The records of some files, newest first, in the order they were written. -/
def recordsOf (held : Nat × FileId -> List T) (files : List (Nat × FileId)) : List T :=
  files.reverse.flatMap held

/-- Files that are read whole give their last records; what is missing comes
from the files behind them. -/
theorem loadGenerations_append (path contextLabel : String) (content : FileId -> Bytes)
    (held : Nat × FileId -> List T) {newer : List (Nat × FileId)} (rest : List (Nat × FileId))
    (positive : 0 < limit) (read : forall entry, entry ∈ newer -> forall part, 0 < part ->
      loadRecentJsonlRecordsFrom serde (jsonlGenerationPath path entry.1) contextLabel
        (content entry.2) part = .ok ((held entry).rtake part)) :
    loadGenerations serde path contextLabel limit content (newer ++ rest) 0 [] =
      if newer ≠ [] ∧ limit ≤ (recordsOf held newer).length then
        .ok ((recordsOf held newer).rtake limit)
      else
        (loadGenerations serde path contextLabel (limit - (recordsOf held newer).length) content
          rest 0 []).map fun records => records ++ recordsOf held newer := by
  induction newer generalizing limit with
  | nil =>
      rw [List.nil_append, if_neg (fun both => both.1 rfl)]
      change _ = (loadGenerations serde path contextLabel (limit - 0) content rest 0 []).map _
      rw [Nat.sub_zero]
      cases loadGenerations serde path contextLabel limit content rest 0 [] with
      | error error => rfl
      | ok older => simp [recordsOf, Except.map]
  | cons entry newer ih =>
      rcases entry with ⟨generation, file⟩
      have readHere := read (generation, file) List.mem_cons_self limit positive
      have readLater := fun other member => read other (List.mem_cons_of_mem _ member)
      have whole : recordsOf held ((generation, file) :: newer) =
          recordsOf held newer ++ held (generation, file) := by
        simp [recordsOf]
      rw [List.cons_append, loadGenerations, Nat.sub_zero, readHere, whole]
      simp only [bind, Except.bind, pure, Except.pure, Nat.zero_add, List.nil_append]
      by_cases here : limit ≤ (held (generation, file)).length
      · have taken : ((held (generation, file)).rtake limit).length = limit := by
          rw [List.rtake, List.length_drop]
          omega
        rw [if_pos (by rw [taken]), if_pos ⟨by simp, by rw [List.length_append]; omega⟩,
          rtake_append, Nat.sub_eq_zero_of_le here]
        simp
      · rw [rtake_of_length_le (Nat.le_of_not_le here), if_neg here,
          loadGenerations_shift path contextLabel content _ _ (Nat.lt_of_not_le here),
          ih (by omega) readLater]
        by_cases there : newer ≠ [] ∧
            limit - (held (generation, file)).length ≤ (recordsOf held newer).length
        · rw [if_pos there, if_pos ⟨by simp, by rw [List.length_append]; omega⟩, rtake_append,
            rtake_of_length_le (Nat.le_of_not_le here)]
          simp [Except.map]
        · rw [if_neg there]
          have notAll : ¬ ((generation, file) :: newer ≠ [] ∧
              limit ≤ (recordsOf held newer ++ held (generation, file)).length) := by
            rintro ⟨_, enough⟩
            rw [List.length_append] at enough
            by_cases nothing : newer = []
            · rw [nothing] at enough
              simp only [recordsOf, List.reverse_nil, List.flatMap_nil, List.length_nil] at enough
              omega
            · exact there ⟨nothing, by omega⟩
          rw [if_neg notAll, List.length_append, Nat.sub_sub, Nat.add_comm]
          cases loadGenerations serde path contextLabel
            (limit - ((recordsOf held newer).length + (held (generation, file)).length)) content
            rest 0 [] with
          | error error => rfl
          | ok older => simp [Except.map]

end Lines

/-! ## A store nobody writes -/

/-- Every open succeeds and every handle can be looked at. -/
def quietIo (isFile : FileId -> Bool) : ReaderIo where
  openAnswer := fun _ => .done
  isFile := isFile
  stat := fun _ => none

theorem openPaths_quiet (path : String) (isFile : FileId -> Bool) (store : Store UInt8)
    (paths : List Nat) (call : Nat) :
    openPaths path (quietIo isFile) (fun _ => store) paths call =
      (.ok (paths.map store.named), call + paths.length) := by
  induction paths generalizing call with
  | nil => rfl
  | cons generation rest ih =>
      have opened : openGeneration path generation ((quietIo isFile).openAnswer call) store =
          .ok (store.named generation) := by
        unfold openGeneration quietIo
        cases store.named generation <;> rfl
      rw [openPaths, opened]
      dsimp only
      rw [ih]
      dsimp only
      rw [List.map_cons, List.length_cons, Nat.add_assoc, Nat.add_comm 1]

theorem recheckPaths_quiet (path : String) (isFile : FileId -> Bool) (store : Store UInt8)
    (paths : List Nat) (call : Nat) :
    exists next, recheckPaths path (quietIo isFile) (fun _ => store)
      (paths.map fun generation => (generation, store.named generation)) call = (.ok true, next) := by
  induction paths generalizing call with
  | nil => exact ⟨call, rfl⟩
  | cons generation rest ih =>
      have opened : openGeneration path generation ((quietIo isFile).openAnswer call) store =
          .ok (store.named generation) := by
        unfold openGeneration quietIo
        cases store.named generation <;> rfl
      rcases ih (call + 1) with ⟨next, rechecked⟩
      refine ⟨next, ?_⟩
      rw [List.map_cons, recheckPaths, opened]
      dsimp only
      rw [if_pos rfl, rechecked]

theorem keepFiles_quiet (path : String) (isFile : FileId -> Bool)
    (paths : List (Nat × Option FileId)) :
    exists files, keepFiles path (quietIo isFile) paths = .ok files := by
  induction paths with
  | nil => exact ⟨[], rfl⟩
  | cons entry rest ih =>
      rcases ih with ⟨files, kept⟩
      rcases entry with ⟨generation, _ | file⟩
      · exact ⟨files, kept⟩
      · refine ⟨if isFile file then (generation, file) :: files else files, ?_⟩
        rw [keepFiles]
        simp only [quietIo] at kept ⊢
        rw [kept]
        rfl

/-- The generations of a store that are files, newest first. -/
def generationFiles (isFile : FileId -> Bool) (store : Store UInt8) (generations : Nat) :
    List (Nat × FileId) :=
  (present store generations).filter fun entry => isFile entry.2

theorem openJsonlGenerations_quiet (path : String) (isFile : FileId -> Bool)
    (store : Store UInt8) (generations : Nat) :
    openJsonlGenerations path generations (quietIo isFile) (fun _ => store) =
      .ok (generationFiles isFile store generations) := by
  have zipped : (List.range (generations + 1)).zip ((List.range (generations + 1)).map store.named) =
      (List.range (generations + 1)).map fun generation => (generation, store.named generation) :=
    List.map_prod_left_eq_zip.symm
  rcases keepFiles_quiet path isFile
    ((List.range (generations + 1)).map fun generation => (generation, store.named generation))
    with ⟨files, kept⟩
  have isPresent : files = generationFiles isFile store generations := keepFiles_ok kept
  rw [openJsonlGenerations, openAttempts, openPaths_quiet]
  dsimp only
  rw [zipped]
  split
  · rw [kept, isPresent]
  · rcases recheckPaths_quiet path isFile store (List.range (generations + 1))
      (0 + (List.range (generations + 1)).length) with ⟨next, rechecked⟩
    rw [rechecked]
    dsimp only
    rw [kept, isPresent]

/-! ## The whole read -/

section Whole

variable (serde : SerdeJson T) (path contextLabel : String)

/-- Each of the files parses to these records. -/
def Parses (store : Store UInt8) (held : Nat × FileId -> List T) (files : List (Nat × FileId)) :
    Prop :=
  forall entry, entry ∈ files -> exists records,
    parseJsonlRecords serde (jsonlGenerationPath path entry.1) contextLabel
      (store.content entry.2) = .ok records ∧ records.map Prod.snd = held entry

/-- A part of a file that starts on a line is split as it is on its own. -/
theorem splitOn_behind {front : Bytes} (back : Bytes)
    (onLine : front = [] ∨ front.getLast? = some newline) :
    exists older, (front ++ back).splitOn newline = older ++ back.splitOn newline ∧
      (front = [] -> older = []) := by
  rcases onLine with nothing | ends
  · exact ⟨[], by rw [nothing]; rfl, fun _ => rfl⟩
  · rcases List.getLast?_eq_some_iff.mp ends with ⟨before, rfl⟩
    refine ⟨before.splitOn newline, ?_, by simp⟩
    rw [List.append_assoc, List.singleton_append, List.splitOn_append_cons_self]

/-- With no writer, a read returns the last records of the whole store where
every file parses; and it is enough that the lines it reaches do. -/
theorem loadRecentJsonlRecords_eq
    (parsedIsJson : forall bytes record, serde.fromSlice bytes = .ok record ->
      serde.validJson bytes = true)
    (generations limit : Nat) (isFile : FileId -> Bool) (store : Store UInt8)
    (held : Nat × FileId -> List T) :
    (Parses serde path contextLabel store held (generationFiles isFile store generations) ->
      loadRecentJsonlRecords serde path contextLabel generations limit (quietIo isFile)
          (fun _ => store) store.content =
        .ok ((recordsOf held (generationFiles isFile store generations)).rtake limit)) ∧
    (forall newer reached older front back records,
      generationFiles isFile store generations = newer ++ reached :: older ->
      Parses serde path contextLabel store held newer ->
      store.content reached.2 = front ++ back ->
      (front = [] ∨ front.getLast? = some newline) ->
      parseJsonlRecords serde (jsonlGenerationPath path reached.1) contextLabel back =
        .ok records ->
      limit ≤ (records.map Prod.snd ++ recordsOf held newer).length ->
      loadRecentJsonlRecords serde path contextLabel generations limit (quietIo isFile)
          (fun _ => store) store.content =
        .ok ((records.map Prod.snd ++ recordsOf held newer).rtake limit)) := by
  have readPart : forall {generation part : Nat} {front back : Bytes} {records : List (Nat × T)},
      0 < part -> (front = [] ∨ front.getLast? = some newline) ->
      parseJsonlRecords serde (jsonlGenerationPath path generation) contextLabel back =
        .ok records ->
      (front = [] ∨ part ≤ records.length) ->
      loadRecentJsonlRecordsFrom serde (jsonlGenerationPath path generation) contextLabel
        (front ++ back) part = .ok ((records.map Prod.snd).rtake part) := by
    intro generation part front back records positive onLine parsed enough
    rcases reads_of_parseJsonlRecords parsedIsJson parsed with
      ⟨lines, last, early, late, split, reads, ends, same⟩
    rcases splitOn_behind back onLine with ⟨older, behind, nothing⟩
    rw [split, ← List.append_assoc] at behind
    rw [same]
    refine loadRecentJsonlRecordsFrom_eq _ _ positive
      (scanRecentJsonlRecords_eq _ _ behind reads ends ?_)
    rw [← same, List.length_map]
    exact enough.imp_left nothing
  have readWhole : forall {files : List (Nat × FileId)},
      Parses serde path contextLabel store held files ->
      forall entry, entry ∈ files -> forall part, 0 < part ->
        loadRecentJsonlRecordsFrom serde (jsonlGenerationPath path entry.1) contextLabel
          (store.content entry.2) part = .ok ((held entry).rtake part) := by
    intro files parses entry member part positive
    rcases parses entry member with ⟨records, parsed, isHeld⟩
    have read := readPart positive (.inl rfl) parsed (.inl rfl)
    rw [List.nil_append, isHeld] at read
    exact read
  have nothing : forall items : List T, items.rtake 0 = [] := fun items => List.rtake_zero items
  by_cases zero : limit = 0
  · rw [zero]
    simp only [nothing]
    exact ⟨fun _ => if_pos rfl, fun _ _ _ _ _ _ _ _ _ _ _ _ => if_pos rfl⟩
  · have positive : 0 < limit := Nat.pos_of_ne_zero zero
    have opened := openJsonlGenerations_quiet path isFile store generations
    rw [loadRecentJsonlRecords, if_neg zero, opened]
    dsimp only
    refine ⟨fun parses => ?_, ?_⟩
    · have whole := loadGenerations_append path contextLabel store.content held [] positive
        (readWhole parses)
      rw [List.append_nil] at whole
      rw [whole]
      split
      · rfl
      next few =>
        have short : (recordsOf held (generationFiles isFile store generations)).length ≤ limit := by
          by_cases empty : generationFiles isFile store generations = []
          · rw [empty]
            exact Nat.zero_le _
          · exact Nat.le_of_not_le fun enough => few ⟨empty, enough⟩
        rw [rtake_of_length_le short]
        rfl
    · intro newer reached older front back records isNewer parses isFront onLine parsed enough
      rw [isNewer, loadGenerations_append path contextLabel store.content held _ positive
        (readWhole parses)]
      split
      next early => rw [rtake_append, Nat.sub_eq_zero_of_le early.2, nothing, List.nil_append]
      next few =>
        rcases reached with ⟨generation, file⟩
        rw [List.length_append, List.length_map] at enough
        have short : (recordsOf held newer).length < limit := by
          by_cases empty : newer = []
          · rw [empty]
            exact positive
          · exact Nat.lt_of_not_le fun enough => few ⟨empty, enough⟩
        have left : 0 < limit - (recordsOf held newer).length := Nat.sub_pos_of_lt short
        have read := readPart left onLine parsed (.inr (by omega))
        rw [loadGenerations, isFront, Nat.sub_zero, read]
        have taken : ((records.map Prod.snd).rtake (limit - (recordsOf held newer).length)).length =
            limit - (recordsOf held newer).length := by
          rw [List.rtake, List.length_drop, List.length_map]
          omega
        simp only [bind, Except.bind, pure, Except.pure, Nat.zero_add, List.nil_append]
        rw [if_pos (by rw [taken]), rtake_append, rtake_of_length_le (Nat.le_of_lt short)]
        simp [Except.map]

end Whole

/-- A live file that ends in debris, and one generation behind it. -/
def tornStore : Store UInt8 where
  named := fun generation => if generation = 0 then some 1 else if generation = 1 then some 0 else none
  content := fun file =>
    if file = 0 then flagSerde.toVec false ++ [newline, newline]
    else flagSerde.toVec true ++ [newline, 0x7b, 0x22]
  next := 2

theorem loadRecentJsonlRecords_eq_of_torn :
    loadRecentJsonlRecords flagSerde "events.jsonl" "event" 1 2 (quietIo fun _ => true)
      (fun _ => tornStore) tornStore.content = .ok [false, true] := by
  have parses : Parses flagSerde "events.jsonl" "event" tornStore (fun entry => [entry.1 == 0])
      (generationFiles (fun _ => true) tornStore 1) := by
    intro entry member
    have listed : entry = (0, 1) ∨ entry = (1, 0) := by
      simpa [generationFiles, present, tornStore, List.range_succ] using member
    rcases listed with rfl | rfl
    · exact ⟨[(0, true)], by decide, rfl⟩
    · exact ⟨[(0, false)], by decide, rfl⟩
  exact (loadRecentJsonlRecords_eq flagSerde "events.jsonl" "event" flagSerde_lawful.parsedIsJson
    1 2 (fun _ => true) tornStore fun entry => [entry.1 == 0]).1 parses

end JsonlStore
end RocmCli
