import Mathlib.Data.List.Infix
import RocmCli.JsonlStore.Append

namespace RocmCli
namespace JsonlStore

open Segments

/-!
# Durability of the append path

A run is a sequence of appends without a rotation policy, made one at a time,
each under arbitrary answers of the system.  The live file is then always in
one of three shapes: every record terminated, the last record complete but
missing its newline, or debris after the last complete record.  `Shape` is
that invariant.  One step lemma shows what an append does to it; everything
about runs follows by induction.
-/

variable {T : Type u} {serde : SerdeJson T}

/-- The given records, one terminated line each. -/
def completeLines (serde : SerdeJson T) (records : List T) : Bytes :=
  (records.map serde.toVec).flatMap (fun line => line ++ [newline])

/-- The live file holds exactly `records`, up to a missing final newline or
debris that no reader takes for a record. -/
inductive Shape (serde : SerdeJson T) : List T -> Bytes -> Prop where
  | clean (records : List T) : Shape serde records (completeLines serde records)
  | unterminated (records : List T) (last : T) :
      Shape serde (records ++ [last]) (completeLines serde records ++ serde.toVec last)
  | torn (records : List T) (record : T) (cut : Bytes) (nonempty : cut ≠ [])
      (isPrefix : cut <+: serde.toVec record) (short : cut ≠ serde.toVec record) :
      Shape serde records (completeLines serde records ++ cut)

/-- The complete JSON text of the record is among the bytes the call landed. -/
def landedWhole (serde : SerdeJson T) (record : T)
    (result : AppendResult) : Bool :=
  decide (serde.toVec record <:+: result.landed)

/-- The outcomes of a run, in call order. -/
def appendResults (serde : SerdeJson T) (path : String) :
    List (T × AppendIo) -> Store UInt8 -> List (T × AppendResult)
  | [], _ => []
  | (record, io) :: rest, store =>
      let result := appendJsonlRecord serde path record none io store
      (record, result) :: appendResults serde path rest result.store

/-- The store a run ends in. -/
def appendAll (serde : SerdeJson T) (path : String) (calls : List (T × AppendIo))
    (store : Store UInt8) : Store UInt8 :=
  calls.foldl (fun store call =>
    (appendJsonlRecord serde path call.1 none call.2 store).store) store

/-- The records of the run whose complete JSON text landed, in call order. -/
def landedRecords (serde : SerdeJson T) (results : List (T × AppendResult)) : List T :=
  (results.filter (fun entry => landedWhole serde entry.1 entry.2)).map Prod.fst

/-! ## Lines written by the library -/

theorem toVec_ne_nil (lawful : serde.Lawful) (record : T) : serde.toVec record ≠ [] := by
  intro empty
  have object := lawful.object record
  rw [empty] at object
  cases object

variable {record : T}

/-- A nonempty prefix of an object starts with its brace, so it is not blank. -/
theorem isBlank_of_initial (lawful : serde.Lawful) {cut : Bytes} (nonempty : cut ≠ [])
    (isPrefix : cut <+: serde.toVec record) : isBlank cut = false := by
  cases cut with
  | nil => exact absurd rfl nonempty
  | cons byte rest =>
      have object := lawful.object record
      rcases isPrefix with ⟨remainder, whole⟩
      rw [← whole, List.cons_append, List.head?_cons, Option.some.injEq] at object
      rw [object]
      rfl

theorem completeLines_append_singleton (records : List T) (last : T) :
    completeLines serde (records ++ [last]) =
      completeLines serde records ++ serde.toVec last ++ [newline] := by
  simp [completeLines]

theorem completeLines_eq_nil_or_concat (serde : SerdeJson T) (records : List T) :
    completeLines serde records = [] ∨
      exists front, completeLines serde records = front ++ [newline] := by
  rcases List.eq_nil_or_concat' records with empty | ⟨front, last, split⟩
  · exact Or.inl (by rw [empty]; rfl)
  · exact Or.inr ⟨_, by rw [split]; exact completeLines_append_singleton front last⟩

/-- After complete lines, the last segment is whatever follows them. -/
theorem lastSegment_completeLines (serde : SerdeJson T) (records : List T) {tail : Bytes}
    (free : newline ∉ tail) :
    lastSegment newline (completeLines serde records ++ tail) = tail ∧
      upToLast newline (completeLines serde records ++ tail) = completeLines serde records := by
  rcases completeLines_eq_nil_or_concat serde records with empty | ⟨front, split⟩
  · rw [empty, List.nil_append]
    exact ⟨lastSegment_of_free free, upToLast_of_free free⟩
  · rw [split, List.append_assoc, List.singleton_append]
    exact ⟨lastSegment_append_cons free front, upToLast_append_cons free front⟩

theorem free_of_initial (lawful : serde.Lawful) {cut : Bytes}
    (isPrefix : cut <+: serde.toVec record) : newline ∉ cut :=
  fun member => lawful.oneLine record (isPrefix.subset member)

/-! ## Reading a shape back -/

/-- The parsing loop over complete lines, then whatever it makes of the rest. -/
theorem parseJsonlLines_records (lawful : serde.Lawful) (path contextLabel : String)
    (unterminated : Bool) (lineCount : Nat) (records : List T) (index : Nat)
    (rest : List Bytes) (after : List (Nat × T))
    (parsed : parseJsonlLines serde path contextLabel unterminated lineCount
      (index + records.length) rest = .ok after) :
    parseJsonlLines serde path contextLabel unterminated lineCount index
      (records.map serde.toVec ++ rest) =
        .ok (records.mapIdx (fun offset record => (index + offset, record)) ++ after) := by
  induction records generalizing index with
  | nil => simpa using parsed
  | cons record others ih =>
      have notBlank := isBlank_of_initial lawful (toVec_ne_nil lawful record) List.prefix_rfl
      have tail := ih (index + 1) (by
        rw [← parsed, List.length_cons]
        congr 1
        omega)
      rw [List.map_cons, List.cons_append, parseJsonlLines]
      simp only [notBlank, Bool.false_eq_true, if_false, lawful.roundTrip, tail]
      rw [List.mapIdx_cons]
      simp [Nat.add_comm, Nat.add_left_comm]

/-- What the loop makes of the segment after the last line break. -/
theorem parseJsonlLines_last (path contextLabel : String) (unterminated : Bool)
    (index : Nat) (tail : Bytes) (skipped : isBlank tail = true ∨
      (unterminated = true ∧ (forall record, serde.fromSlice tail ≠ .ok record) ∧
        serde.validJson tail = false)) :
    parseJsonlLines serde path contextLabel unterminated (index + 1) index [tail] = .ok [] := by
  rw [parseJsonlLines]
  rcases skipped with blank | ⟨lastLine, unreadable, notJson⟩
  · simp [blank, parseJsonlLines]
  · cases parsed : serde.fromSlice tail with
    | ok record => exact absurd parsed (unreadable record)
    | error error => simp [parseJsonlLines, lastLine, isTornRecord, notJson]

theorem getLast?_completeLines_append (records : List T) {tail : Bytes} (nonempty : tail ≠ [])
    (free : newline ∉ tail) :
    (!(completeLines serde records ++ tail).isEmpty &&
      (completeLines serde records ++ tail).getLast? != some newline) = true := by
  have last := List.getLast_mem nonempty
  have different : tail.getLast nonempty ≠ newline := fun same => free (same ▸ last)
  simp [List.getLast?_append, List.getLast?_eq_some_getLast nonempty, nonempty, different]

variable {records : List T}

/-- A file in shape parses to its records, each with its line index. -/
theorem parseJsonlRecords_shape (lawful : serde.Lawful) (path contextLabel : String)
    {bytes : Bytes} (shape : Shape serde records bytes) :
    parseJsonlRecords serde path contextLabel bytes = .ok (records.mapIdx Prod.mk) := by
  have segments : forall (lines : List T) (tail : Bytes), newline ∉ tail ->
      (completeLines serde lines ++ tail).splitOn newline = lines.map serde.toVec ++ [tail] := by
    intro lines tail free
    apply splitOn_flatMap_append newline _ _ _ free
    intro line member
    rcases List.mem_map.mp member with ⟨record, -, rfl⟩
    exact lawful.oneLine record
  cases shape with
  | clean =>
      have split := segments records [] List.not_mem_nil
      rw [List.append_nil] at split
      have result := parseJsonlLines_records lawful path contextLabel
        (!(completeLines serde records).isEmpty &&
          (completeLines serde records).getLast? != some newline)
        (records.length + 1) records 0 [[]] []
        (by rw [Nat.zero_add]; exact parseJsonlLines_last _ _ _ _ _ (Or.inl rfl))
      rw [parseJsonlRecords, split]
      simpa using result
  | unterminated front last =>
      have nonempty := toVec_ne_nil lawful last
      have free := lawful.oneLine last
      have asLine : (front ++ [last]).map serde.toVec ++ [] =
          front.map serde.toVec ++ [serde.toVec last] := by simp
      have result := parseJsonlLines_records lawful path contextLabel true
        (front.length + 1) (front ++ [last]) 0 [] [] rfl
      rw [asLine] at result
      rw [parseJsonlRecords, segments front _ free,
        getLast?_completeLines_append front nonempty free]
      simpa using result
  | torn _ record cut nonempty isPrefix short =>
      have free := free_of_initial lawful isPrefix
      have notJson := lawful.cutIsNotJson record cut isPrefix short
      have unreadable : forall other, serde.fromSlice cut ≠ .ok other := by
        intro other parsed
        rw [lawful.parsedIsJson cut other parsed] at notJson
        cases notJson
      have result := parseJsonlLines_records lawful path contextLabel true
        (records.length + 1) records 0 [cut] []
        (by
          rw [Nat.zero_add]
          exact parseJsonlLines_last _ _ _ _ _ (Or.inr ⟨rfl, unreadable, notJson⟩))
      rw [parseJsonlRecords, segments records _ free,
        getLast?_completeLines_append records nonempty free]
      simpa using result

/-! ## One append -/

theorem tornTail_completeLines (serde : SerdeJson T) (records : List T) :
    tornTail serde (completeLines serde records) = false := by
  have segment := lastSegment_completeLines serde records List.not_mem_nil
  rw [List.append_nil] at segment
  simp [tornTail, segment.1]

/-- A complete record that only lost its newline is not debris. -/
theorem tornTail_unterminated (lawful : serde.Lawful) (records : List T) (last : T) :
    tornTail serde (completeLines serde records ++ serde.toVec last) = false := by
  have segment := lastSegment_completeLines serde records (lawful.oneLine last)
  have isJson := lawful.parsedIsJson _ _ (lawful.roundTrip last)
  simp [tornTail, segment.1, isTornRecord, isJson]

theorem tornTail_torn (lawful : serde.Lawful) (records : List T) {cut : Bytes}
    (nonempty : cut ≠ []) (isPrefix : cut <+: serde.toVec record)
    (short : cut ≠ serde.toVec record) :
    tornTail serde (completeLines serde records ++ cut) = true := by
  have segment := lastSegment_completeLines serde records
    (free_of_initial lawful isPrefix)
  have notBlank := isBlank_of_initial lawful nonempty isPrefix
  have notJson := lawful.cutIsNotJson record cut isPrefix short
  simp [tornTail, segment.1, isTornRecord, notJson, notBlank, nonempty]

/-- In each shape, what an append keeps and what it writes first add up to the
complete lines of the records so far. -/
theorem kept_append_leading (lawful : serde.Lawful) {bytes : Bytes}
    (shape : Shape serde records bytes) :
    keptBytes serde bytes ++ leadingBytes serde bytes = completeLines serde records ∧
      (leadingBytes serde bytes = [] ∨
        (leadingBytes serde bytes = [newline] ∧ keptBytes serde bytes = bytes)) := by
  cases shape with
  | clean =>
      have segment := lastSegment_completeLines serde records List.not_mem_nil
      rw [List.append_nil] at segment
      simp [keptBytes, leadingBytes, tornTail_completeLines, segment.1]
  | unterminated front last =>
      have segment := lastSegment_completeLines serde front (lawful.oneLine last)
      simp [keptBytes, leadingBytes, tornTail_unterminated lawful, segment.1,
        toVec_ne_nil lawful last, completeLines_append_singleton]
  | torn _ record cut nonempty isPrefix short =>
      have segment := lastSegment_completeLines serde records
        (free_of_initial lawful isPrefix)
      simp [keptBytes, leadingBytes, tornTail_torn lawful records nonempty isPrefix short,
        segment.2]

/-- A prefix of one terminated line, after complete lines. -/
theorem shape_append_initial (records : List T) (record : T) {landed : Bytes}
    (isPrefix : landed <+: serde.toVec record ++ [newline]) :
    Shape serde (if serde.toVec record <+: landed then records ++ [record] else records)
      (completeLines serde records ++ landed) := by
  rcases List.prefix_concat_iff.mp isPrefix with terminated | inText
  · rw [terminated, if_pos (List.prefix_append _ _), ← List.append_assoc,
      ← completeLines_append_singleton]
    exact .clean _
  · by_cases whole : landed = serde.toVec record
    · rw [whole, if_pos List.prefix_rfl]
      exact .unterminated _ _
    · have short : ¬ serde.toVec record <+: landed := by
        intro longer
        exact whole (inText.eq_of_length (Nat.le_antisymm inText.length_le longer.length_le))
      rw [if_neg short]
      by_cases empty : landed = []
      · rw [empty, List.append_nil]
        exact .clean _
      · exact .torn _ record landed empty inText whole

/-- A landed prefix that holds the whole text leaves no debris. -/
theorem tornTail_whole (lawful : serde.Lawful) (records : List T) {landed : Bytes}
    (isPrefix : landed <+: serde.toVec record ++ [newline])
    (whole : serde.toVec record <+: landed) :
    tornTail serde (completeLines serde records ++ landed) = false := by
  rcases List.prefix_concat_iff.mp isPrefix with terminated | inText
  · rw [terminated, ← List.append_assoc, ← completeLines_append_singleton]
    exact tornTail_completeLines serde _
  · rw [inText.eq_of_length (Nat.le_antisymm inText.length_le whole.length_le)]
    exact tornTail_unterminated lawful records record

/-- Among the bytes one call landed, its record's text can only stand after
the leading line break. -/
theorem landedWhole_iff (lawful : serde.Lawful) {leading landed : Bytes}
    (shortLead : leading = [] ∨ leading = [newline])
    (isPrefix : landed <+: serde.toVec record ++ [newline]) :
    serde.toVec record <:+: leading ++ landed ↔ serde.toVec record <+: landed := by
  constructor
  · intro inside
    rcases List.prefix_concat_iff.mp isPrefix with terminated | inText
    · rw [terminated]
      exact List.prefix_append _ _
    · rcases shortLead with none | one
      · rw [none, List.nil_append] at inside
        rw [inText.eq_of_length (Nat.le_antisymm inText.length_le inside.length_le)]
      · rw [one] at inside
        -- The text does not start with a line break, so it cannot be all of `leading ++ landed`.
        by_cases same : (([newline] : Bytes) ++ landed).length = (serde.toVec record).length
        · have equal := inside.eq_of_length same.symm
          have member : newline ∈ serde.toVec record := by rw [equal]; simp
          exact absurd member (lawful.oneLine record)
        · have longer := inside.length_le
          have atMost := inText.length_le
          simp only [List.length_append, List.length_singleton] at longer same
          rw [inText.eq_of_length (by omega)]
  · rintro ⟨rest, whole⟩
    exact ⟨leading, rest, by rw [List.append_assoc, whole]⟩

/-- The two ways an append leaves a file in shape: nothing landed and nothing
was cut, or some prefix of its line stands after the complete lines. -/
theorem AppendEffect.cases_shape (lawful : serde.Lawful) {before : Bytes} {result : AppendResult}
    (shape : Shape serde records before) (effect : AppendEffect serde before record result) :
    (result.store.live = before ∧ result.landed = []) ∨
      exists landed, result.landed = leadingBytes serde before ++ landed ∧
        landed <+: serde.toVec record ++ [newline] ∧
        result.store.live = completeLines serde records ++ landed := by
  have kept := kept_append_leading lawful shape
  have landed := effect.landed
  rw [appendedBytes, List.append_assoc] at landed
  rcases effect.live with untouched | live
  · exact Or.inl untouched
  · rcases kept.2 with none | ⟨one, whole⟩
    · rw [none, List.nil_append] at landed
      rw [none, List.append_nil] at kept
      exact Or.inr ⟨result.landed, by rw [none, List.nil_append], landed, by rw [live, kept.1]⟩
    · cases split : result.landed with
      | nil =>
          rw [split, List.append_nil, whole] at live
          exact Or.inl ⟨live, rfl⟩
      | cons byte rest =>
          rw [split, one, List.singleton_append, List.cons_prefix_cons] at landed
          rw [split, landed.1] at live
          rw [one] at kept
          refine Or.inr ⟨rest, by rw [one, landed.1]; rfl, landed.2, ?_⟩
          rw [live, ← kept.1, List.append_assoc]
          rfl

/-- One append: the live file stays in shape, with the record added exactly
when its whole text landed, and success means that it did and left no debris. -/
theorem appendJsonlRecord_shape (lawful : serde.Lawful) (path : String) (record : T)
    (io : AppendIo) (store : Store UInt8) (shape : Shape serde records store.live) :
    let result := appendJsonlRecord serde path record none io store
    Shape serde (if landedWhole serde record result then records ++ [record] else records)
        result.store.live ∧
      (result.outcome = .ok () ->
        landedWhole serde record result = true ∧ tornTail serde result.store.live = false) := by
  intro result
  have effect : AppendEffect serde store.live record result :=
    appendJsonlRecord_effect serde path record io store
  have nonempty := toVec_ne_nil lawful record
  rcases effect.cases_shape lawful shape with ⟨live, landed⟩ | ⟨landed, split, isPrefix, live⟩
  · have absent : landedWhole serde record result = false := by
      simp [landedWhole, landed, nonempty]
    rw [live, absent]
    refine ⟨shape, fun success => ?_⟩
    have done := (effect.done success).2
    rw [landed, List.prefix_nil, List.append_eq_nil_iff] at done
    exact absurd done.2 nonempty
  · have shortLead := (kept_append_leading lawful shape).2.imp_right And.left
    have whole : landedWhole serde record result = decide (serde.toVec record <+: landed) := by
      rw [landedWhole, split]
      exact decide_eq_decide.mpr (landedWhole_iff lawful shortLead isPrefix)
    rw [live, whole]
    refine ⟨by simpa using shape_append_initial records record isPrefix, fun success => ?_⟩
    have done := (effect.done success).2
    rw [split, List.prefix_append_right_inj] at done
    exact ⟨decide_eq_true done, tornTail_whole lawful records isPrefix done⟩

/-! ## Runs -/

theorem landedRecords_cons (record : T) (result : AppendResult)
    (results : List (T × AppendResult)) :
    landedRecords serde ((record, result) :: results) =
      (if landedWhole serde record result then [record] else []) ++
        landedRecords serde results := by
  cases whole : landedWhole serde record result <;> simp [landedRecords, whole]

theorem appendResults_append (path : String) (earlier later : List (T × AppendIo))
    (store : Store UInt8) :
    appendResults serde path (earlier ++ later) store =
      appendResults serde path earlier store ++
        appendResults serde path later (appendAll serde path earlier store) := by
  induction earlier generalizing store with
  | nil => rfl
  | cons call rest ih =>
      rw [List.cons_append, appendResults, appendResults, ih]
      rfl

section

variable (lawful : serde.Lawful) (path : String) (calls : List (T × AppendIo))
  (store : Store UInt8) (shape : Shape serde records store.live)
include lawful path calls store shape

/-- A run keeps the live file in shape, adding the records that landed. -/
theorem appendAll_shape :
    Shape serde (records ++ landedRecords serde (appendResults serde path calls store))
      (appendAll serde path calls store).live := by
  induction calls generalizing store records with
  | nil => simpa [appendAll, appendResults, landedRecords] using shape
  | cons call rest ih =>
      have step := (appendJsonlRecord_shape lawful path call.1 call.2 store shape).1
      have run := ih _ step
      rw [appendResults, landedRecords_cons]
      rw [← List.append_assoc]
      split at run <;> simp_all [appendAll]

/-- Every call of a run that reports success landed its whole record and left
no debris behind. -/
theorem appendResults_success (entry : T × AppendResult)
    (member : entry ∈ appendResults serde path calls store) (success : entry.2.outcome = .ok ()) :
    landedWhole serde entry.1 entry.2 = true ∧ tornTail serde entry.2.store.live = false := by
  induction calls generalizing store records with
  | nil => cases member
  | cons call rest ih =>
      have step := appendJsonlRecord_shape lawful path call.1 call.2 store shape
      rcases List.mem_cons.mp member with same | later
      · subst same
        exact step.2 success
      · exact ih _ step.1 later

end

/-- Durability of the append path.  Whatever the system answers, and wherever
writes stop, the final bytes parse to exactly the records whose text landed, in
call order; a call that reports success is among them and leaves no torn tail;
and what was readable after an earlier call stays, at the same lines. -/
theorem append_run_durable (lawful : serde.Lawful) (path contextLabel : String)
    (calls : List (T × AppendIo)) :
    (exists records, parseJsonlRecords serde path contextLabel
        (appendAll serde path calls Store.empty).live = .ok records ∧
      records.map Prod.snd = landedRecords serde (appendResults serde path calls Store.empty)) ∧
    (forall entry, entry ∈ appendResults serde path calls Store.empty ->
      entry.2.outcome = .ok () ->
        landedWhole serde entry.1 entry.2 = true ∧
          tornTail serde entry.2.store.live = false) ∧
    (forall earlier later, calls = earlier ++ later ->
      exists before after, parseJsonlRecords serde path contextLabel
          (appendAll serde path earlier Store.empty).live = .ok before ∧
        parseJsonlRecords serde path contextLabel
          (appendAll serde path calls Store.empty).live = .ok after ∧
        before <+: after) := by
  have start : Shape serde [] (Store.empty : Store UInt8).live := .clean []
  have parsed : forall calls, parseJsonlRecords serde path contextLabel
      (appendAll serde path calls Store.empty).live =
        .ok ((landedRecords serde (appendResults serde path calls Store.empty)).mapIdx Prod.mk) :=
    fun calls => parseJsonlRecords_shape lawful path contextLabel
      (appendAll_shape lawful path calls Store.empty start)
  refine ⟨⟨_, parsed calls, ?_⟩, ?_, ?_⟩
  · apply List.ext_getElem <;> simp
  · exact appendResults_success lawful path calls Store.empty start
  · intro earlier later split
    refine ⟨_, _, parsed earlier, parsed calls, ?_⟩
    rw [split, appendResults_append]
    simp [landedRecords, List.mapIdx_append]

/-- One-field records, written and read as the JSON library does. -/
def flagSerde : SerdeJson Bool where
  toVec flag := [0x7b, 0x22, 0x61, 0x22, 0x3a, if flag then 0x31 else 0x30, 0x7d]
  fromSlice bytes :=
    if bytes = [0x7b, 0x22, 0x61, 0x22, 0x3a, 0x31, 0x7d] then .ok true
    else if bytes = [0x7b, 0x22, 0x61, 0x22, 0x3a, 0x30, 0x7d] then .ok false
    else .error "expected value"
  validJson bytes :=
    bytes = [0x7b, 0x22, 0x61, 0x22, 0x3a, 0x31, 0x7d] ∨
      bytes = [0x7b, 0x22, 0x61, 0x22, 0x3a, 0x30, 0x7d]

theorem flagSerde_lawful : flagSerde.Lawful where
  oneLine := by decide
  roundTrip := by intro flag; cases flag <;> rfl
  object := by decide
  parsedIsJson := by
    intro bytes flag parsed
    unfold flagSerde at parsed ⊢
    grind
  cutIsNotJson := by
    intro flag cut isPrefix short
    have listed := (List.mem_inits cut (flagSerde.toVec flag)).mpr isPrefix
    cases flag <;> simp [flagSerde, List.inits] at listed short ⊢ <;> grind

/-- Three appends: one cut after four bytes, one whose repair has to truncate
in place and loses its newline, one that succeeds. -/
theorem append_run_durable_after_faults :
    exists records, parseJsonlRecords flagSerde "events.jsonl" "event"
        (appendAll flagSerde "events.jsonl"
          [(true, { AppendIo.allDone with write := .failed 4 "no space" }),
            (false, { AppendIo.allDone with
              replace := .failed "no space", write := .failed 7 "no space" }),
            (true, AppendIo.allDone)] Store.empty).live = .ok records ∧
      records.map Prod.snd = landedRecords flagSerde (appendResults flagSerde "events.jsonl"
        [(true, { AppendIo.allDone with write := .failed 4 "no space" }),
          (false, { AppendIo.allDone with
            replace := .failed "no space", write := .failed 7 "no space" }),
          (true, AppendIo.allDone)] Store.empty) :=
  (append_run_durable flagSerde_lawful "events.jsonl" "event" _).1

end JsonlStore
end RocmCli
