import RocmCli.JsonlStore.Durability

namespace RocmCli
namespace JsonlStore

open Segments

/-!
# Parsing after an append

An append only adds a line, so whatever a store parsed to before, it parses to
the same records, at the same line indices, and one more.  Nothing is assumed
about how the earlier lines were written: they may be blank, and the last one
may be missing its newline or be debris.
-/

variable {T : Type u} {serde : SerdeJson T}

/-! ## The parsing loop in parts -/

theorem parseJsonlLines_append (path contextLabel : String) (unterminated : Bool)
    (lineCount index : Nat) (front back : List Bytes) (records : List (Nat × T)) :
    parseJsonlLines serde path contextLabel unterminated lineCount index (front ++ back) =
        .ok records ↔
      exists early late,
        parseJsonlLines serde path contextLabel unterminated lineCount index front =
            .ok early ∧
          parseJsonlLines serde path contextLabel unterminated lineCount
            (index + front.length) back = .ok late ∧
          records = early ++ late := by
  induction front generalizing index records with
  | nil => simp [parseJsonlLines]
  | cons line rest ih =>
      have shift : index + 1 + rest.length = index + (line :: rest).length := by
        rw [List.length_cons]
        omega
      have later := ih (index + 1)
      rw [shift] at later
      rw [List.cons_append, parseJsonlLines, parseJsonlLines]
      by_cases blank : isBlank line = true
      · rw [if_pos blank, if_pos blank]
        exact later records
      · rw [if_neg blank, if_neg blank]
        cases serde.fromSlice line with
        | ok record =>
            dsimp only
            constructor
            · intro parsed
              split at parsed
              next others whole =>
                cases parsed
                rcases (later others).mp whole with ⟨early, late, first, second, rfl⟩
                exact ⟨(index, record) :: early, late, by rw [first], second, rfl⟩
              next => cases parsed
            · rintro ⟨early, late, first, second, rfl⟩
              split at first
              next others earlyParsed =>
                cases first
                rw [(later (others ++ late)).mpr ⟨others, late, earlyParsed, second, rfl⟩]
                rfl
              next => cases first
        | error error =>
            dsimp only
            split
            · exact later records
            · simp

/-- Ahead of the last line nothing is skipped as debris, so it does not matter
how many lines follow or how the last one ends. -/
theorem parseJsonlLines_early (path contextLabel : String) (lines : List Bytes)
    (index : Nat) {lineCount otherCount : Nat} (unterminated other : Bool)
    (inside : index + lines.length < lineCount) (otherInside : index + lines.length < otherCount) :
    parseJsonlLines serde path contextLabel unterminated lineCount index lines =
      parseJsonlLines serde path contextLabel other otherCount index lines := by
  induction lines generalizing index with
  | nil => rfl
  | cons line rest ih =>
      rw [List.length_cons] at inside otherInside
      have notLast : (index + 1 == lineCount) = false := by
        apply beq_false_of_ne
        omega
      have notOtherLast : (index + 1 == otherCount) = false := by
        apply beq_false_of_ne
        omega
      rw [parseJsonlLines, parseJsonlLines,
        ih (index + 1) (by omega) (by omega)]
      simp [notLast, notOtherLast]

theorem parseJsonlLines_appended (lawful : serde.Lawful) (path contextLabel : String)
    (unterminated : Bool) (lineCount index : Nat) (record : T) :
    parseJsonlLines serde path contextLabel unterminated lineCount index
      [serde.toVec record, []] = .ok [(index, record)] := by
  have notBlank := isBlank_of_initial lawful (toVec_ne_nil lawful record) List.prefix_rfl
  have blank : isBlank [] = true := rfl
  simp [parseJsonlLines, notBlank, blank, lawful.roundTrip]

/-! ## One appended record -/

theorem parseJsonlRecords_append (lawful : serde.Lawful) (path contextLabel : String)
    {bytes : Bytes} {records : List (Nat × T)}
    (parsed : parseJsonlRecords serde path contextLabel bytes = .ok records) (record : T) :
    exists index, parseJsonlRecords serde path contextLabel
      (keptBytes serde bytes ++ appendedBytes serde bytes record) =
        .ok (records ++ [(index, record)]) := by
  rcases splitOn_upToLast_append newline bytes with ⟨before, split⟩
  have lastFree := not_mem_lastSegment newline bytes
  have whole := upToLast_append_lastSegment newline bytes
  have oldLines : bytes.splitOn newline = before ++ [lastSegment newline bytes] := by
    have lines := split (lastSegment newline bytes)
    rwa [whole, List.splitOn_eq_singleton lastFree] at lines
  have ownLines : (serde.toVec record ++ [newline]).splitOn newline =
      [serde.toVec record, []] := by
    rw [List.splitOn_append_cons_self_of_not_mem (lawful.oneLine record)]
    rfl
  rw [parseJsonlRecords, lastSegment_isEmpty, oldLines] at parsed
  rcases (parseJsonlLines_append _ _ _ _ _ _ _ _).mp parsed with
    ⟨early, late, earlyParsed, lateParsed, rfl⟩
  -- Whatever the new lines are, those before the last one parse as they did.
  have assembled : forall (unterminated : Bool) (rest : List Bytes) (newRecords : List (Nat × T)),
      rest ≠ [] ->
      parseJsonlLines serde path contextLabel unterminated (before.length + rest.length)
        before.length rest = .ok newRecords ->
      parseJsonlLines serde path contextLabel unterminated (before ++ rest).length 0
        (before ++ rest) = .ok (early ++ newRecords) := by
    intro unterminated rest newRecords nonempty restParsed
    have positive : 0 < rest.length := List.length_pos_of_ne_nil nonempty
    refine (parseJsonlLines_append _ _ _ _ _ _ _ _).mpr ⟨early, newRecords, ?_, ?_, rfl⟩
    · rw [← earlyParsed]
      apply parseJsonlLines_early
      · simpa using positive
      · simp
    · rwa [List.length_append, Nat.zero_add]
  have appended : forall unterminated lineCount index,
      parseJsonlLines serde path contextLabel unterminated lineCount index
        [serde.toVec record, []] = .ok [(index, record)] :=
    fun unterminated lineCount index =>
      parseJsonlLines_appended lawful path contextLabel unterminated lineCount index record
  rw [Nat.zero_add] at lateParsed
  by_cases boundary : lastSegment newline bytes = []
  · -- The file ends at a line boundary.
    have kept : keptBytes serde bytes = upToLast newline bytes := by
      rw [boundary, List.append_nil] at whole
      simp [keptBytes, tornTail, boundary, whole]
    have leading : leadingBytes serde bytes = [] := by simp [leadingBytes, boundary]
    have nothing : late = [] := by
      rw [boundary] at lateParsed
      simpa [parseJsonlLines, isBlank] using lateParsed.symm
    refine ⟨before.length, ?_⟩
    rw [kept, appendedBytes, leading, List.nil_append, parseJsonlRecords, split, ownLines,
      nothing, List.append_nil]
    exact assembled _ _ _ (by simp) (appended _ _ _)
  · have unterminated : (!(lastSegment newline bytes).isEmpty) = true := by simpa using boundary
    rw [unterminated] at lateParsed
    by_cases torn : tornTail serde bytes = true
    · -- Debris, which is replaced, parsed to nothing.
      have kept : keptBytes serde bytes = upToLast newline bytes := by simp [keptBytes, torn]
      have leading : leadingBytes serde bytes = [] := by simp [leadingBytes, torn]
      simp only [tornTail, isTornRecord, Bool.and_eq_true, Bool.not_eq_true'] at torn
      have nothing : late = [] := by
        have unreadable : forall other, serde.fromSlice (lastSegment newline bytes) ≠ .ok other := by
          intro other readable
          rw [lawful.parsedIsJson _ other readable] at torn
          cases torn.2
        rw [List.length_append, List.length_singleton,
          parseJsonlLines_last path contextLabel true before.length _
            (Or.inr ⟨rfl, unreadable, torn.2⟩)] at lateParsed
        exact (Except.ok.inj lateParsed).symm
      refine ⟨before.length, ?_⟩
      rw [kept, appendedBytes, leading, List.nil_append, parseJsonlRecords, split, ownLines,
        nothing, List.append_nil]
      exact assembled _ _ _ (by simp) (appended _ _ _)
    · -- A complete or blank last line gets its line break.
      have kept : keptBytes serde bytes = bytes := by simp [keptBytes, torn]
      have leading : leadingBytes serde bytes = [newline] := by
        simp [leadingBytes, torn, boundary]
      have newLines : (bytes ++ ([newline] ++ serde.toVec record ++ [newline])).splitOn newline =
          before ++ [lastSegment newline bytes, serde.toVec record, []] := by
        have lines := split (lastSegment newline bytes ++
          newline :: (serde.toVec record ++ [newline]))
        rw [← List.append_assoc, whole,
          List.splitOn_append_cons_self_of_not_mem lastFree, ownLines] at lines
        simpa using lines
      refine ⟨before.length + 1, ?_⟩
      rw [kept, appendedBytes, leading, parseJsonlRecords, newLines, List.append_assoc early late]
      apply assembled _ _ _ (by simp)
      refine (parseJsonlLines_append _ _ _ _ _ [lastSegment newline bytes]
        [serde.toVec record, []] _).mpr ⟨late, _, ?_, appended _ _ _, rfl⟩
      rw [← lateParsed]
      simp only [tornTail, unterminated, Bool.true_and, Bool.and_eq_true, Bool.not_eq_true',
        not_and, Bool.not_eq_true] at torn
      cases blank : isBlank (lastSegment newline bytes) with
      | true => simp [parseJsonlLines, blank]
      | false => simp [parseJsonlLines, blank, torn blank]

/-! ## An append that meets no fault -/

theorem appendAfterTail_allDone (serde : SerdeJson T) (path : String) (record : T) (file : FileId)
    {store : Store UInt8} (named : store.named 0 = some file) :
    let result := appendAfterTail serde path AppendIo.allDone (serde.toVec record ++ [newline])
      file store
    result.outcome = .ok () ∧
      result.store.live = keptBytes serde store.live ++ appendedBytes serde store.live record := by
  have inspected := inspectTail_eq serde path store.live
  rw [live_of_named named] at inspected ⊢
  unfold appendAfterTail
  by_cases boundary : lastSegment newline (store.content file) = []
  · rw [if_pos boundary] at inspected
    have kept : keptBytes serde (store.content file) = store.content file := by
      simp [keptBytes, tornTail, boundary]
    simp only [AppendIo.allDone, inspected, appendOrTolerateAMissingNewline, kept, appendedBytes,
      leadingBytes, boundary]
    exact ⟨trivial, by rw [live_write named, live_of_named named]; rfl⟩
  · rw [if_neg boundary] at inspected
    by_cases torn : tornTail serde (store.content file) = true
    · rw [if_pos torn] at inspected
      have prefixOf := List.rdropWhile_prefix (fun byte => byte != newline) (store.content file)
      have cut := List.prefix_iff_eq_take.mp prefixOf
      have kept : keptBytes serde (store.content file) =
          upToLast newline (store.content file) := by simp [keptBytes, torn]
      simp only [AppendIo.allDone, inspected, repairTornTailAndAppend, kept, appendedBytes,
        leadingBytes, torn, Bool.or_true, if_true]
      refine ⟨trivial, ?_⟩
      rw [Store.live_install, readRange, List.drop_zero, Nat.sub_zero]
      exact congrArg (fun front => front ++ _) cut.symm
    · rw [if_neg torn] at inspected
      have kept : keptBytes serde (store.content file) = store.content file := by
        simp [keptBytes, torn]
      simp only [AppendIo.allDone, inspected, appendOrTolerateAMissingNewline, kept, appendedBytes,
        leadingBytes, torn]
      exact ⟨trivial, by rw [live_write named, live_of_named named]; simp [boundary]⟩

theorem appendJsonlRecord_allDone (serde : SerdeJson T) (path : String) (record : T) (store : Store UInt8) :
    let result := appendJsonlRecord serde path record none AppendIo.allDone store
    result.outcome = .ok () ∧
      result.store.live = keptBytes serde store.live ++ appendedBytes serde store.live record := by
  have opened := openJsonlForAppend_live path none store
  have openedOk : exists file after, openJsonlForAppend path none store = (.ok file, after) := by
    unfold openJsonlForAppend
    cases store.named 0 with
    | some file => exact ⟨file, store, rfl⟩
    | none => exact ⟨store.next, store.install [], rfl⟩
  rcases openedOk with ⟨file, after, answer⟩
  rw [answer] at opened
  have appended := appendAfterTail_allDone serde path record file
    (openJsonlForAppend_ok answer).1
  rw [show after.live = store.live from opened] at appended
  have handle : openJsonlForAppend path AppendIo.allDone.openLive store = (.ok file, after) := answer
  unfold appendJsonlRecord
  rw [handle]
  exact appended

end JsonlStore
end RocmCli
