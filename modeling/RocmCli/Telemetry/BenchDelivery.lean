import RocmCli.Support.Csv
import RocmCli.Telemetry.BenchFile

namespace RocmCli
namespace BenchRows

open Text Runs

/-!
# Benchmark rows are returned once

As long as no call appends to an unfinished line and no drain takes one for a
row, the file is the header and whole rows, followed by the beginning of one
more at most.  What the drains return is then what the finished calls wrote.
-/

variable {Row : Type} {library : CsvLibrary Row}

/-! ## What is to hold -/

/-- In every moment the rows returned so far are the first of those whose append
has returned, each once and in the order of the file, and a drain that succeeds
leaves none of them out. -/
structure ExactlyOnce (library : CsvLibrary Row) (start : State Row)
    (actions : List (Action Row)) : Prop where
  written : (finalState (step library) start actions).drained.flatten <+:
    (finalState (step library) start actions).appended
  prompt : forall before after, actions = before ++ Action.drain :: after ->
    drainSucceeds library (finalState (step library) start before) = true ->
      (finalState (step library) start (before ++ [Action.drain])).drained.flatten =
        (finalState (step library) start before).appended

/-- No call begins while the line of the header is there and the file ends
inside a line, and no drain finds an unfinished row that reads as one. -/
def Orderly (library : CsvLibrary Row) (state : State Row) : Action Row -> Prop
  | .append _ => state.writer.isNone = true -> headerLine <+: state.content ->
      unterminated state.content = []
  | .write => True
  | .stop => True
  | .drain => headerBytes <+: state.content -> unterminated state.content ≠ [] ->
      library.readsAs (unterminated state.content) = none

/-! ## The layout of the file -/

/-- What the file holds beside the call that has its lock and the rows that were
appended. -/
inductive Layout (library : CsvLibrary Row) : Option Bytes -> Option (Writer Row) -> List Row -> Prop
  | absent : Layout library none none []
  | inHeader (done rest : Bytes) (isHeader : done ++ rest = headerBytes) (unfinished : rest ≠ [])
      (writer : Option (Writer Row))
      (goes : forall current, writer = some current ->
        current.pending = rest ++ library.line current.row) :
      Layout library (some done) writer []
  | whole (rows : List Row) : Layout library (some (library.fileOf rows)) none rows
  | inRow (rows : List Row) (row : Row) (done rest : Bytes)
      (isLine : done ++ rest = library.line row) (unfinished : rest ≠ [])
      (writer : Option (Writer Row)) (goes : forall current, writer = some current ->
        current = ⟨row, rest⟩) :
      Layout library (some (library.fileOf rows ++ done)) writer rows

/-- The layout of the file, and the tailer's account of what it has returned. -/
structure Sound (library : CsvLibrary Row) (state : State Row) : Prop where
  layout : Layout library state.file state.writer state.appended
  returned : state.drained.flatten <+: state.appended
  counted : state.rowsSeen = state.drained.flatten.length

theorem line_ne_nil (lawful : library.Lawful) (row : Row) : library.line row ≠ [] := by
  rcases lawful.lineEnds row with ⟨body, ends, _⟩
  rw [ends]
  exact List.append_ne_nil_of_right_ne_nil _ (List.cons_ne_nil _ _)

theorem headerBytes_ne_nil : headerBytes ≠ [] := by
  rw [headerBytes_eq]
  exact List.append_ne_nil_of_right_ne_nil _ (List.cons_ne_nil _ _)

theorem fileOf_append (rows : List Row) (row : Row) :
    library.fileOf (rows ++ [row]) = library.fileOf rows ++ library.line row := by
  unfold CsvLibrary.fileOf
  rw [List.flatMap_append, List.flatMap_singleton, List.append_assoc]

theorem fileOf_nil : library.fileOf [] = headerBytes := List.append_nil headerBytes

/-- The line of the header begins every file with rows. -/
theorem headerLine_begins (rows : List Row) (part : Bytes) :
    headerLine <+: library.fileOf rows ++ part := by
  refine ⟨[newline] ++ rows.flatMap library.line ++ part, ?_⟩
  unfold CsvLibrary.fileOf
  rw [headerBytes_eq]
  simp only [List.append_assoc]

theorem headerBytes_begins (rows : List Row) (part : Bytes) :
    headerBytes <+: library.fileOf rows ++ part := by
  refine ⟨rows.flatMap library.line ++ part, ?_⟩
  unfold CsvLibrary.fileOf
  simp only [List.append_assoc]

theorem unterminated_part (lawful : library.Lawful) (rows : List Row) {row : Row}
    {done rest : Bytes} (isLine : done ++ rest = library.line row) (unfinished : rest ≠ []) :
    unterminated (library.fileOf rows ++ done) = done := by
  rcases rows_end lawful rows with ⟨front, ends⟩
  rw [ends]
  exact unterminated_ended front (newline_notMem_part lawful isLine unfinished)

/-! ## Steps -/

/-- A call that finds header and whole rows goes on with its row. -/
theorem append_whole (lawful : library.Lawful) (rows : List Row) (row : Row) :
    Layout library (some (library.fileOf rows))
      ((appendOneRow library (library.fileOf rows) row).map fun pending => ⟨row, pending⟩) rows := by
  have nonempty : library.fileOf rows ≠ [] :=
    List.append_ne_nil_of_left_ne_nil headerBytes_ne_nil _
  have matched : headerMatches (library.fileOf rows) = true := headerMatches_front _
  have goesOn : appendOneRow library (library.fileOf rows) row = some (library.line row) := by
    unfold appendOneRow
    rw [if_neg nonempty, matched]
    rfl
  rw [goesOn, ← List.append_nil (library.fileOf rows)]
  refine Layout.inRow rows row [] (library.line row) rfl (line_ne_nil lawful row) _ ?_
  intro current isCurrent
  exact (Option.some.inj isCurrent).symm

variable {state : State Row}

/-- A call that takes the lock of a file in order leaves it in order. -/
theorem append_sound (lawful : library.Lawful) (row : Row)
    (orderly : Orderly library state (.append row)) (sound : Sound library state) :
    Sound library (step library state (.append row)) := by
  rcases state with ⟨file, writer, rowsSeen, appended, drained⟩
  cases writer with
  | some current => exact sound
  | none =>
      refine ⟨?_, sound.returned, sound.counted⟩
      have guard := orderly rfl
      have layout : Layout library file none appended := sound.layout
      unfold State.content at guard
      change Layout library (some (file.getD []))
        ((appendOneRow library (file.getD []) row).map fun pending => ⟨row, pending⟩) appended
      cases layout with
      | absent =>
          refine Layout.inHeader [] headerBytes rfl headerBytes_ne_nil _ ?_
          intro current isCurrent
          cases isCurrent
          rfl
      | inHeader done rest isHeader unfinished _ goes =>
          change Layout library (some done)
            ((appendOneRow library done row).map fun pending => ⟨row, pending⟩) []
          by_cases empty : done = []
          · subst empty
            rw [List.nil_append] at isHeader
            subst isHeader
            refine Layout.inHeader [] headerBytes rfl headerBytes_ne_nil _ ?_
            intro current isCurrent
            cases isCurrent
            rfl
          · -- a part of the header is not mistaken for the header
            have short : headerMatches done = false := by
              refine headerMatches_short ?_
              by_contra long
              have lengths := congrArg List.length isHeader
              rw [headerBytes_eq, List.length_append, List.length_append] at lengths
              have some_ := List.length_pos_iff.mpr unfinished
              have singleton_ : [newline].length = 1 := rfl
              have sizes : done.length = headerLine.length := by omega
              rw [headerBytes_eq] at isHeader
              have same := (List.append_inj isHeader sizes).1
              have ended := guard (same ▸ List.prefix_refl _)
              change unterminated done = [] at ended
              rw [same, unterminated_whole newline_notMem_headerLine, ← same] at ended
              exact empty ended
            have refused : appendOneRow library done row = none := by
              unfold appendOneRow
              rw [if_neg empty, short]
              rfl
            rw [refused]
            exact Layout.inHeader done rest isHeader unfinished none nofun
      | whole => exact append_whole lawful appended row
      | inRow _ other done rest isLine unfinished _ goes =>
          have ended := guard (headerLine_begins appended done)
          change unterminated (library.fileOf appended ++ done) = [] at ended
          rw [unterminated_part lawful appended isLine unfinished] at ended
          subst ended
          change Layout library (some (library.fileOf appended ++ [])) ((appendOneRow library
            (library.fileOf appended ++ []) row).map fun pending => ⟨row, pending⟩) appended
          rw [List.append_nil]
          exact append_whole lawful appended row

/-- The next byte of the call that has the lock keeps the file in order. -/
theorem write_sound (lawful : library.Lawful) (sound : Sound library state) :
    Sound library (step library state .write) := by
  rcases state with ⟨file, writer, rowsSeen, appended, drained⟩
  rcases writer with _ | ⟨row, _ | ⟨byte, pending⟩⟩
  · exact sound
  · exact sound
  · have layout : Layout library file (some ⟨row, byte :: pending⟩) appended := sound.layout
    change Sound library (writeByte _ row byte pending)
    unfold writeByte
    cases layout with
    | inHeader done rest isHeader unfinished _ goes =>
        have isPending : byte :: pending = rest ++ library.line row := goes _ rfl
        cases rest with
        | nil => exact absurd rfl unfinished
        | cons first rest =>
            have isByte : byte = first := (List.cons.inj isPending).1
            have isRest : pending = rest ++ library.line row := (List.cons.inj isPending).2
            subst isByte isRest
            have more : rest ++ library.line row ≠ [] :=
              List.append_ne_nil_of_right_ne_nil _ (line_ne_nil lawful row)
            rw [if_neg more]
            refine ⟨?_, sound.returned, sound.counted⟩
            by_cases atEnd : rest = []
            · subst atEnd
              change Layout library (some (done ++ [byte])) _ []
              rw [isHeader, ← @fileOf_nil Row library,
                ← List.append_nil (library.fileOf [])]
              exact Layout.inRow [] row [] (library.line row) rfl (line_ne_nil lawful row) _
                fun _ isCurrent => (Option.some.inj isCurrent).symm
            · refine Layout.inHeader (done ++ [byte]) rest ?_ atEnd _ ?_
              · rw [List.append_assoc]
                exact isHeader
              · intro current isCurrent
                cases isCurrent
                rfl
    | inRow _ other done rest isLine unfinished _ goes =>
        have isCurrent := goes _ rfl
        cases isCurrent
        by_cases atEnd : pending = []
        · subst atEnd
          rw [if_pos rfl]
          refine ⟨?_, sound.returned.trans (List.prefix_append _ _), sound.counted⟩
          change Layout library (some (library.fileOf appended ++ done ++ [byte])) none
            (appended ++ [row])
          rw [List.append_assoc, isLine, ← fileOf_append]
          exact Layout.whole _
        · rw [if_neg atEnd]
          refine ⟨?_, sound.returned, sound.counted⟩
          change Layout library (some (library.fileOf appended ++ done ++ [byte])) _ appended
          rw [List.append_assoc]
          refine Layout.inRow appended row (done ++ [byte]) pending ?_ atEnd _
            fun _ isCurrent => (Option.some.inj isCurrent).symm
          rw [List.append_assoc]
          exact isLine

/-- A call may stop anywhere. -/
theorem stop_sound (sound : Sound library state) : Sound library (step library state .stop) := by
  rcases state with ⟨file, writer, rowsSeen, appended, drained⟩
  refine ⟨?_, sound.returned, sound.counted⟩
  have layout : Layout library file writer appended := sound.layout
  change Layout library file none appended
  cases layout with
  | absent => exact Layout.absent
  | inHeader done rest isHeader unfinished _ goes =>
      exact Layout.inHeader done rest isHeader unfinished none nofun
  | whole => exact Layout.whole appended
  | inRow _ other done rest isLine unfinished _ goes =>
      exact Layout.inRow appended other done rest isLine unfinished none nofun

/-- Where all appended rows are read, a drain returns those that are left. -/
theorem returnNew_sound (sound : Sound library state) :
    Sound library (returnNew state state.appended) ∧
      (returnNew state state.appended).drained.flatten = state.appended := by
  have order := sound.returned.length_le
  have kept : ¬ state.appended.length < state.rowsSeen := by
    rw [sound.counted]
    omega
  have flat : (returnNew state state.appended).drained.flatten = state.appended := by
    unfold returnNew
    rw [if_neg kept]
    dsimp only
    rw [List.flatten_append, List.flatten_singleton, sound.counted]
    exact (List.prefix_iff_eq_append.mp sound.returned)
  refine ⟨⟨sound.layout, ?_, ?_⟩, flat⟩
  · rw [flat]
    exact List.prefix_refl _
  · rw [flat]
    unfold returnNew
    rw [if_neg kept]
    dsimp only
    rw [List.length_drop, sound.counted]
    omega

/-- A drain reads the appended rows or fails. -/
theorem drain_cases (lawful : library.Lawful) (orderly : Orderly library state .drain)
    (sound : Sound library state) :
    (state.file = none ∧ state.appended = []) ∨
      exists content, state.file = some content ∧
        (library.read content = .ok state.appended ∨
          exists error, library.read content = .error error) := by
  rcases state with ⟨file, writer, rowsSeen, appended, drained⟩
  have layout : Layout library file writer appended := sound.layout
  cases layout with
  | absent => exact Or.inl ⟨rfl, rfl⟩
  | inHeader done rest isHeader unfinished _ goes =>
      exact Or.inr ⟨done, rfl, Or.inl (lawful.readHeader done ⟨rest, isHeader⟩)⟩
  | whole => exact Or.inr ⟨_, rfl, Or.inl (lawful.readRows appended)⟩
  | inRow _ row done rest isLine unfinished _ goes =>
      refine Or.inr ⟨_, rfl, ?_⟩
      by_cases empty : done = []
      · subst empty
        rw [List.append_nil]
        exact Or.inl (lawful.readRows appended)
      · right
        have last := unterminated_part lawful appended isLine unfinished
        have noRow : library.readsAs (unterminated (library.fileOf appended ++ done)) = none :=
          orderly (headerBytes_begins appended done) (by
            change unterminated (library.fileOf appended ++ done) ≠ []
            rw [last]
            exact empty)
        rw [last] at noRow
        exact lawful.readHalf appended row done rest isLine empty unfinished noRow

/-- A drain keeps the account, and one that succeeds has returned every row. -/
theorem drain_sound (lawful : library.Lawful) (orderly : Orderly library state .drain)
    (sound : Sound library state) :
    Sound library (drain library state) ∧
      (drainSucceeds library state = true ->
        (drain library state).drained.flatten = state.appended) := by
  rcases drain_cases lawful orderly sound with
    ⟨noFile, noRows⟩ | ⟨content, isFile, wasRead | ⟨error, fails⟩⟩
  · have same : (drain library state).drained.flatten = state.drained.flatten := by
      unfold drain
      rw [noFile]
      dsimp only
      rw [List.flatten_append, List.flatten_singleton, List.append_nil]
    have unchanged : (drain library state).appended = state.appended ∧
        (drain library state).file = state.file ∧ (drain library state).writer = state.writer ∧
        (drain library state).rowsSeen = state.rowsSeen := by
      unfold drain
      rw [noFile]
      exact ⟨rfl, rfl, rfl, rfl⟩
    rcases unchanged with ⟨sameRows, sameFile, sameWriter, sameCount⟩
    refine ⟨⟨?_, ?_, ?_⟩, fun _ => ?_⟩
    · rw [sameRows, sameFile, sameWriter]
      exact sound.layout
    · rw [same, sameRows]
      exact sound.returned
    · rw [same, sameCount]
      exact sound.counted
    · have returned := sound.returned
      rw [noRows] at returned ⊢
      rw [same]
      exact List.prefix_nil.mp returned
  · have drains : drain library state = returnNew state state.appended := by
      unfold drain
      rw [isFile]
      dsimp only
      rw [wasRead]
    rw [drains]
    rcases returnNew_sound sound with ⟨soundAfter, flat⟩
    exact ⟨soundAfter, fun _ => flat⟩
  · have drains : drain library state = state := by
      unfold drain
      rw [isFile]
      dsimp only
      rw [fails]
    have failed : drainSucceeds library state = false := by
      unfold drainSucceeds
      rw [isFile]
      dsimp only
      rw [fails]
      rfl
    rw [drains, failed]
    exact ⟨sound, nofun⟩

theorem step_sound (lawful : library.Lawful) (state : State Row) (action : Action Row)
    (sound : Sound library state) (orderly : Orderly library state action) :
    Sound library (step library state action) := by
  cases action with
  | append row => exact append_sound lawful row orderly sound
  | write => exact write_sound lawful sound
  | stop => exact stop_sound sound
  | drain => exact (drain_sound lawful orderly sound).1

/-! ## Runs -/

/-- Nothing has been written, appended or returned; the file is absent or empty. -/
def fresh (file : Option Bytes) : State Row := ⟨file, none, 0, [], []⟩

theorem fresh_sound {file : Option Bytes} (empty : file.getD [] = []) :
    Sound library (fresh file) := by
  refine ⟨?_, List.prefix_refl _, rfl⟩
  change Layout library file none []
  cases file with
  | none => exact Layout.absent
  | some content =>
      change content = [] at empty
      subst empty
      exact Layout.inHeader [] headerBytes rfl headerBytes_ne_nil none nofun

/-- Every benchmark row is returned exactly once in every run in which no call
appends to an unfinished line and no drain takes one for a row. -/
theorem exactlyOnce (lawful : library.Lawful) {file : Option Bytes} (empty : file.getD [] = [])
    (actions : List (Action Row))
    (orderly : Guarded (step library) (Orderly library) (fresh file) actions) :
    ExactlyOnce library (fresh file) actions := by
  have start : Sound library (fresh file : State Row) := fresh_sound empty
  constructor
  · exact (invariant_of_step (step_sound lawful) start orderly).returned
  · intro before after whole succeeds
    rw [whole] at orderly
    have parts := (guarded_append (fresh file) before _).mp orderly
    have sound := invariant_of_step (step_sound lawful) start parts.1
    rw [finalState_append]
    exact (drain_sound lawful parts.2.1 sound).2 succeeds

end BenchRows
end RocmCli
