import RocmCli.Provider.PartsOfBodies

namespace RocmCli
namespace Provider

open ByteReader
open OpenaiSseEmitter (pushBytes)
open Text (maxU64 isUtf8)

/-!
# The chunk loop over a run of chunks

One whole chunk pushes its data and leaves the rest of the stream.  By induction
a run of whole chunks does, so that all depends on how the bytes behind the last
whole chunk end.
-/

/-- The size line behind some chunks of a body. -/
def nextLine (rest : List Chunk) (last : SizeLine) : SizeLine :=
  match rest with
  | [] => last
  | chunk :: _ => chunk.line

@[simp] theorem encodeChunks_cons (chunk : Chunk) (chunks : List Chunk) :
    encodeChunks (chunk :: chunks) =
      chunk.line.bytes ++ (chunk.data ++ lineEnd) ++ encodeChunks chunks := rfl

@[simp] theorem dataOf_cons (chunk : Chunk) (chunks : List Chunk) :
    dataOf (chunk :: chunks) = chunk.data ++ dataOf chunks := rfl

theorem SizeLine.bytes_ne_nil (line : SizeLine) : line.bytes ≠ [] := by
  obtain ⟨front, whole, _⟩ := line.bytes_eq
  rw [whole]
  simp

theorem Chunk.fits_value (chunk : Chunk) : chunk.line.value ≤ maxU64 := by
  rw [chunk.declared]
  exact chunk.fits

theorem Chunk.value_ne_zero (chunk : Chunk) : chunk.line.value ≠ 0 := by
  rw [chunk.declared]
  exact fun none' => chunk.nonempty (List.length_eq_zero_iff.mp none')

section Runs

variable {fromStr : String -> Except ErrorChain Json} {reader : Reader}
  {emitter : OpenaiSseEmitter}

theorem readChunkedSseBody_eq (reader : Reader) (emitter : OpenaiSseEmitter) :
    readChunkedSseBody fromStr reader emitter =
      match readChunk fromStr reader emitter with
      | .error broken => .error broken
      | .ok (none, emitter) => .ok emitter
      | .ok (some left, emitter) => readChunkedSseBody fromStr left emitter := by
  rw [readChunkedSseBody]
  rcases readChunk fromStr reader emitter with broken | ⟨_ | left, next⟩ <;> rfl

/-! ## One chunk -/

/-- The data of a chunk that is there, and its line end, which may be cut off. -/
theorem readChunkData_spec {size : Nat} {data behind : Bytes} (length : size = data.length)
    (arrives : bytesOf reader = data ++ behind) :
    match pushBytes fromStr data emitter with
    | .error broken => readChunkData fromStr size reader emitter = .error broken
    | .ok next =>
        (forall rest, behind = lineEnd ++ rest -> exists left,
          readChunkData fromStr size reader emitter = .ok (left, next) ∧ bytesOf left = rest) ∧
        (behind.length < 2 -> exists broken,
          readChunkData fromStr size reader emitter = .error broken ∧
            broken.delivered = next.delivered) := by
  have enough : size ≤ (bytesOf reader).length := by
    rw [arrives, List.length_append, length]
    exact Nat.le_add_right _ _
  have read := @readFixedSseBody_whole fromStr emitter reader size enough
  rw [arrives, length, List.take_left, List.drop_left, ← length] at read
  unfold readChunkData
  revert read
  rcases pushed : pushBytes fromStr data emitter with broken | next
  · intro read
    rw [read]
    dsimp only
    rw [truncatedAtEof_of_pushBytes pushed]
  · rintro ⟨left, read, behindLeft⟩
    rw [read]
    refine ⟨?_, ?_⟩
    · rintro rest rfl
      have two : 2 ≤ (bytesOf left).length := by
        rw [behindLeft, List.length_append]
        exact Nat.le_add_right _ _
      obtain ⟨last, filled, behindLast⟩ := readExact_some two
      rw [behindLeft] at filled behindLast
      dsimp only
      rw [filled]
      exact ⟨last, rfl, behindLast⟩
    · intro short
      rw [← behindLeft] at short
      dsimp only
      rw [readExact_none short]
      exact ⟨_, rfl, rfl⟩

variable {chunk : Chunk} {rest : Bytes}

/-- A whole chunk. -/
theorem readChunkedSseBody_chunk (text : isUtf8 chunk.line.bytes = true)
    (arrives : bytesOf reader = chunk.line.bytes ++ (chunk.data ++ lineEnd) ++ rest) :
    match pushBytes fromStr chunk.data emitter with
    | .error broken => readChunkedSseBody fromStr reader emitter = .error broken
    | .ok next => exists left, bytesOf left = rest ∧
        readChunkedSseBody fromStr reader emitter = readChunkedSseBody fromStr left next := by
  rw [List.append_assoc] at arrives
  obtain ⟨left, taken, behindLine⟩ := readUntil_line arrives
  have size := (readSizeLine_seen chunk.fits_value chunk.line.bytes_ne_nil List.prefix_rfl
    taken).1 text
  rw [chunk.line.seenValue_bytes] at size
  rw [List.append_assoc] at behindLine
  have data := @readChunkData_spec fromStr left emitter _ _ _ chunk.declared behindLine
  rw [readChunkedSseBody_eq, readChunk, size]
  dsimp only
  rw [if_neg chunk.value_ne_zero]
  revert data
  rcases pushBytes fromStr chunk.data emitter with broken | next
  · intro read
    rw [read]
  · intro read
    obtain ⟨behind, isRead, isBehind⟩ := read.1 rest rfl
    rw [isRead]
    exact ⟨behind, isBehind, rfl⟩

/-- A run of whole chunks. -/
theorem readChunkedSseBody_run {front : List Chunk} {next : OpenaiSseEmitter}
    (text : forall chunk, chunk ∈ front -> isUtf8 chunk.line.bytes = true)
    (arrives : bytesOf reader = encodeChunks front ++ rest)
    (pushed : pushBytes fromStr (dataOf front) emitter = .ok next) :
    exists left, bytesOf left = rest ∧
      readChunkedSseBody fromStr reader emitter = readChunkedSseBody fromStr left next := by
  induction front generalizing reader emitter with
  | nil =>
      cases pushed
      exact ⟨reader, arrives, rfl⟩
  | cons chunk front ih =>
      rw [encodeChunks_cons, List.append_assoc] at arrives
      have step := @readChunkedSseBody_chunk fromStr reader emitter chunk _
        (text chunk List.mem_cons_self) arrives
      rw [dataOf_cons, pushBytes_append] at pushed
      revert step
      rcases first : pushBytes fromStr chunk.data emitter with broken | middle
      · rw [first] at pushed
        exact nomatch pushed
      · rw [first] at pushed
        rintro ⟨left, behind, same⟩
        obtain ⟨last, isRest, later⟩ := ih
          (fun other member => text other (List.mem_cons_of_mem _ member)) behind pushed
        exact ⟨last, isRest, same.trans later⟩

/-! ## The end of the run -/

variable {last : SizeLine}

/-- The whole last line ends the body. -/
theorem readChunkedSseBody_last (zero : last.value = 0) (text : isUtf8 last.bytes = true)
    (arrives : bytesOf reader = last.bytes ++ rest) :
    readChunkedSseBody fromStr reader emitter = .ok emitter := by
  obtain ⟨left, taken, _⟩ := readUntil_line arrives
  have fits : last.value ≤ maxU64 := by
    rw [zero]
    exact Nat.zero_le _
  have size := (readSizeLine_seen fits last.bytes_ne_nil List.prefix_rfl taken).1 text
  rw [last.seenValue_bytes, zero] at size
  rw [readChunkedSseBody_eq, readChunk, size]
  rfl

/-- The failure on a size line that is no text. -/
def notText (emitter : OpenaiSseEmitter) : Broken :=
  ⟨⟨(ErrorChain.ofMessage "stream did not contain valid UTF-8").context
    "failed to read local provider chunk size", false⟩, emitter.delivered⟩

variable {line : SizeLine}

theorem readChunkedSseBody_notText (fits : line.value ≤ maxU64)
    (noText : isUtf8 line.bytes = false) (arrives : bytesOf reader = line.bytes ++ rest) :
    readChunkedSseBody fromStr reader emitter = .error (notText emitter) := by
  obtain ⟨left, taken, _⟩ := readUntil_line arrives
  have refused := (readSizeLine_seen fits line.bytes_ne_nil List.prefix_rfl taken).2 noText
  rw [readChunkedSseBody_eq, readChunk, refused]
  rfl

variable {seen : Bytes}

/-- A size line that is cut off ends the body if the digits so far are zeros,
and fails otherwise. -/
theorem readChunkedSseBody_cut (fits : line.value ≤ maxU64) (arrives : bytesOf reader = seen)
    (starts : seen <+: line.bytes) (unfinished : seen ≠ line.bytes) :
    (seen ≠ [] -> isUtf8 seen = true -> line.seenValue seen = 0 ->
      readChunkedSseBody fromStr reader emitter = .ok emitter) ∧
    (seen = [] ∨ isUtf8 seen = false ∨ line.seenValue seen ≠ 0 -> exists broken,
      readChunkedSseBody fromStr reader emitter = .error broken ∧
        broken.delivered = emitter.delivered) := by
  obtain ⟨left, taken, ended⟩ := readUntil_cut arrives starts unfinished
  by_cases begun : seen = []
  · refine ⟨fun some' => absurd begun some', fun _ => ?_⟩
    rw [readChunkedSseBody_eq, readChunk, readSizeLine_ended (arrives.trans begun)]
    exact ⟨_, rfl, rfl⟩
  obtain ⟨declares, refuses⟩ := readSizeLine_seen fits begun starts taken
  cases text : isUtf8 seen with
  | false =>
      refine ⟨nofun, fun _ => ?_⟩
      rw [readChunkedSseBody_eq, readChunk, refuses text]
      exact ⟨_, rfl, rfl⟩
  | true =>
      rw [readChunkedSseBody_eq, readChunk, declares text]
      dsimp only
      by_cases zero : line.seenValue seen = 0
      · refine ⟨fun _ _ _ => by rw [if_pos zero], ?_⟩
        rintro (none' | impossible | nonzero)
        · exact absurd none' begun
        · exact nomatch impossible
        · exact absurd zero nonzero
      · refine ⟨fun _ _ isZero => absurd isZero zero, fun _ => ?_⟩
        rw [if_neg zero]
        have short : (bytesOf left).length < line.seenValue seen := by
          rw [ended]
          exact Nat.pos_of_ne_zero zero
        obtain ⟨broken, failed, part, inside, stopped⟩ :=
          @readFixedSseBody_short fromStr emitter left _ short
        rw [ended] at inside
        obtain rfl := List.prefix_nil.mp inside
        unfold readChunkData
        rw [failed]
        refine ⟨_, rfl, ?_⟩
        rcases stopped with impossible | ⟨next, pushed, same⟩
        · exact nomatch impossible
        · cases pushed
          exact same

/-! ## The whole body -/

variable {chunks : List Chunk}

/-- Where every size line that is reached is text, the loop pushes the data of
all chunks and stops. -/
theorem readChunkedSseBody_whole (zero : last.value = 0)
    (reached : forall front behind next, chunks = front ++ behind ->
      (forall chunk, chunk ∈ front -> isUtf8 chunk.line.bytes = true) ->
      pushBytes fromStr (dataOf front) emitter = .ok next ->
      isUtf8 (nextLine behind last).bytes = true)
    (arrives : bytesOf reader = encodeChunks chunks ++ last.bytes ++ rest) :
    readChunkedSseBody fromStr reader emitter = pushBytes fromStr (dataOf chunks) emitter := by
  induction chunks generalizing reader emitter with
  | nil =>
      have text := reached [] [] emitter rfl nofun rfl
      exact readChunkedSseBody_last zero text arrives
  | cons chunk chunks ih =>
      have text := reached [] (chunk :: chunks) emitter rfl nofun rfl
      rw [encodeChunks_cons, List.append_assoc, List.append_assoc] at arrives
      have step := @readChunkedSseBody_chunk fromStr reader emitter chunk _ text arrives
      rw [dataOf_cons, pushBytes_append]
      revert step
      rcases first : pushBytes fromStr chunk.data emitter with broken | middle
      · exact id
      · rintro ⟨left, behindChunk, same⟩
        rw [same]
        refine ih ?_ (behindChunk.trans (List.append_assoc _ _ _).symm)
        rintro front behind next rfl texts pushed
        refine reached (chunk :: front) behind next rfl ?_ ?_
        · intro other member
          rcases List.mem_cons.mp member with rfl | later
          · exact text
          · exact texts other later
        · rw [dataOf_cons, pushBytes_append, first]
          exact pushed

/-! ## A body that is cut off -/

/-- The bytes end inside a size line, behind nothing but zeros. -/
structure CutBehindZeros (chunks : List Chunk) (last : SizeLine) (received : Bytes)
    (front rest : List Chunk) (seen : Bytes) : Prop where
  split : chunks = front ++ rest
  cut : received = encodeChunks front ++ seen
  begun : seen ≠ []
  starts : seen <+: (nextLine rest last).bytes
  unfinished : seen ≠ (nextLine rest last).bytes
  zeros : forall digit, digit ∈ (nextLine rest last).digits.take seen.length -> digit = '0'
  text : isUtf8 seen = true
  textBefore : forall chunk, chunk ∈ front -> isUtf8 chunk.line.bytes = true

theorem SizeLine.seenValue_zero_iff :
    line.seenValue seen = 0 ↔
      forall digit, digit ∈ line.digits.take seen.length -> digit = '0' :=
  hexNumber_zero_iff fun digit member => line.hex digit (List.mem_of_mem_take member)

/-- The outcome on a body that is cut off. -/
def StopsShort (fromStr : String -> Except ErrorChain Json) (chunks : List Chunk)
    (last : SizeLine) (reader : Reader) (emitter : OpenaiSseEmitter) : Prop :=
  (exists broken, readChunkedSseBody fromStr reader emitter = .error broken ∧
      StoppedIn fromStr (dataOf chunks) emitter broken) ∨
    exists front rest seen next, CutBehindZeros chunks last (bytesOf reader) front rest seen ∧
      pushBytes fromStr (dataOf front) emitter = .ok next ∧
      readChunkedSseBody fromStr reader emitter = .ok next

/-- The cut is inside the first size line. -/
theorem stopsShort_inLine (fits : (nextLine chunks last).value ≤ maxU64)
    (starts : bytesOf reader <+: (nextLine chunks last).bytes)
    (unfinished : bytesOf reader ≠ (nextLine chunks last).bytes) :
    StopsShort fromStr chunks last reader emitter := by
  obtain ⟨ends, fails⟩ := @readChunkedSseBody_cut fromStr reader emitter _ _ fits rfl starts unfinished
  by_cases empty : bytesOf reader = []
  · obtain ⟨broken, failed, same⟩ := fails (Or.inl empty)
    exact Or.inl ⟨broken, failed, StoppedIn.at_start _ same⟩
  cases text : isUtf8 (bytesOf reader) with
  | false =>
      obtain ⟨broken, failed, same⟩ := fails (Or.inr (Or.inl text))
      exact Or.inl ⟨broken, failed, StoppedIn.at_start _ same⟩
  | true =>
      by_cases zeros : (nextLine chunks last).seenValue (bytesOf reader) = 0
      · refine Or.inr ⟨[], chunks, bytesOf reader, emitter, ?_, rfl, ends empty text zeros⟩
        exact ⟨rfl, rfl, empty, starts, unfinished, SizeLine.seenValue_zero_iff.mp zeros, text,
          nofun⟩
      · obtain ⟨broken, failed, same⟩ := fails (Or.inr (Or.inr zeros))
        exact Or.inl ⟨broken, failed, StoppedIn.at_start _ same⟩

/-- The cut is inside the data of a chunk or its line end. -/
theorem readChunkedSseBody_inData (text : isUtf8 chunk.line.bytes = true)
    (arrives : bytesOf reader = chunk.line.bytes ++ seen) (starts : seen <+: chunk.data ++ lineEnd)
    (unfinished : seen ≠ chunk.data ++ lineEnd) :
    exists broken, readChunkedSseBody fromStr reader emitter = .error broken ∧
      StoppedIn fromStr chunk.data emitter broken := by
  obtain ⟨left, taken, behindLine⟩ := readUntil_line arrives
  have size := (readSizeLine_seen chunk.fits_value chunk.line.bytes_ne_nil List.prefix_rfl
    taken).1 text
  rw [chunk.line.seenValue_bytes] at size
  have data : exists broken,
      readChunkData fromStr chunk.line.value left emitter = .error broken ∧
        StoppedIn fromStr chunk.data emitter broken := by
    by_cases enough : chunk.data.length ≤ seen.length
    · obtain ⟨behind, rfl⟩ := List.prefix_of_prefix_length_le (List.prefix_append _ _) starts enough
      have inEnd := (List.prefix_append_right_inj chunk.data).mp starts
      have short : behind.length < 2 := by
        apply Nat.lt_of_le_of_ne inEnd.length_le
        intro same
        exact unfinished (by rw [inEnd.eq_of_length same])
      have read := @readChunkData_spec fromStr left emitter _ _ _ chunk.declared behindLine
      revert read
      rcases pushed : pushBytes fromStr chunk.data emitter with broken | next
      · exact fun failed => ⟨broken, failed, chunk.data, List.prefix_rfl, Or.inl pushed⟩
      · intro read
        obtain ⟨broken, failed, same⟩ := read.2 short
        exact ⟨broken, failed, chunk.data, List.prefix_rfl, Or.inr ⟨next, pushed, same⟩⟩
    · have fewer : seen.length < chunk.data.length := Nat.lt_of_not_le enough
      have inData : seen <+: chunk.data :=
        List.prefix_of_prefix_length_le starts (List.prefix_append _ _) (Nat.le_of_lt fewer)
      have short : (bytesOf left).length < chunk.line.value := by
        rw [behindLine, chunk.declared]
        exact fewer
      obtain ⟨broken, failed, stopped⟩ := @readFixedSseBody_short fromStr emitter left _ short
      rw [behindLine] at stopped
      unfold readChunkData
      rw [failed]
      exact ⟨_, rfl, (stopped.longer inData).truncatedAtEof⟩
  obtain ⟨broken, failed, stopped⟩ := data
  refine ⟨broken, ?_, stopped⟩
  rw [readChunkedSseBody_eq, readChunk, size]
  dsimp only
  rw [if_neg chunk.value_ne_zero, failed]

/-- A chunk that was read whole moves the cut on. -/
theorem StopsShort.behind {left : Reader} {next : OpenaiSseEmitter}
    (text : isUtf8 chunk.line.bytes = true)
    (arrives : bytesOf reader = chunk.line.bytes ++ (chunk.data ++ lineEnd) ++ bytesOf left)
    (pushed : pushBytes fromStr chunk.data emitter = .ok next)
    (same : readChunkedSseBody fromStr reader emitter = readChunkedSseBody fromStr left next)
    (stops : StopsShort fromStr chunks last left next) :
    StopsShort fromStr (chunk :: chunks) last reader emitter := by
  rcases stops with ⟨broken, failed, stopped⟩ | ⟨front, rest, seen, final, cut, later, ends⟩
  · exact Or.inl ⟨broken, same.trans failed, StoppedIn.behind pushed stopped⟩
  · refine Or.inr ⟨chunk :: front, rest, seen, final, ?_, ?_, same.trans ends⟩
    · refine ⟨by rw [cut.split]; rfl, ?_, cut.begun, cut.starts, cut.unfinished, cut.zeros,
        cut.text, ?_⟩
      · rw [arrives, cut.cut, encodeChunks_cons, List.append_assoc _ (encodeChunks front)]
      · intro other member
        rcases List.mem_cons.mp member with rfl | inFront
        · exact text
        · exact cut.textBefore other inFront
    · rw [dataOf_cons, pushBytes_append, pushed]
      exact later

/-- A body whose last line does not end: the read fails in its data, or takes
the zeros of a size line for the end. -/
theorem stopsShort (zero : last.value = 0)
    (starts : bytesOf reader <+: encodeChunks chunks ++ last.bytes)
    (unfinished : bytesOf reader ≠ encodeChunks chunks ++ last.bytes) :
    StopsShort fromStr chunks last reader emitter := by
  induction chunks generalizing reader emitter with
  | nil =>
      refine stopsShort_inLine ?_ starts unfinished
      show last.value ≤ maxU64
      rw [zero]
      exact Nat.zero_le _
  | cons chunk chunks ih =>
      rw [encodeChunks_cons, List.append_assoc, List.append_assoc] at starts unfinished
      by_cases lineSeen : chunk.line.bytes <+: bytesOf reader
      · obtain ⟨seen, whole⟩ := lineSeen
        rw [← whole] at starts unfinished
        have inRest := (List.prefix_append_right_inj _).mp starts
        have text := Bool.eq_false_or_eq_true (isUtf8 chunk.line.bytes)
        rcases text with text | noText
        · by_cases dataSeen : chunk.data ++ lineEnd <+: seen
          · obtain ⟨more, rfl⟩ := dataSeen
            have arrives := whole.symm
            rw [← List.append_assoc] at arrives
            have step := @readChunkedSseBody_chunk fromStr reader emitter chunk more text arrives
            revert step
            rcases pushed : pushBytes fromStr chunk.data emitter with broken | next
            · intro failed
              exact Or.inl ⟨broken, failed, chunk.data, List.prefix_append _ _, Or.inl pushed⟩
            · rintro ⟨left, rfl, same⟩
              refine StopsShort.behind text arrives pushed same ?_
              refine ih ((List.prefix_append_right_inj _).mp inRest) ?_
              intro whole
              exact unfinished (by rw [whole])
          · have inData := (List.prefix_or_prefix_of_prefix inRest
              (List.prefix_append _ _)).resolve_right dataSeen
            have cutOff : seen ≠ chunk.data ++ lineEnd :=
              fun same => dataSeen (same ▸ List.prefix_rfl)
            obtain ⟨broken, failed, stopped⟩ := @readChunkedSseBody_inData fromStr reader emitter
              chunk seen text whole.symm inData cutOff
            exact Or.inl ⟨broken, failed, stopped.longer (List.prefix_append _ _)⟩
        · refine Or.inl ⟨_, readChunkedSseBody_notText chunk.fits_value noText whole.symm, ?_⟩
          exact StoppedIn.at_start _ rfl
      · have inLine := (List.prefix_or_prefix_of_prefix starts
          (List.prefix_append _ _)).resolve_right lineSeen
        refine stopsShort_inLine chunk.fits_value inLine ?_
        exact fun same => lineSeen (same ▸ List.prefix_rfl)

end Runs

end Provider
end RocmCli
