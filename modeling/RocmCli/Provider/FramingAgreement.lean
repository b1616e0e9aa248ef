import RocmCli.Provider.ChunkRuns

namespace RocmCli
namespace Provider

open ByteReader
open OpenaiSseEmitter (pushBytes)
open Text (maxU64 isUtf8)

/-!
# The framings agree, and a cut is noticed

A body gives the same answer in each framing, and one that is cut off before
its end fails with a start of the events.  The chunk loop breaks this in two
places: a size line that is cut off behind zeros counts as the last chunk, and
an extension that is not UTF-8 fails a body that is whole.
-/

/-! ## What was sent -/

/-- A body in one of the three framings. -/
inductive Transfer where
  | contentLength (body : Bytes)
  | closeDelimited (body : Bytes)
  | chunked (body : ChunkedBody)

namespace Transfer

def body : Transfer -> Bytes
  | contentLength body | closeDelimited body => body
  | chunked body => body.data

def framing : Transfer -> Framing
  | contentLength body => .fixed body.length
  | closeDelimited _ => .closeDelimited
  | chunked _ => .chunked

/-- What arrives before the connection ends.  Without a framing of its own, the
body is what arrives. -/
def Arrives : Transfer -> Bytes -> Prop
  | contentLength body, received => received <+: body
  | closeDelimited body, received => received = body
  | chunked body, received => received <+: body.encode

/-- The end of the body arrived. -/
def Ended : Transfer -> Bytes -> Prop
  | contentLength body, received => received = body
  | closeDelimited _, _ => True
  | chunked body, received => body.untilLast <+: received

end Transfer

/-! ## What is promised -/

section Promise

variable (fromStr : String -> Except ErrorChain Json) (headers : String) (reader : Reader)

/-- The read fails and has handed on a start of the events. -/
def CutShort (body : Bytes) : Prop :=
  exists broken, streamBody fromStr headers reader = .error broken ∧
    broken.delivered <+: deliveredBy (answerOf fromStr body)

/-- A body that arrived is answered as its lines say, with one end that is the
last event; one that did not fails. -/
def Faithful (transfer : Transfer) : Prop :=
  (transfer.Ended (bytesOf reader) ->
    streamBody fromStr headers reader = answerOf fromStr transfer.body ∧
      forall events, streamBody fromStr headers reader = .ok events ->
        exists front, events = front ++ [doneEvent] ∧
          forall event, event ∈ front -> event.done = false) ∧
    (¬ transfer.Ended (bytesOf reader) -> CutShort fromStr headers reader transfer.body)

end Promise

/-! ## Where the chunk loop goes wrong -/

section Conditions

variable (fromStr : String -> Except ErrorChain Json)

/-- Every line of a body can be read, the unfinished one included. -/
def Readable (body : Bytes) : Prop := (eventsOf fromStr (linesFrom [] body)).2 = none

/-- Every finished line of a body can be read. -/
def ReadableSoFar (body : Bytes) : Prop := (eventsOf fromStr (finishedLines body)).2 = none

/-- The bytes end behind the zeros of a size line, and all lines so far can be
read. -/
structure MisreadAt (body : ChunkedBody) (received : Bytes) (front rest : List Chunk)
    (seen : Bytes) : Prop where
  cut : CutBehindZeros body.chunks body.last received front rest seen
  readable : Readable fromStr (dataOf front)

/-- A size line that is not UTF-8 is reached. -/
structure NotTextAt (body : ChunkedBody) (front rest : List Chunk) : Prop where
  split : body.chunks = front ++ rest
  noText : isUtf8 (nextLine rest body.last).bytes = false
  textBefore : forall chunk, chunk ∈ front -> isUtf8 chunk.line.bytes = true
  readable : ReadableSoFar fromStr (dataOf front)

/-- A cut that is taken for the end, or an end that is not reached. -/
def Misread : Transfer -> Bytes -> Prop
  | .chunked body, received =>
      (exists front rest seen, MisreadAt fromStr body received front rest seen) ∨
        (body.untilLast <+: received ∧ exists front rest, NotTextAt fromStr body front rest)
  | _, _ => False

end Conditions

section Agreement

variable {fromStr : String -> Except ErrorChain Json} {headers : String} {reader : Reader}

theorem readableSoFar_iff {body : Bytes} :
    ReadableSoFar fromStr body ↔ exists next, pushBytes fromStr body .new = .ok next := by
  unfold ReadableSoFar finishedLines
  rw [pushBytes_eq body rfl]
  unfold afterLines OpenaiSseEmitter.new
  rcases eventsOf fromStr (splitLines [] body).1 with ⟨events, _ | error⟩
  · simp
  · simp

theorem readable_iff {body : Bytes} :
    Readable fromStr body ↔ exists events, answerOf fromStr body = .ok events := by
  unfold Readable answerOf answerFrom
  rcases eventsOf fromStr (linesFrom [] body) with ⟨events, _ | error⟩
  · simp
  · simp

/-- What a failed part handed on is a start of the answer's events. -/
theorem StoppedIn.delivered {data body : Bytes} {broken : Broken} (inside : data <+: body)
    (stopped : StoppedIn fromStr data .new broken) :
    broken.delivered <+: deliveredBy (answerOf fromStr body) := by
  obtain ⟨part, starts, ends⟩ := stopped
  have part' := @delivers_part fromStr part body (starts.trans inside)
  rcases ends with failed | ⟨next, pushed, same⟩
  · rw [failed] at part'
    have answer : answerOf fromStr body = .error broken := part'
    rw [answer]
    exact List.prefix_rfl
  · rw [pushed] at part'
    rw [same]
    exact part'

theorem streamBody_of_read {result : Except Broken OpenaiSseEmitter}
    (read : readSseBody fromStr headers reader .new = result) :
    streamBody fromStr headers reader = result.bind (OpenaiSseEmitter.finish fromStr) := by
  unfold streamBody
  rw [read]

/-- A body that was pushed whole is answered. -/
theorem streamBody_answer {body : Bytes}
    (read : readSseBody fromStr headers reader .new = pushBytes fromStr body .new) :
    streamBody fromStr headers reader = answerOf fromStr body := by
  rw [streamBody_of_read read, pushBytes_finish]

theorem cutShort_of_stopped {data body : Bytes} {broken : Broken} (inside : data <+: body)
    (read : readSseBody fromStr headers reader .new = .error broken)
    (stopped : StoppedIn fromStr data .new broken) : CutShort fromStr headers reader body :=
  ⟨broken, streamBody_of_read read, stopped.delivered inside⟩

/-- The answer is the promise, since an answer ends once. -/
theorem answered {body : Bytes}
    (answer : streamBody fromStr headers reader = answerOf fromStr body) :
    streamBody fromStr headers reader = answerOf fromStr body ∧
      forall events, streamBody fromStr headers reader = .ok events ->
        exists front, events = front ++ [doneEvent] ∧
          forall event, event ∈ front -> event.done = false := by
  refine ⟨answer, ?_⟩
  intro events finished
  rw [answer] at finished
  exact answerOf_ends finished

/-! ## A declared length and the end of the connection -/

theorem faithful_contentLength {body : Bytes} (declared : framing headers = .fixed body.length)
    (arrives : bytesOf reader <+: body) :
    Faithful fromStr headers reader (.contentLength body) := by
  refine ⟨?_, ?_⟩
  · intro ended
    have whole : bytesOf reader = body := ended
    apply answered
    apply streamBody_answer
    have read := @readFixedSseBody_whole fromStr .new reader body.length
      (by rw [whole])
    rw [whole, List.take_length] at read
    unfold readSseBody
    rw [declared]
    dsimp only [Transfer.body]
    revert read
    rcases pushed : pushBytes fromStr body .new with broken | next
    · intro read
      rw [read]
      dsimp only
      rw [truncatedAtEof_of_pushBytes pushed]
    · rintro ⟨left, read, _⟩
      rw [read]
  · intro notEnded
    have short : (bytesOf reader).length < body.length := by
      apply Nat.lt_of_le_of_ne arrives.length_le
      exact fun same => notEnded (arrives.eq_of_length same)
    obtain ⟨broken, failed, stopped⟩ := @readFixedSseBody_short fromStr .new reader body.length short
    refine cutShort_of_stopped arrives ?_ stopped.truncatedAtEof
    unfold readSseBody
    rw [declared]
    dsimp only
    rw [failed]

theorem faithful_closeDelimited {body : Bytes} (declared : framing headers = .closeDelimited)
    (arrives : bytesOf reader = body) :
    Faithful fromStr headers reader (.closeDelimited body) := by
  refine ⟨fun _ => answered (streamBody_answer ?_), fun notEnded => absurd trivial notEnded⟩
  unfold readSseBody
  rw [declared]
  dsimp only [Transfer.body]
  rw [readCloseDelimitedSseBody_eq, arrives]

/-! ## Chunks -/

variable {body : ChunkedBody}

/-- A whole body in chunks is answered, unless a size line is not text. -/
theorem chunked_whole (declared : framing headers = .chunked)
    (whole : body.untilLast <+: bytesOf reader)
    (text : forall front rest, ¬ NotTextAt fromStr body front rest) :
    streamBody fromStr headers reader = answerOf fromStr body.data := by
  obtain ⟨behind, arrives⟩ := whole
  apply streamBody_answer
  unfold readSseBody
  rw [declared]
  refine readChunkedSseBody_whole body.zero ?_ arrives.symm
  intro front rest next split texts pushed
  apply Bool.of_not_eq_false
  intro noText
  exact text front rest ⟨split, noText, texts, readableSoFar_iff.mpr ⟨next, pushed⟩⟩

theorem dataOf_append (front rest : List Chunk) :
    dataOf (front ++ rest) = dataOf front ++ dataOf rest := List.flatMap_append

theorem encodeChunks_append (front rest : List Chunk) :
    encodeChunks (front ++ rest) = encodeChunks front ++ encodeChunks rest := List.flatMap_append

/-- A body in chunks that is cut off fails, unless the cut is taken for the end. -/
theorem chunked_short (declared : framing headers = .chunked)
    (starts : bytesOf reader <+: body.encode) (cutOff : ¬ body.untilLast <+: bytesOf reader)
    (noticed : forall front rest seen, ¬ MisreadAt fromStr body (bytesOf reader) front rest seen) :
    CutShort fromStr headers reader body.data := by
  have inside : bytesOf reader <+: body.untilLast :=
    (List.prefix_or_prefix_of_prefix starts (List.prefix_append _ _)).resolve_right cutOff
  have unfinished : bytesOf reader ≠ body.untilLast :=
    fun same => cutOff (same ▸ List.prefix_rfl)
  have isChunked : readSseBody fromStr headers reader .new = readChunkedSseBody fromStr reader .new := by
    unfold readSseBody
    rw [declared]
  rcases @stopsShort fromStr reader .new body.last body.chunks body.zero inside unfinished with
    ⟨broken, failed, stopped⟩ | ⟨front, rest, seen, next, cut, pushed, ends⟩
  · exact cutShort_of_stopped List.prefix_rfl (isChunked.trans failed) stopped
  · have answer := @pushBytes_finish fromStr (dataOf front)
    have streamed := streamBody_of_read (isChunked.trans ends)
    rw [← pushed, answer] at streamed
    rcases result : answerOf fromStr (dataOf front) with broken | events
    · rw [result] at streamed
      refine ⟨broken, streamed, ?_⟩
      have handedOn := @delivers_part fromStr (dataOf front) body.data
        (by rw [ChunkedBody.data, cut.split, dataOf_append]; exact List.prefix_append _ _)
      rw [← answer, pushed] at result
      rw [pushed] at handedOn
      rw [finish_failed result]
      exact handedOn
    · exact absurd ⟨cut, readable_iff.mpr ⟨events, result⟩⟩ (noticed front rest seen)

variable {front rest : List Chunk}

/-- What stands behind some chunks of a body starts with their next line. -/
theorem untilLast_split (split : body.chunks = front ++ rest) :
    exists more, body.untilLast = encodeChunks front ++ ((nextLine rest body.last).bytes ++ more) := by
  rw [ChunkedBody.untilLast, split, encodeChunks_append, List.append_assoc]
  cases rest with
  | nil => exact ⟨[], by rw [List.append_nil]; rfl⟩
  | cons chunk rest =>
      refine ⟨chunk.data ++ lineEnd ++ (encodeChunks rest ++ body.last.bytes), ?_⟩
      rw [encodeChunks_cons, List.append_assoc, List.append_assoc]
      rfl

theorem nextLine_fits (body : ChunkedBody) (rest : List Chunk) :
    (nextLine rest body.last).value ≤ maxU64 := by
  cases rest with
  | nil =>
      show body.last.value ≤ maxU64
      rw [body.zero]
      exact Nat.zero_le _
  | cons chunk rest => exact chunk.fits_value

theorem cutBehindZeros_length {received : Bytes} {seen : Bytes}
    (cut : CutBehindZeros body.chunks body.last received front rest seen) :
    received.length < body.untilLast.length := by
  have shorter : seen.length < (nextLine rest body.last).bytes.length := by
    apply Nat.lt_of_le_of_ne cut.starts.length_le
    exact fun same => cut.unfinished (cut.starts.eq_of_length same)
  obtain ⟨more, whole⟩ := untilLast_split cut.split
  rw [whole, cut.cut]
  simp only [List.length_append]
  omega

/-- A cut behind zeros is taken for the end. -/
theorem misread_unfaithful {seen : Bytes} (declared : framing headers = .chunked)
    (misread : MisreadAt fromStr body (bytesOf reader) front rest seen) :
    ¬ Faithful fromStr headers reader (.chunked body) := by
  intro faithful
  obtain ⟨cut, readable⟩ := misread
  have notEnded : ¬ body.untilLast <+: bytesOf reader := by
    intro ended
    exact absurd ended.length_le (Nat.not_le_of_lt (cutBehindZeros_length cut))
  obtain ⟨broken, failed, _⟩ := faithful.2 notEnded
  obtain ⟨events, answer⟩ := readable_iff.mp readable
  rw [← pushBytes_finish] at answer
  rcases pushed : pushBytes fromStr (dataOf front) .new with error | next
  · rw [pushed] at answer
    exact nomatch answer
  rw [pushed] at answer
  obtain ⟨left, behind, same⟩ := readChunkedSseBody_run cut.textBefore cut.cut pushed
  have ends := (@readChunkedSseBody_cut fromStr left next _ _ (nextLine_fits body rest) behind cut.starts
    cut.unfinished).1 cut.begun cut.text (SizeLine.seenValue_zero_iff.mpr cut.zeros)
  have read : readSseBody fromStr headers reader .new = .ok next := by
    unfold readSseBody
    rw [declared]
    exact same.trans ends
  rw [streamBody_of_read read] at failed
  have impossible : Except.ok events = Except.error broken := answer.symm.trans failed
  exact nomatch impossible

theorem answerOf_failed {body : Bytes} {broken : Broken}
    (failed : answerOf fromStr body = .error broken) :
    exists error, broken.error =
      ⟨ErrorChain.context "failed to parse local provider SSE data" error, false⟩ := by
  rw [← pushBytes_finish] at failed
  rcases pushed : pushBytes fromStr body .new with first | next
  · rw [pushed] at failed
    obtain rfl := Except.error.inj failed
    exact pushBytes_error pushed
  · rw [pushed] at failed
    have ended : next.finish fromStr = .error broken := failed
    unfold OpenaiSseEmitter.finish at ended
    by_cases empty : next.pending.isEmpty = true
    · rw [if_pos empty] at ended
      exact nomatch ended
    rw [if_neg empty] at ended
    rcases emitted : next.emitPendingLine fromStr with second | last
    · rw [emitted] at ended
      obtain rfl := Except.error.inj ended
      exact emitPendingLine_notAtEof emitted
    · rw [emitted] at ended
      exact nomatch ended

/-- A size line that is not text fails a body that is whole. -/
theorem notText_unfaithful (declared : framing headers = .chunked)
    (whole : body.untilLast <+: bytesOf reader) (noText : NotTextAt fromStr body front rest) :
    ¬ Faithful fromStr headers reader (.chunked body) := by
  intro faithful
  obtain ⟨next, pushed⟩ := readableSoFar_iff.mp noText.readable
  obtain ⟨more, isBody⟩ := untilLast_split noText.split
  obtain ⟨behind, arrives⟩ := whole
  rw [isBody, List.append_assoc, List.append_assoc] at arrives
  obtain ⟨left, isLeft, same⟩ := readChunkedSseBody_run noText.textBefore arrives.symm pushed
  have failed := @readChunkedSseBody_notText fromStr left next _ _ (nextLine_fits body rest)
    noText.noText isLeft
  have read : readSseBody fromStr headers reader .new = .error (notText next) := by
    unfold readSseBody
    rw [declared]
    exact same.trans failed
  have answer := (faithful.1 ⟨behind, by rw [isBody, List.append_assoc, List.append_assoc, arrives]⟩).1
  rw [streamBody_of_read read] at answer
  obtain ⟨error, isError⟩ := answerOf_failed answer.symm
  have first : some "failed to read local provider chunk size" =
      some "failed to parse local provider SSE data" :=
    congrArg (fun error => error.chain.messages.head?) isError
  exact absurd first (by decide)

theorem faithful_chunked_iff (declared : framing headers = .chunked)
    (arrives : bytesOf reader <+: body.encode) :
    Faithful fromStr headers reader (.chunked body) ↔
      ¬ Misread fromStr (.chunked body) (bytesOf reader) := by
  constructor
  · rintro faithful (⟨front, rest, seen, misread⟩ | ⟨whole, front, rest, noText⟩)
    · exact misread_unfaithful declared misread faithful
    · exact notText_unfaithful declared whole noText faithful
  · intro noticed
    refine ⟨?_, ?_⟩
    · intro whole
      apply answered
      apply chunked_whole declared whole
      exact fun front rest noText => noticed (Or.inr ⟨whole, front, rest, noText⟩)
    · intro cutOff
      apply chunked_short declared arrives cutOff
      exact fun front rest seen misread => noticed (Or.inl ⟨front, rest, seen, misread⟩)

/-- Each framing gives the answer of the body, and a cut fails, but for what
the chunk loop misreads. -/
theorem streamed_framing (fromStr : String -> Except ErrorChain Json) (headers : String)
    (reader : Reader) (transfer : Transfer) (declared : framing headers = transfer.framing)
    (arrives : transfer.Arrives (bytesOf reader)) :
    Faithful fromStr headers reader transfer ↔ ¬ Misread fromStr transfer (bytesOf reader) := by
  cases transfer with
  | contentLength body => exact ⟨fun _ => id, fun _ => faithful_contentLength declared arrives⟩
  | closeDelimited body => exact ⟨fun _ => id, fun _ => faithful_closeDelimited declared arrives⟩
  | chunked body => exact faithful_chunked_iff declared arrives

end Agreement

/-! ## An end that was not sent -/

def doneLine : Bytes := "data: [DONE]\n".toList.map asciiByte

/-- A declared length, whatever pieces the body comes in. -/
theorem done_line_framed :
    Faithful (fun _ => .error (ErrorChain.ofMessage "expected value"))
      "HTTP/1.1 200 OK\r\nContent-Length: 13\r\n\r\n"
      [.piece 0x64 (doneLine.take 4).tail, .interrupted, .piece 0x3a (doneLine.drop 5)]
      (.contentLength doneLine) :=
  (streamed_framing _ _ _ _ (by decide +kernel) (by
    show _ <+: doneLine
    decide +kernel)).mpr id

/-- A size line that declares thirteen bytes behind a zero. -/
def thirteen : SizeLine :=
  ⟨['0', 'd'], [], [], by simp, List.all_eq_true.mp (by decide), nofun,
    Or.inl rfl, List.not_mem_nil⟩

def noMore : SizeLine :=
  ⟨['0'], [], [], by simp, List.all_eq_true.mp (by decide), nofun,
    Or.inl rfl, List.not_mem_nil⟩

def doneChunk : Chunk := ⟨thirteen, doneLine, by decide, by decide, by decide⟩

def doneBody : ChunkedBody := ⟨[doneChunk], noMore, by decide, lineEnd⟩

/-- The connection ends behind the zero that the size of the first chunk starts
with. -/
theorem cut_behind_zero_answered :
    ¬ forall (fromStr : String -> Except ErrorChain Json) (headers : String) (reader : Reader)
        (transfer : Transfer), framing headers = transfer.framing ->
      transfer.Arrives (bytesOf reader) -> Faithful fromStr headers reader transfer := by
  intro faithful
  have cut : MisreadAt (fun _ => .error (ErrorChain.ofMessage "expected value")) doneBody [0x30]
      [] [doneChunk] [0x30] :=
    ⟨⟨rfl, rfl, by decide, by decide, by decide, fun _ member => List.mem_singleton.mp member,
      by decide +kernel, nofun⟩, rfl⟩
  refine misread_unfaithful ?_ cut (faithful _
    "HTTP/1.1 200 OK\r\nTransfer-Encoding: chunked\r\n\r\n" [.piece 0x30 []]
    (.chunked doneBody) ?_ ?_)
  · decide +kernel
  · decide +kernel
  · show [0x30] <+: doneBody.encode
    decide +kernel

end Provider
end RocmCli
