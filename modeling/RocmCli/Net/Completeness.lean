import RocmCli.Net.ResponseHead

namespace RocmCli
namespace Net

open Provider (Bytes ChunkedBody Chunk SizeLine lineEnd)
open Text (parseU64 fromUtf8Lossy)

/-!
# When a response counts as complete

A declared length is counted exactly.  A body in chunks counts as complete when
what has come ends as a body in chunks usually does, so one that ends otherwise
never does, and one that has the same bytes further in does too early.
-/

/-! ## Parts of a response -/

/-- What a head and the bytes behind it come to. -/
theorem httpResponseIsComplete_head (head : Head) (back : Bytes) :
    httpResponseIsComplete (head.bytes ++ (blankLine ++ back)) =
      match ((head.field? "Content-Length").map HeaderField.valueText).bind parseU64 with
      | some length => length ≤ back.length
      | none =>
          if ((head.field? "Transfer-Encoding").map HeaderField.valueText).any saysChunked then
            decide (lastChunk <:+ back)
          else false := by
  have dropped : (head.bytes ++ (blankLine ++ back)).drop (head.bytes.length + 4) = back := by
    rw [← List.append_assoc]
    exact List.drop_left' (by rw [List.length_append]; rfl)
  unfold httpResponseIsComplete
  rw [headerEnd_head]
  dsimp only
  have lengths := @headerValue_head 'C' head "Content-Length" rfl (by decide)
  have codings := @headerValue_head 'T' head "Transfer-Encoding" rfl (by decide)
  rw [List.take_left, dropped, lengths]
  exact codings ▸ rfl

namespace Response

variable (response : Response)

/-- A part of a response that does not hold the whole head is not complete. -/
theorem front_cases {front : Bytes} (starts : front <+: response.bytes) :
    httpResponseIsComplete front = false ∨ exists back, back <+: response.body.bytes ∧
      front = response.head.bytes ++ (blankLine ++ back) := by
  cases found : headerEnd front with
  | none =>
    left
    unfold httpResponseIsComplete
    rw [found]
  | some place =>
    right
    rcases starts with ⟨rest, whole⟩
    have later := headerEnd_append found rest
    rw [whole] at later
    have isHead : place = response.head.bytes.length :=
      Option.some.inj (later.symm.trans (headerEnd_head response.head response.body.bytes))
    have long := headerEnd_some found
    have starts' : response.head.bytes ++ blankLine <+: front := by
      have inside : response.head.bytes ++ blankLine <+: response.bytes :=
        ⟨response.body.bytes, List.append_assoc ..⟩
      refine List.prefix_of_prefix_length_le inside ⟨rest, whole⟩ ?_
      rw [List.length_append, ← isHead]
      exact long
    rcases starts' with ⟨back, rfl⟩
    refine ⟨back, ⟨rest, ?_⟩, List.append_assoc ..⟩
    have same : response.head.bytes ++ (blankLine ++ (back ++ rest)) =
        response.head.bytes ++ (blankLine ++ response.body.bytes) := by
      refine Eq.trans ?_ whole
      simp only [List.append_assoc]
    exact List.append_cancel_left (List.append_cancel_left same)

end Response

/-- The bytes that end a body in chunks stand at its end and nowhere before. -/
def EndsOnce (body : Bytes) : Prop :=
  lastChunk <:+ body ∧ forall front, front <+: body -> lastChunk <:+ front -> front = body

/-- A body that is counted, or one in chunks whose first `Transfer-Encoding` says
so and which ends as expected. -/
def Response.Plain (response : Response) : Prop :=
  match response.body with
  | .fixed .. => True
  | .chunked body .. =>
      (response.head.field? "Transfer-Encoding").any (fun field => saysChunked field.valueText) = true ∧
        EndsOnce body.encode

/-- A part of a response counts as complete exactly if it is all of it. -/
def Response.CompleteAtEnd (response : Response) : Prop :=
  forall front, front <+: response.bytes ->
    (httpResponseIsComplete front = true ↔ front = response.bytes)

theorem Response.completeAtEnd_iff (response : Response) :
    response.CompleteAtEnd ↔ forall back, back <+: response.body.bytes ->
      (httpResponseIsComplete (response.head.bytes ++ (blankLine ++ back)) = true ↔
        back = response.body.bytes) := by
  have same (back : Bytes) : response.head.bytes ++ (blankLine ++ back) = response.bytes ↔
      back = response.body.bytes := by
    unfold Response.bytes
    rw [List.append_cancel_left_eq, List.append_cancel_left_eq]
  constructor
  · intro atEnd back starts
    have front : response.head.bytes ++ (blankLine ++ back) <+: response.bytes :=
      List.prefix_append_right_inj _ |>.mpr (List.prefix_append_right_inj _ |>.mpr starts)
    exact (atEnd _ front).trans (same back)
  · intro byBody front starts
    rcases response.front_cases starts with never | ⟨back, starts', rfl⟩
    · constructor
      · intro complete
        rw [never] at complete
        cases complete
      · intro whole
        have atEnd := (byBody response.body.bytes List.prefix_rfl).mpr rfl
        rw [whole] at never ⊢
        exact atEnd
    · exact (byBody back starts').trans (same back).symm

theorem completeAtEnd_fixed {head : Head} {data : Bytes} (fits : data.length ≤ Text.maxU64)
    (declared : exists field, head.field? "Content-Length" = some field ∧
      exists number : Decimal, field.value = number.bytes ∧ number.value = data.length)
    (notChunked : head.field? "Transfer-Encoding" = none) :
    (Response.mk head (.fixed data fits declared notChunked)).CompleteAtEnd := by
  have parsed : ((head.field? "Content-Length").map HeaderField.valueText).bind parseU64 =
      some data.length := by
    rcases declared with ⟨field, isField, number, value, counts⟩
    rw [isField, Option.map_some, Option.bind_some, parse_decimal value (counts ▸ fits), counts]
  rw [Response.completeAtEnd_iff]
  intro back starts
  rw [httpResponseIsComplete_head, parsed]
  dsimp only
  rw [decide_eq_true_eq]
  exact ⟨starts.eq_of_length_le, fun whole => whole ▸ Nat.le_refl _⟩

theorem completeAtEnd_chunked {head : Head} {body : ChunkedBody} {trailers : List HeaderField}
    (ends : body.trailer = (trailers.flatMap fun field => field.bytes ++ lineEnd) ++ lineEnd)
    (declared : exists field, (head.fields.filter
        (HeaderField.isNamed "Transfer-Encoding")).getLast? = some field ∧
      "chunked".toList <:+ field.valueText.toList.map Char.toLower)
    (notFixed : head.field? "Content-Length" = none) :
    (Response.mk head (.chunked body trailers ends declared notFixed)).CompleteAtEnd ↔
      (head.field? "Transfer-Encoding").any (fun field => saysChunked field.valueText) = true ∧
        EndsOnce body.encode := by
  have sameField : ((head.field? "Transfer-Encoding").map HeaderField.valueText).any saysChunked =
      (head.field? "Transfer-Encoding").any fun field => saysChunked field.valueText := by
    cases head.field? "Transfer-Encoding" <;> rfl
  have complete (back : Bytes) :
      httpResponseIsComplete (head.bytes ++ (blankLine ++ back)) = true ↔
        (head.field? "Transfer-Encoding").any (fun field => saysChunked field.valueText) = true ∧
          lastChunk <:+ back := by
    rw [httpResponseIsComplete_head, notFixed, sameField]
    cases (head.field? "Transfer-Encoding").any fun field => saysChunked field.valueText <;> simp
  rw [Response.completeAtEnd_iff]
  constructor
  · intro byBody
    have atEnd := (complete body.encode).mp ((byBody body.encode List.prefix_rfl).mpr rfl)
    exact ⟨atEnd.1, atEnd.2, fun front starts ended =>
      (byBody front starts).mp ((complete front).mpr ⟨atEnd.1, ended⟩)⟩
  · rintro ⟨isChunked, atEnd, once⟩ back starts
    rw [complete]
    constructor
    · exact fun both => once back starts both.2
    · rintro rfl
      exact ⟨isChunked, atEnd⟩

theorem Response.completeAtEnd_iff_plain (response : Response) :
    response.CompleteAtEnd ↔ response.Plain := by
  rcases response with ⟨head, body⟩
  cases body with
  | fixed data fits declared notChunked =>
    exact iff_of_true (completeAtEnd_fixed fits declared notChunked) trivial
  | chunked body trailers ends declared notFixed =>
    exact completeAtEnd_chunked ends declared notFixed

/-! ## Reading -/

/-- The bytes that come in turns of the loop, which may be interrupted. -/
inductive Arrives : List Turn -> Bytes -> Prop where
  | done : Arrives [] []
  | interrupted {turns : List Turn} {bytes : Bytes} (later : Arrives turns bytes) :
      Arrives (.interrupted :: turns) bytes
  | read {turns : List Turn} {bytes : Bytes} (first : Bytes) (nonempty : first ≠ [])
      (later : Arrives turns bytes) : Arrives (.read first :: turns) (first ++ bytes)

/-- However a response arrives, and whatever the peer does after it, reading it
gives its text. -/
def Response.ReadWhole (response : Response) : Prop :=
  forall arriving after, Arrives arriving response.bytes ->
    readHttpResponseBounded (arriving ++ after) = .ok (fromUtf8Lossy response.bytes)

theorem readOn_complete {response : Bytes} (complete : httpResponseIsComplete response = true)
    (turns : List Turn) : readOn response turns = .ok (fromUtf8Lossy response) := by
  cases turns with
  | nil => rw [readOn, if_pos complete]
  | cons turn later => rw [readOn.eq_def, if_pos complete]

theorem readOn_arriving {response : Response} (atEnd : response.CompleteAtEnd)
    {arriving : List Turn} {bytes : Bytes} (arrives : Arrives arriving bytes) (after : List Turn) :
    forall come, come ++ bytes = response.bytes ->
      readOn come (arriving ++ after) = .ok (fromUtf8Lossy response.bytes) := by
  induction arrives with
  | done =>
    intro come whole
    rw [List.append_nil] at whole
    have complete := (atEnd come (whole ▸ List.prefix_rfl)).mpr whole
    rw [readOn_complete complete, whole]
  | interrupted _ ih =>
    intro come whole
    by_cases complete : httpResponseIsComplete come = true
    · rw [readOn_complete complete, (atEnd come ⟨_, whole⟩).mp complete]
    · rw [List.cons_append, readOn, if_neg complete]
      exact ih come whole
  | read first nonempty _ ih =>
    intro come whole
    by_cases complete : httpResponseIsComplete come = true
    · rw [readOn_complete complete, (atEnd come ⟨_, whole⟩).mp complete]
    · rw [List.cons_append, readOn, if_neg complete, if_neg nonempty]
      exact ih (come ++ first) ((List.append_assoc ..).trans whole)

/-- A response is complete at its end alone, and read as a whole however it
arrives, exactly if it is plain. -/
theorem read_whole_iff_plain (response : Response) :
    (response.CompleteAtEnd ∧ response.ReadWhole) ↔ response.Plain := by
  rw [← response.completeAtEnd_iff_plain]
  constructor
  · exact And.left
  · exact fun atEnd => ⟨atEnd, fun arriving after arrives =>
      readOn_arriving atEnd arrives after [] rfl⟩

/-! ## A chunk that holds the end of a body -/

def chunkedHead : Head :=
  ⟨Text.asciiBytes "200 OK", [⟨Text.asciiBytes "Transfer-Encoding", Text.asciiBytes " chunked",
    by decide, by decide, by decide⟩], by decide⟩

theorem unmarked : ([] : Bytes) = [] ∨ ([] : Bytes).head? = some Provider.semicolon := Or.inl rfl

theorem hexValue_zero : forall digit, digit ∈ ['0'] -> (Provider.hexValue digit).isSome = true :=
  List.forall_mem_singleton.mpr (by decide)

/-- The data of the chunk are the bytes that end a body. -/
def endInData : Chunk :=
  ⟨⟨['5'], [], [], by decide, List.forall_mem_singleton.mpr (by decide), List.forall_mem_nil _,
    unmarked, by decide⟩, lastChunk, by decide, by decide, by decide⟩

def noMore : SizeLine :=
  ⟨['0'], [], [], by decide, hexValue_zero, List.forall_mem_nil _, unmarked, by decide⟩

def endedEarly : Response :=
  ⟨chunkedHead, .chunked ⟨[endInData], noMore, by decide +kernel, lineEnd⟩ [] (by decide +kernel)
    ⟨_, rfl, by decide +kernel⟩ (by decide +kernel)⟩

/-- It counts as complete, and is returned, at the end of the data. -/
theorem complete_in_data : ¬ (endedEarly.CompleteAtEnd ∧ endedEarly.ReadWhole) := by
  rintro ⟨atEnd, _⟩
  have early := (atEnd (endedEarly.bytes.take (endedEarly.bytes.length - 7)) (List.take_prefix _ _)).mp
    (by decide +kernel)
  exact absurd (congrArg List.length early) (by decide +kernel)

end Net
end RocmCli
