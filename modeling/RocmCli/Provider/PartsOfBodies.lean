import RocmCli.Provider.Chunks

namespace RocmCli
namespace Provider

open ByteReader
open OpenaiSseEmitter (pushBytes)

/-!
# Each loop pushes a part of the body

However the bytes arrive, a loop pushes the data it finds in order, and where it
fails it has pushed a start of the data.
-/

section Parts

variable {fromStr : String -> Except ErrorChain Json}

/-- A failure after a part of some data: the part cannot be read, or it was
read and something else went wrong. -/
def StoppedIn (fromStr : String -> Except ErrorChain Json) (data : Bytes)
    (emitter : OpenaiSseEmitter) (broken : Broken) : Prop :=
  exists part, part <+: data ∧ (pushBytes fromStr part emitter = .error broken ∨
    exists next, pushBytes fromStr part emitter = .ok next ∧ broken.delivered = next.delivered)

variable {emitter : OpenaiSseEmitter} {broken : Broken}

theorem StoppedIn.at_start (data : Bytes) (same : broken.delivered = emitter.delivered) :
    StoppedIn fromStr data emitter broken :=
  ⟨[], List.nil_prefix, Or.inr ⟨emitter, rfl, same⟩⟩

variable {data : Bytes}

/-- A failure behind data that was read is a failure in the longer data. -/
theorem StoppedIn.behind {front : Bytes} {next : OpenaiSseEmitter}
    (pushed : pushBytes fromStr front emitter = .ok next)
    (stopped : StoppedIn fromStr data next broken) :
    StoppedIn fromStr (front ++ data) emitter broken := by
  obtain ⟨part, starts, ends⟩ := stopped
  refine ⟨front ++ part, (List.prefix_append_right_inj front).mpr starts, ?_⟩
  rw [pushBytes_append, pushed]
  exact ends

theorem StoppedIn.longer {more : Bytes} (starts : data <+: more)
    (stopped : StoppedIn fromStr data emitter broken) :
    StoppedIn fromStr more emitter broken := by
  obtain ⟨part, inside, ends⟩ := stopped
  exact ⟨part, inside.trans starts, ends⟩

/-! ## Parse errors -/

theorem emitPendingLine_failed (failed : emitter.emitPendingLine fromStr = .error broken) :
    exists error, parseOpenaiSseLine fromStr (lineText emitter.pending) = .error error ∧
      broken = ⟨⟨error, false⟩, emitter.delivered⟩ := by
  unfold OpenaiSseEmitter.emitPendingLine OpenaiSseEmitter.emitLine at failed
  by_cases done : emitter.done = true
  · rw [if_pos done] at failed
    exact nomatch failed
  rw [if_neg done] at failed
  rcases parsed : parseOpenaiSseLine fromStr (lineText emitter.pending) with error | _ | event
  · rw [parsed] at failed
    exact ⟨error, rfl, (Except.error.inj failed).symm⟩
  · rw [parsed] at failed
    exact nomatch failed
  · rw [parsed] at failed
    exact nomatch failed

/-- An end that cannot be read hands on nothing more. -/
theorem finish_failed (failed : emitter.finish fromStr = .error broken) :
    broken.delivered = emitter.delivered := by
  unfold OpenaiSseEmitter.finish at failed
  by_cases empty : emitter.pending.isEmpty = true
  · rw [if_pos empty] at failed
    exact nomatch failed
  rw [if_neg empty] at failed
  rcases emitted : emitter.emitPendingLine fromStr with first | next
  · rw [emitted] at failed
    obtain ⟨error, _, isBroken⟩ := emitPendingLine_failed emitted
    rw [← Except.error.inj failed, isBroken]
  · rw [emitted] at failed
    exact nomatch failed

theorem parseOpenaiSseLine_failed {line : String} {error : ErrorChain}
    (failed : parseOpenaiSseLine fromStr line = .error error) :
    exists cause, error = ErrorChain.context "failed to parse local provider SSE data" cause := by
  unfold parseOpenaiSseLine at failed
  cases stripped : Text.stripPrefix "data:" (Text.trim line) with
  | none =>
      rw [stripped] at failed
      exact nomatch failed
  | some data =>
      rw [stripped] at failed
      dsimp only at failed
      by_cases ends : Text.trim data = "[DONE]"
      · rw [if_pos ends] at failed
        exact nomatch failed
      rw [if_neg ends] at failed
      cases read : fromStr (Text.trim data) with
      | error cause =>
          rw [read] at failed
          exact ⟨cause, (Except.error.inj failed).symm⟩
      | ok payload =>
          rw [read] at failed
          exact nomatch failed

theorem emitPendingLine_notAtEof (failed : emitter.emitPendingLine fromStr = .error broken) :
    exists error, broken.error =
      ⟨ErrorChain.context "failed to parse local provider SSE data" error, false⟩ := by
  obtain ⟨error, parsed, isBroken⟩ := emitPendingLine_failed failed
  obtain ⟨cause, isError⟩ := parseOpenaiSseLine_failed parsed
  exact ⟨cause, by rw [isBroken, isError]⟩

/-- A failure of the emitter is a line that cannot be read. -/
theorem pushBytes_error (failed : pushBytes fromStr data emitter = .error broken) :
    exists error, broken.error =
      ⟨ErrorChain.context "failed to parse local provider SSE data" error, false⟩ := by
  induction data generalizing emitter with
  | nil => exact nomatch failed
  | cons byte rest ih =>
      rw [pushBytes] at failed
      by_cases ends : byte = newline
      · rw [if_pos ends] at failed
        rcases emitted : emitter.emitPendingLine fromStr with first | next
        · rw [emitted] at failed
          obtain rfl := Except.error.inj failed
          exact emitPendingLine_notAtEof emitted
        · rw [emitted] at failed
          exact ih failed
      · rw [if_neg ends] at failed
        exact ih failed

theorem truncatedAtEof_of_pushBytes (failed : pushBytes fromStr data emitter = .error broken) :
    broken.truncatedAtEof = broken := by
  obtain ⟨error, isError⟩ := pushBytes_error failed
  unfold Broken.truncatedAtEof bodyTruncatedAtEof
  rw [isError, if_neg Bool.false_ne_true, ← isError]

theorem StoppedIn.truncatedAtEof (stopped : StoppedIn fromStr data emitter broken) :
    StoppedIn fromStr data emitter broken.truncatedAtEof := by
  obtain ⟨part, starts, failed | ⟨next, pushed, same⟩⟩ := stopped
  · rw [truncatedAtEof_of_pushBytes failed]
    exact ⟨part, starts, Or.inl failed⟩
  · exact ⟨part, starts, Or.inr ⟨next, pushed, same⟩⟩

/-! ## A declared length -/

variable {reader : Reader}

/-- A block of what is to come, and what stands behind it. -/
theorem readExact_block {left : Reader} {count : Nat} {bytes : Bytes}
    (filled : readExact count reader = some (bytes, left)) :
    count ≤ (bytesOf reader).length ∧ bytes = (bytesOf reader).take count ∧
      bytesOf left = (bytesOf reader).drop count := by
  by_cases enough : count ≤ (bytesOf reader).length
  · obtain ⟨other, found, behind⟩ := readExact_some enough
    rw [filled, Option.some.injEq, Prod.mk.injEq] at found
    rw [found.1, found.2]
    exact ⟨enough, rfl, behind⟩
  · rw [readExact_none (Nat.lt_of_not_le enough)] at filled
    exact nomatch filled

/-- All declared bytes are there: they are pushed, and nothing behind them. -/
theorem readFixedSseBody_whole {remaining : Nat} (enough : remaining ≤ (bytesOf reader).length) :
    match pushBytes fromStr ((bytesOf reader).take remaining) emitter with
    | .error broken => readFixedSseBody fromStr reader remaining emitter = .error broken
    | .ok next => exists left, readFixedSseBody fromStr reader remaining emitter = .ok (left, next) ∧
        bytesOf left = (bytesOf reader).drop remaining := by
  fun_induction readFixedSseBody fromStr reader remaining emitter with
  | case1 reader emitter => exact ⟨reader, rfl, rfl⟩
  | case2 reader remaining emitter positive readLen unfilled =>
      obtain ⟨left, filled, _⟩ := readExact_some (Nat.le_trans (Nat.min_le_left _ _) enough)
      rw [unfilled] at filled
      cases filled
  | case3 reader remaining emitter positive readLen bytes left filled broken failed =>
      obtain ⟨_, isBlock, _⟩ := readExact_block filled
      have parts : (bytesOf reader).take remaining =
          bytes ++ ((bytesOf reader).drop readLen).take (remaining - readLen) := by
        rw [isBlock, ← List.take_add, Nat.add_sub_cancel' (Nat.min_le_left _ _)]
      rw [parts, pushBytes_append, failed]
      rfl
  | case4 reader remaining emitter positive readLen bytes left filled next pushed
      ih =>
      obtain ⟨_, isBlock, behind⟩ := readExact_block filled
      have parts : (bytesOf reader).take remaining =
          bytes ++ ((bytesOf reader).drop readLen).take (remaining - readLen) := by
        rw [isBlock, ← List.take_add, Nat.add_sub_cancel' (Nat.min_le_left _ _)]
      have later := ih (by
        rw [behind, List.length_drop]
        exact Nat.sub_le_sub_right enough _)
      rw [behind, List.drop_drop, Nat.add_sub_cancel' (Nat.min_le_left _ _)] at later
      rw [parts, pushBytes_append, pushed]
      exact later

theorem readFixedSseBody_short {remaining : Nat} (short : (bytesOf reader).length < remaining) :
    exists broken, readFixedSseBody fromStr reader remaining emitter = .error broken ∧
      StoppedIn fromStr (bytesOf reader) emitter broken := by
  fun_induction readFixedSseBody fromStr reader remaining emitter with
  | case1 reader emitter => exact absurd short (Nat.not_lt_zero _)
  | case2 reader remaining emitter positive readLen unfilled =>
      exact ⟨_, rfl, StoppedIn.at_start _ rfl⟩
  | case3 reader remaining emitter positive readLen bytes left filled broken failed =>
      obtain ⟨_, isBlock, _⟩ := readExact_block filled
      refine ⟨broken, rfl, bytes, ?_, Or.inl failed⟩
      rw [isBlock]
      exact List.take_prefix _ _
  | case4 reader remaining emitter positive readLen bytes left filled next pushed
      ih =>
      obtain ⟨inside, isBlock, behind⟩ := readExact_block filled
      obtain ⟨broken, failed, stopped⟩ := ih (by
        rw [behind, List.length_drop]
        exact Nat.sub_lt_sub_right inside short)
      refine ⟨broken, failed, ?_⟩
      rw [bytesOf_readExact filled]
      exact StoppedIn.behind pushed stopped

/-! ## The end of the connection -/

/-- All bytes are pushed, in whatever pieces they come. -/
theorem readCloseDelimitedSseBody_eq (reader : Reader) (emitter : OpenaiSseEmitter) :
    readCloseDelimitedSseBody fromStr reader emitter =
      pushBytes fromStr (bytesOf reader) emitter := by
  fun_induction readCloseDelimitedSseBody fromStr reader emitter with
  | case1 reader emitter ended =>
      rw [bytesOf_read_ended ended]
      rfl
  | case2 reader emitter left interrupted ih =>
      rw [ih, bytesOf_read_interrupted interrupted]
  | case3 reader emitter bytes left taken broken pushed =>
      rw [bytesOf_read taken, pushBytes_append, pushed]
      rfl
  | case4 reader emitter bytes left taken next pushed ih =>
      rw [ih, bytesOf_read taken, pushBytes_append, pushed]
      rfl

end Parts

end Provider
end RocmCli
