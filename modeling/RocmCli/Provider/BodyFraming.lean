import RocmCli.Provider.SseLines
import RocmCli.Support.ByteReader

namespace RocmCli
namespace Provider

open ByteReader
open Text (trim parseU64 maxU64 eqIgnoreAsciiCase fromUtf8Lossy isUtf8)

/-!
# Reading a streamed body in its framing

A body has a declared length, comes in chunks, or ends with the connection.
Each framing has a loop of its own, and all of them feed one emitter.
-/

/-! ## Headers -/

/-- The lines of a text, without their ends. -/
def textLines (text : String) : List String :=
  let parts := text.toList.splitOn '\n'
  let finished := parts.dropLast.map fun line =>
    if line.getLast? = some '\r' then line.dropLast else line
  (finished ++ parts.getLast?.toList.filter fun line => !line.isEmpty).map String.ofList

def headerValue (headers name : String) : Option String :=
  (textLines headers).findSome? fun line =>
    match line.toList.dropWhile (· != ':') with
    | [] => none
    | _ :: value =>
        if eqIgnoreAsciiCase (String.ofList (line.toList.takeWhile (· != ':'))) name then
          some (trim (String.ofList value))
        else none

inductive Framing where
  | chunked
  | fixed (length : Nat)
  | closeDelimited
  deriving DecidableEq, Repr

/-- The framing that the headers declare. -/
def framing (headers : String) : Framing :=
  let isChunked := (headerValue headers "Transfer-Encoding").any fun value =>
    decide ("chunked".toList <:+: value.toList.map Char.toLower)
  let contentLength := (headerValue headers "Content-Length").bind fun value => parseU64 (trim value)
  if isChunked then .chunked
  else
    match contentLength with
    | some length => .fixed length
    | none => .closeDelimited

/-! ## Errors -/

def localStreamTruncated : String :=
  "local provider closed the connection before the streamed response finished; " ++
    "the response is incomplete"

/-- An end of the stream inside a body counts as the engine going away. -/
def bodyTruncatedAtEof (error : BodyError) : BodyError :=
  if error.atEof then { error with chain := error.chain.context localStreamTruncated } else error

def Broken.truncatedAtEof (broken : Broken) : Broken :=
  { broken with error := bodyTruncatedAtEof broken.error }

/-- The end of the stream inside a buffer that had to be filled. -/
def endedEarly (message : String) : BodyError :=
  ⟨(ErrorChain.ofMessage "failed to fill whole buffer").context message, true⟩

/-! ## The size of a chunk -/

def hexValue (digit : Char) : Option Nat :=
  if digit.isDigit then some (digit.toNat - '0'.toNat)
  else if 'a' ≤ digit && digit ≤ 'f' then some (digit.toNat - 'a'.toNat + 10)
  else if 'A' ≤ digit && digit ≤ 'F' then some (digit.toNat - 'A'.toNat + 10)
  else none

def hexNumber (digits : List Char) : Nat :=
  digits.foldl (fun number digit => number * 16 + (hexValue digit).getD 0) 0

/-- Read a machine word in hexadecimal, after an optional plus. -/
def fromStrRadix16 (text : String) : Except String Nat :=
  let digits := match text.toList with
    | '+' :: rest => rest
    | characters => characters
  if text.toList.isEmpty then .error "cannot parse integer from empty string"
  else if digits.isEmpty || !digits.all fun digit => (hexValue digit).isSome then
    .error "invalid digit found in string"
  else if hexNumber digits ≤ maxU64 then .ok (hexNumber digits)
  else .error "number too large to fit in target type"

/-- What stands in front of the extensions of a size line. -/
def sizeText (sizeLine : String) : String :=
  trim (String.ofList ((trim sizeLine).toList.takeWhile (· != ';')))

/-! ## The three loops -/

def bufferLength : Nat := 1024

section Loops

variable (fromStr : String -> Except ErrorChain Json)

open OpenaiSseEmitter (pushBytes)

def readFixedSseBody (reader : Reader) (remaining : Nat) (emitter : OpenaiSseEmitter) :
    Except Broken (Reader × OpenaiSseEmitter) :=
  if remaining = 0 then .ok (reader, emitter)
  else
    let readLen := min remaining bufferLength
    match readExact readLen reader with
    | none => emitter.fail (endedEarly "failed to read local provider SSE body")
    | some (bytes, reader) =>
        match pushBytes fromStr bytes emitter with
        | .error broken => .error broken
        | .ok emitter => readFixedSseBody reader (remaining - readLen) emitter
termination_by remaining
decreasing_by
  have positive : 0 < bufferLength := by decide
  omega

/-- Each round takes at least one byte or one interruption. -/
def readCloseDelimitedSseBody (reader : Reader) (emitter : OpenaiSseEmitter) :
    Except Broken OpenaiSseEmitter :=
  match _taken : read bufferLength reader with
  | .ended => .ok emitter
  | .interrupted left => readCloseDelimitedSseBody left emitter
  | .bytes bytes left =>
      match pushBytes fromStr bytes emitter with
      | .error broken => .error broken
      | .ok emitter => readCloseDelimitedSseBody left emitter
termination_by work reader
decreasing_by
  · exact work_interrupted_lt _taken
  · exact work_read_lt (by decide) _taken

/-- The size that the next line declares, or no size on a blank line. -/
def readSizeLine (reader : Reader) : Except BodyError (Option Nat × Reader) :=
  let sizeBytes := (readUntil newline reader).1
  let behind := (readUntil newline reader).2
  if sizeBytes.isEmpty then .error ⟨ErrorChain.ofMessage localStreamTruncated, false⟩
  else if !isUtf8 sizeBytes then
    .error ⟨(ErrorChain.ofMessage "stream did not contain valid UTF-8").context
      "failed to read local provider chunk size", false⟩
  else if trim (fromUtf8Lossy sizeBytes) = "" then .ok (none, behind)
  else
    let size := sizeText (fromUtf8Lossy sizeBytes)
    match fromStrRadix16 size with
    | .error message =>
        .error ⟨(ErrorChain.ofMessage message).context
          s!"invalid local provider chunk size `{size}`", false⟩
    | .ok number => .ok (some number, behind)

/-- The data of a chunk and the line end behind it. -/
def readChunkData (size : Nat) (reader : Reader) (emitter : OpenaiSseEmitter) :
    Except Broken (Reader × OpenaiSseEmitter) :=
  match readFixedSseBody fromStr reader size emitter with
  | .error broken => .error broken.truncatedAtEof
  | .ok (behindData, emitter) =>
      match readExact 2 behindData with
      | none =>
          emitter.fail (bodyTruncatedAtEof
            (endedEarly "failed to read local provider chunk terminator"))
      | some (crlf, behind) =>
          if crlf = [0x0d, 0x0a] then .ok (behind, emitter)
          else
            emitter.fail ⟨ErrorChain.ofMessage "invalid local provider chunk terminator", false⟩

/-- A round of the chunk loop: it goes on, unless the chunk was the last.  What
is left of the stream then is not looked at. -/
def readChunk (reader : Reader) (emitter : OpenaiSseEmitter) :
    Except Broken (Option Reader × OpenaiSseEmitter) :=
  match readSizeLine reader with
  | .error error => emitter.fail error
  | .ok (none, behind) => .ok (some behind, emitter)
  | .ok (some size, behind) =>
      if size = 0 then .ok (none, emitter)
      else
        match readChunkData fromStr size behind emitter with
        | .error broken => .error broken
        | .ok (left, emitter) => .ok (some left, emitter)

/-! ## Every loop makes progress -/

variable {fromStr}

variable {reader left : Reader} {emitter next : OpenaiSseEmitter}

theorem readFixedSseBody_left {remaining : Nat}
    (finished : readFixedSseBody fromStr reader remaining emitter = .ok (left, next)) :
    (bytesOf left).length ≤ (bytesOf reader).length := by
  fun_induction readFixedSseBody fromStr reader remaining emitter with
  | case1 reader emitter =>
      cases finished
      exact Nat.le_refl _
  | case2 => exact nomatch finished
  | case3 => exact nomatch finished
  | case4 reader remaining emitter positive readLen bytes behind filled pushed next ih =>
      have taken := congrArg List.length (bytesOf_readExact filled)
      rw [List.length_append] at taken
      have later := ih finished
      omega

theorem readSizeLine_left {behind : Reader} {size : Option Nat}
    (read : readSizeLine reader = .ok (size, behind)) :
    (bytesOf behind).length < (bytesOf reader).length := by
  have taken := congrArg List.length (bytesOf_readUntil newline reader)
  rw [List.length_append] at taken
  unfold readSizeLine at read
  dsimp only at read
  by_cases empty : (readUntil newline reader).1.isEmpty = true
  · rw [if_pos empty] at read
    exact nomatch read
  have positive : 0 < (readUntil newline reader).1.length := by
    rw [List.length_pos_iff]
    exact fun none' => empty (by rw [none']; rfl)
  have isBehind : (readUntil newline reader).2 = behind := by
    rw [if_neg empty] at read
    by_cases invalid : (!isUtf8 (readUntil newline reader).1) = true
    · rw [if_pos invalid] at read
      exact nomatch read
    rw [if_neg invalid] at read
    by_cases blank : trim (fromUtf8Lossy (readUntil newline reader).1) = ""
    · rw [if_pos blank] at read
      exact (Prod.mk.inj (Except.ok.inj read)).2
    rw [if_neg blank] at read
    rcases number : fromStrRadix16 (sizeText (fromUtf8Lossy (readUntil newline reader).1)) with
      message | number
    · rw [number] at read
      exact nomatch read
    · rw [number] at read
      exact (Prod.mk.inj (Except.ok.inj read)).2
  rw [← isBehind]
  omega

theorem readChunkData_left {size : Nat}
    (read : readChunkData fromStr size reader emitter = .ok (left, next)) :
    (bytesOf left).length ≤ (bytesOf reader).length := by
  unfold readChunkData at read
  rcases data : readFixedSseBody fromStr reader size emitter with broken | ⟨behindData, pushed⟩
  · rw [data] at read
    exact nomatch read
  rw [data] at read
  dsimp only at read
  have first := readFixedSseBody_left data
  rcases terminator : readExact 2 behindData with _ | ⟨crlf, behind⟩
  · rw [terminator] at read
    exact nomatch read
  rw [terminator] at read
  dsimp only at read
  have second := congrArg List.length (bytesOf_readExact terminator)
  rw [List.length_append] at second
  by_cases ends : crlf = [0x0d, 0x0a]
  · rw [if_pos ends] at read
    cases read
    omega
  · rw [if_neg ends] at read
    exact nomatch read

theorem readChunk_left (round : readChunk fromStr reader emitter = .ok (some left, next)) :
    (bytesOf left).length < (bytesOf reader).length := by
  unfold readChunk at round
  rcases line : readSizeLine reader with error | ⟨_ | size, behind⟩
  · rw [line] at round
    exact nomatch round
  · rw [line] at round
    cases round
    exact readSizeLine_left line
  · rw [line] at round
    dsimp only at round
    have shorter := readSizeLine_left line
    by_cases last : size = 0
    · rw [if_pos last] at round
      exact nomatch round
    rw [if_neg last] at round
    rcases data : readChunkData fromStr size behind emitter with broken | ⟨behindData, pushed⟩
    · rw [data] at round
      exact nomatch round
    · rw [data] at round
      cases round
      exact Nat.lt_of_le_of_lt (readChunkData_left data) shorter

variable (fromStr)

def readChunkedSseBody (reader : Reader) (emitter : OpenaiSseEmitter) :
    Except Broken OpenaiSseEmitter :=
  match _round : readChunk fromStr reader emitter with
  | .error broken => .error broken
  | .ok (none, emitter) => .ok emitter
  | .ok (some left, emitter) => readChunkedSseBody left emitter
termination_by (bytesOf reader).length
decreasing_by exact readChunk_left _round

def readSseBody (headers : String) (reader : Reader) (emitter : OpenaiSseEmitter) :
    Except Broken OpenaiSseEmitter :=
  match framing headers with
  | .chunked => readChunkedSseBody fromStr reader emitter
  | .fixed length =>
      match readFixedSseBody fromStr reader length emitter with
      | .error broken => .error broken.truncatedAtEof
      | .ok (_, emitter) => .ok emitter
  | .closeDelimited => readCloseDelimitedSseBody fromStr reader emitter

/-- The events of a streamed answer. -/
def streamBody (headers : String) (reader : Reader) : Except Broken (List ProviderStreamEvent) :=
  (readSseBody fromStr headers reader .new).bind (OpenaiSseEmitter.finish fromStr)

end Loops

end Provider
end RocmCli
