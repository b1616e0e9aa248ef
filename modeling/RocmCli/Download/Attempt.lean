import RocmCli.Support.Text
import RocmCli.JsonlStore.Lines

namespace RocmCli
namespace Download

open JsonlStore
open Text

/-!
# One attempt at a transfer

An attempt looks at what earlier attempts left in the `.part` file, asks the
server for the rest, and decides from status, `Range` and `Content-Range`
whether to append, to start over or to discard.  The server's reply and the
failures of the local file system are inputs.  The digest is a function on
bytes.

Besides its outcome an attempt returns what it left in the `.part` file, every
length that file had meanwhile, and the progress it reported.
-/

def spaceMarginMinBytes : Nat := 32 * 1024 * 1024

def spaceMarginDivisor : Nat := 20

def saturatingAdd (left right : Nat) : Nat := min (left + right) maxU64

/-- Requirement including a safety margin proportional to the payload. -/
def withMargin (bytes : Nat) : Nat :=
  saturatingAdd bytes (max (bytes / spaceMarginDivisor) spaceMarginMinBytes)

structure DownloadRequest where
  url : String
  partialPath : String
  destinationPath : String
  maxBytes : Option Nat
  expectedLen : Option Nat
  expectedSha256 : Option String
  deriving DecidableEq, Repr

structure DownloadOutcome where
  bytesWritten : Nat
  sha256 : String
  deriving DecidableEq, Repr

/-- How a body ends: the connection is closed, or a read fails. -/
inductive BodyEnd where
  | closed
  | failed (error : String)
  deriving DecidableEq, Repr

/-- A response with its headers and the chunks its body is read in. -/
structure Response where
  status : Nat
  contentLength : Option String
  contentRange : Option String
  chunks : List Bytes
  bodyEnd : BodyEnd
  deriving DecidableEq, Repr

/-- What one request came to. -/
inductive Reply where
  | transport (error : String)
  | errorStatus (status : Nat)
  | response (response : Response)
  deriving DecidableEq, Repr

/-- The local file system's answers to one attempt.  `write` is asked for each
chunk, and says how much of it landed when it fails. -/
structure LocalIo where
  space : (required : Nat) -> Option ErrorChain
  openPartial : Option String
  write : (chunk : Nat) -> Option (Nat × ErrorChain)
  sync : Option ErrorChain

def LocalIo.allDone : LocalIo where
  space := fun _ => none
  openPartial := none
  write := fun _ => none
  sync := none

structure DownloadAttemptError where
  error : ErrorChain
  retryable : Bool
  deriving DecidableEq, Repr

def transient (error : ErrorChain) : DownloadAttemptError := ⟨error, true⟩

def permanent (error : ErrorChain) : DownloadAttemptError := ⟨error, false⟩

def statusIsRetryable (status : Nat) : Bool :=
  status == 408 || status == 429 || decide (500 ≤ status)

def headerU64 (value : Option String) : Option Nat :=
  value.bind (fun value => parseU64 (trim value))

/-- First byte offset from a `Content-Range: bytes <start>-<end>/<total>` header. -/
def contentRangeStart (response : Response) : Option Nat :=
  response.contentRange.bind (fun value =>
    let trimmed := (trim value).toList
    if "bytes".toList.isPrefixOf trimmed then
      let range := trimStart (String.ofList (trimmed.drop "bytes".toList.length))
      parseU64 (trim (String.ofList (range.toList.takeWhile (fun character => character != '-'))))
    else none)

/-- What an attempt did, whether it succeeded or not. -/
structure AttemptResult where
  outcome : Except DownloadAttemptError DownloadOutcome
  part : Option Bytes
  reports : List (Nat × Option Nat)
  partSizes : List Nat

/-- The transfer so far: the bytes counted, on disk and hashed. -/
structure Transfer where
  written : Nat
  part : Bytes
  hashed : Bytes
  reports : List (Nat × Option Nat)
  partSizes : List Nat

/-- The read loop.  An empty read is the end of the body. -/
def copyBody (request : DownloadRequest) (reportedTotal : Option Nat) (io : LocalIo)
    (bodyEnd : BodyEnd) : List Bytes -> (chunk : Nat) -> Transfer ->
      Except DownloadAttemptError Unit × Transfer
  | [], _, transfer =>
      match bodyEnd with
      | .closed => (.ok (), transfer)
      | .failed error =>
          let reason := match reportedTotal with
            | none => s!"failed while downloading {request.url}"
            | some expected => s!"incomplete download of {request.url}: " ++
                s!"expected {expected} bytes, got {transfer.written}"
          (.error (transient ((ErrorChain.ofMessage error).context reason)), transfer)
  | bytes :: rest, chunk, transfer =>
      if bytes.isEmpty then (.ok (), transfer)
      else
        let written := saturatingAdd transfer.written bytes.length
        let transfer := { transfer with written := written }
        if request.maxBytes.any (fun maxBytes => maxBytes < written) then
          (.error (permanent (ErrorChain.ofMessage (s!"{request.url} exceeded the approved " ++
            s!"limit of {request.maxBytes.getD 0} bytes"))), transfer)
        else
          let transfer := { transfer with hashed := transfer.hashed ++ bytes }
          match io.write chunk with
          | some (landed, error) =>
              let part := transfer.part ++ bytes.take landed
              (.error (permanent error),
                { transfer with part := part, partSizes := transfer.partSizes ++ [part.length] })
          | none =>
              let part := transfer.part ++ bytes
              copyBody request reportedTotal io bodyEnd rest (chunk + 1)
                { transfer with
                  part := part
                  reports := transfer.reports ++ [(written, reportedTotal)]
                  partSizes := transfer.partSizes ++ [part.length] }

/-- The checks on a transfer whose body ended. -/
def checkTransfer (digest : Bytes -> String) (request : DownloadRequest)
    (totalLen : Option Nat) (transfer : Transfer) :
    Except DownloadAttemptError DownloadOutcome × Option Bytes :=
  if totalLen.any (fun expected => transfer.written != expected) then
    (.error (transient (ErrorChain.ofMessage (s!"incomplete download of {request.url}: " ++
      s!"expected {totalLen.getD 0} bytes, got {transfer.written}"))), some transfer.part)
  else if request.expectedLen.any (fun expected => transfer.written != expected) then
    (.error (permanent (ErrorChain.ofMessage (s!"{request.url} is {transfer.written} bytes, " ++
      s!"but {request.expectedLen.getD 0} were expected"))), some transfer.part)
  else
    let sha256 := digest transfer.hashed
    if request.expectedSha256.any (fun expected => !eqIgnoreAsciiCase sha256 expected) then
      -- The bytes are wrong, not merely incomplete, so they are not kept.
      (.error (permanent (ErrorChain.ofMessage (s!"SHA-256 mismatch for {request.url}: " ++
        "expected " ++ request.expectedSha256.getD "" ++ s!", got {sha256}"))), none)
    else (.ok ⟨transfer.written, sha256⟩, some transfer.part)

/-- Read the body into the `.part` file, whose bytes are `existing` when the
transfer continues them. -/
def receiveBody (digest : Bytes -> String) (request : DownloadRequest)
    (totalLen reportedTotal : Option Nat) (io : LocalIo) (response : Response)
    (existing : Bytes) : AttemptResult :=
  let start : Transfer :=
    ⟨existing.length, existing, existing, [(existing.length, reportedTotal)], [existing.length]⟩
  match copyBody request reportedTotal io response.bodyEnd response.chunks 0 start with
  | (.error error, transfer) =>
      ⟨.error error, some transfer.part, transfer.reports, transfer.partSizes⟩
  | (.ok (), transfer) =>
    match io.sync with
    | some error =>
        ⟨.error (permanent error), some transfer.part, transfer.reports, transfer.partSizes⟩
    | none =>
        let checked := checkTransfer digest request totalLen transfer
        ⟨checked.1, checked.2, transfer.reports, transfer.partSizes⟩

/-- What an attempt does with a `200` or `206`, given what it found in the
`.part` file. -/
def acceptResponse (digest : Bytes -> String) (request : DownloadRequest) (io : LocalIo)
    (response : Response) (part : Option Bytes) : AttemptResult :=
  let found := part.getD []
  let resumeFrom := found.length
  let resuming := response.status == 206 && decide (0 < resumeFrom)
  let offset := if resuming then resumeFrom else 0
  let totalLen := (headerU64 response.contentLength).map (fun len => saturatingAdd len offset)
  let reportedTotal := totalLen.or request.expectedLen
  let refused := fun error => (⟨.error (permanent error), part, [], []⟩ : AttemptResult)
  let receive :=
    match io.openPartial with
    | some error =>
        if resuming then refused (ErrorChain.ofMessage error)
        else refused ((ErrorChain.ofMessage error).context
          s!"failed to create {request.partialPath}")
    | none => receiveBody digest request totalLen reportedTotal io response
        (if resuming then found else [])
  match reportedTotal with
  | none => receive
  | some total =>
    if request.maxBytes.any (fun maxBytes => maxBytes < total) then
      refused (ErrorChain.ofMessage (s!"{request.url} is {total} bytes, over the approved " ++
        s!"limit of {request.maxBytes.getD 0}"))
    else
      match io.space (withMargin (total - offset)) with
      | some error => refused error
      | none => receive

/-- A single attempt at the transfer. -/
def downloadAttempt (digest : Bytes -> String) (request : DownloadRequest) (io : LocalIo)
    (reply : Reply) (part : Option Bytes) : AttemptResult :=
  let resumeFrom := (part.getD []).length
  let status := fun (code : Nat) =>
    ErrorChain.ofMessage s!"HTTP {code} while downloading {request.url}"
  match reply with
  | .transport error =>
      ⟨.error (transient ((ErrorChain.ofMessage error).context
        s!"failed to download {request.url}")), part, [], []⟩
  | .errorStatus code =>
      ⟨.error (if statusIsRetryable code then transient (status code)
        else permanent (status code)), part, [], []⟩
  | .response response =>
    if response.status != 200 && response.status != 206 then
      ⟨.error (permanent (status response.status)), part, [], []⟩
    else if response.status == 206 && decide (0 < resumeFrom) &&
        contentRangeStart response != some resumeFrom then
      -- The slice does not continue what is on disk, so both are dropped.
      ⟨.error (transient (ErrorChain.ofMessage (s!"{request.url} resumed from an unexpected " ++
        "byte offset; restarting the download"))), none, [], []⟩
    else acceptResponse digest request io response part

end Download
end RocmCli
