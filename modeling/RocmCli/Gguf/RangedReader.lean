import RocmCli.Gguf.Script

namespace RocmCli
namespace Gguf

open Scan Text

/-!
# A remote file read in windows

The reader keeps one window of the file and asks for another when its position
is outside.  The network is any function of the requests made so far, so a
server may answer the same request differently each time.
-/

def windowBytes : Nat := 4 * 1024 * 1024

def maxFetchBytes : Nat := maxHeaderBytes

def maxRedirects : Nat := 5

def totalBudgetSecs : Nat := 120

structure Response where
  status : Nat
  location : Option String
  contentRange : Option String
  body : Bytes
  /-- What the body ends with, if it does not end well. -/
  bodyError : Option ErrorChain

inductive HttpError where
  | status (code : Nat)
  | transport (text : String)

/-- What comes of one request. -/
inductive Exchange where
  | outOfTime
  | failed (error : HttpError)
  | response (response : Response)

/-- What comes of a request, by how many were made before it. -/
abbrev Network := Nat -> String -> Option String -> Exchange

inductive ErrorKind where
  | unexpectedEof
  | invalidInput
  | other
  deriving DecidableEq

structure IoError where
  kind : ErrorKind
  error : ErrorChain

def otherError (message : String) : IoError := ⟨.other, .ofMessage message⟩

/-! ## Requests -/

def describeHttpError (what : String) : HttpError -> ErrorChain
  | .status code =>
      if code = 401 ∨ code = 403 ∨ code = 404 then
        .ofMessage s!"{what} was not found, or its repository is gated or private; no token is sent, so only public repositories can be read"
      else .ofMessage s!"the hub answered {code} for {what}"
  | .transport text => .ofMessage s!"could not reach the hub for {what}: {text}"

/-- Split a text around the first place where the separator stands. -/
def splitAround (separator : List Char) : List Char -> Option (List Char × List Char)
  | [] => if separator = [] then some ([], []) else none
  | character :: rest =>
      if separator.isPrefixOf (character :: rest) then
        some ([], (character :: rest).drop separator.length)
      else (splitAround separator rest).map fun parts => (character :: parts.1, parts.2)

def startsWith (start : String) (text : List Char) : Bool := start.toList.isPrefixOf text

def asciiLower (text : List Char) : List Char := text.map Char.toLower

/-- What stands before the last slash. -/
def directoryOf (path : List Char) : List Char :=
  if path.contains '/' then ((path.reverse.dropWhile (· ≠ '/')).drop 1).reverse else []

/-- Where a redirect goes, or why it is refused. -/
def redirectTarget (current location what : String) : Except ErrorChain String :=
  let location := (trim location).toList
  match splitAround "://".toList current.toList with
  | none => .error (.ofMessage s!"{what} is at `{current}`, which is not a URL")
  | some (scheme, rest) =>
      let authority := rest.takeWhile fun character => !"/?#".toList.contains character
      let lower := asciiLower location
      let target :=
        if startsWith "http://" lower || startsWith "https://" lower then some location
        else if startsWith "//" location then some (scheme ++ ":".toList ++ location)
        else if startsWith "/" location then
          some (scheme ++ "://".toList ++ authority ++ location)
        else if (splitAround "://".toList location).isSome then none
        else
          let path := (rest.drop authority.length).takeWhile fun character =>
            !"?#".toList.contains character
          some (scheme ++ "://".toList ++ authority ++ directoryOf path ++ "/".toList ++ location)
      match target with
      | none =>
          .error (.ofMessage s!"the hub redirected {what} to something that is not http(s)")
      | some target =>
          if asciiLower scheme = "https".toList && startsWith "http://" (asciiLower target) then
            .error (.ofMessage s!"the hub redirected {what} from https to plain http, which is refused: no token is sent, but the request must not leave an encrypted connection")
          else .ok (String.ofList target)

def isRedirect (status : Nat) : Bool := [301, 302, 303, 307, 308].contains status

section Requests

variable (network : Network) (range : Option String) (what : String)

/-- A request and at most so many hops, and the number of requests made. -/
def sendHops : Nat -> String -> Nat -> Except ErrorChain Response × Nat
  | 0, _, requests =>
      (.error (.ofMessage s!"the hub redirected {what} more than {maxRedirects} times"), requests)
  | hops + 1, current, requests =>
      match network requests current range with
      | .outOfTime =>
          (.error (.ofMessage
            s!"reading the header took longer than {totalBudgetSecs} seconds"), requests + 1)
      | .failed error => (.error (describeHttpError what error), requests + 1)
      | .response response =>
          if !isRedirect response.status then (.ok response, requests + 1)
          else
            match response.location with
            | none =>
                (.error (.ofMessage s!"the hub redirected {what} without saying where"),
                  requests + 1)
            | some location =>
                match redirectTarget current location what with
                | .error error => (.error error, requests + 1)
                | .ok next => sendHops hops next (requests + 1)

def send (url : String) (requests : Nat) : Except ErrorChain Response × Nat :=
  sendHops network range what (maxRedirects + 1) url requests

end Requests

/-- The first byte offset of a `Content-Range` header. -/
def contentRangeStart (response : Response) : Option Nat := do
  let value <- response.contentRange
  let range <- stripPrefix "bytes" (trim value)
  let start := (trimStart range).toList.takeWhile (· ≠ '-')
  parseU64 (trim (String.ofList start))

/-- Read at most this much of a body. -/
def readBody (response : Response) (wanted : Nat) : Except ErrorChain Bytes :=
  if wanted ≤ response.body.length then .ok (response.body.take wanted)
  else
    match response.bodyError with
    | some error => .error error
    | none => .ok response.body

/-! ## The reader -/

structure RangedReader where
  url : String
  len : Nat
  position : Nat
  window : Bytes
  windowStart : Nat
  fetched : Nat
  requests : Nat

namespace RangedReader

def new (url : String) (len : Nat) : RangedReader := ⟨url, len, 0, [], 0, 0, 0⟩

/-- The end of the window that the reader asks for. -/
def windowEnd (reader : RangedReader) : Nat :=
  min (saturatingAdd reader.position windowBytes) reader.len

def wanted (reader : RangedReader) : Nat := reader.windowEnd - reader.position

variable (network : Network)

/-- Take over a window from a response. -/
def accept (reader : RangedReader) (response : Response) : Except IoError RangedReader :=
  if response.status ≠ 206 then
    .error (otherError s!"the server answered {response.status} to a range request; it does not support reading part of a file, and the whole file is not downloaded to read its header")
  else if contentRangeStart response ≠ some reader.position then
    let start := (contentRangeStart response).elim "an unstated offset" toString
    .error (otherError s!"the server answered a range that starts at {start} when {reader.position} was asked for")
  else
    match readBody response reader.wanted with
    | .error error =>
        .error (otherError s!"the connection ended after {response.body.length} of the {reader.wanted} bytes asked for: {error.render}")
    | .ok window =>
        if window.length ≠ reader.wanted then
          .error (otherError s!"the connection ended after {window.length} of the {reader.wanted} bytes asked for")
        else
          .ok { reader with
            fetched := reader.fetched + reader.wanted
            window := window
            windowStart := reader.position }

def fill (reader : RangedReader) : Except IoError Unit × RangedReader :=
  if maxFetchBytes < saturatingAdd reader.fetched reader.wanted then
    (.error (otherError s!"the header is larger than {maxFetchBytes / (1024 * 1024)} MiB; this is not a GGUF header read"),
      reader)
  else
    let (answer, requests) := send network
      (some s!"bytes={reader.position}-{reader.windowEnd - 1}") "the model file" reader.url
      reader.requests
    let reader := { reader with requests := requests }
    match answer with
    | .error error => (.error (otherError error.render), reader)
    | .ok response =>
        match reader.accept response with
        | .error error => (.error error, reader)
        | .ok filled => (.ok (), filled)

/-- Whether the position is inside the window. -/
def inWindow (reader : RangedReader) : Bool :=
  reader.windowStart ≤ reader.position &&
    reader.position < reader.windowStart + reader.window.length

/-- Copy what the window has from the position on. -/
def copyWindow (bufLen : Nat) (reader : RangedReader) : Bytes × RangedReader :=
  let offset := reader.position - reader.windowStart
  let count := min bufLen (reader.window.length - offset)
  ((reader.window.drop offset).take count, { reader with position := reader.position + count })

def read (bufLen : Nat) (reader : RangedReader) : Except IoError Bytes × RangedReader :=
  if reader.len ≤ reader.position || bufLen = 0 then (.ok [], reader)
  else
    let (filled, reader) := if reader.inWindow then (.ok (), reader) else reader.fill network
    match filled with
    | .error error => (.error error, reader)
    | .ok () =>
        let (bytes, reader) := reader.copyWindow bufLen
        (.ok bytes, reader)

end RangedReader

inductive SeekFrom where
  | start (offset : Nat)
  | current (delta : Int)
  | fromEnd (delta : Int)

def checkedAddSigned (base : Nat) (delta : Int) : Option Nat :=
  if 0 ≤ base + delta ∧ base + delta ≤ maxU64 then some (base + delta).toNat else none

/-- Where a seek leads from a position in data of a length. -/
def seekTarget (len position : Nat) : SeekFrom -> Option Nat
  | .start offset => some offset
  | .current delta => checkedAddSigned position delta
  | .fromEnd delta => checkedAddSigned len delta

def RangedReader.seek (target : SeekFrom) (reader : RangedReader) :
    Except IoError Nat × RangedReader :=
  match seekTarget reader.len reader.position target with
  | none => (.error ⟨.invalidInput, .ofMessage "seek before the start of the file"⟩, reader)
  | some next => (.ok next, { reader with position := next })

/-! ## Parsing -/

/-- Fill a buffer: read until it is full or there is no more. -/
def readExactFrom (network : Network) : Nat -> Nat -> RangedReader ->
    Except IoError Bytes × RangedReader
  | 0, _, reader => (.ok [], reader)
  | fuel + 1, count, reader =>
      if count = 0 then (.ok [], reader)
      else
        match reader.read network count with
        | (.error error, reader) => (.error error, reader)
        | (.ok [], reader) =>
            (.error ⟨.unexpectedEof, .ofMessage "failed to fill whole buffer"⟩, reader)
        | (.ok bytes, reader) =>
            match readExactFrom network fuel (count - bytes.length) reader with
            | (.error error, reader) => (.error error, reader)
            | (.ok more, reader) => (.ok (bytes ++ more), reader)

inductive ParseError where
  | gguf (error : GgufError)
  | io (error : IoError)

/-- An error of the source, as the parser reports it. -/
def ofIoError (error : IoError) : ParseError :=
  if error.kind = .unexpectedEof then .gguf .truncated else .io error

/-- The script over a remote file. -/
def Script.runRanged {R : Type} (network : Network) :
    Script R -> RangedReader -> Except ParseError R × RangedReader
  | .done result, reader => (.ok result, reader)
  | .fail error, reader => (.error (.gguf error), reader)
  | .readExact count next, reader =>
      match readExactFrom network count count reader with
      | (.error error, reader) => (.error (ofIoError error), reader)
      | (.ok bytes, reader) => (next bytes).runRanged network reader
  | .seekForward count next, reader =>
      match reader.seek (.current count) with
      | (.error error, reader) => (.error (ofIoError error), reader)
      | (.ok _, reader) => next.runRanged network reader
  | .streamPosition next, reader =>
      match reader.seek (.current 0) with
      | (.error error, reader) => (.error (ofIoError error), reader)
      | (.ok position, reader) => (next position).runRanged network reader

def parseGgufHeaderRanged (network : Network) (reader : RangedReader) :
    Except ParseError GgufHeader × RangedReader :=
  Script.parseGgufHeader.runRanged network reader

end Gguf
end RocmCli
