import RocmCli.Provider.Chunks
import RocmCli.Support.LossyText

namespace RocmCli
namespace Net

open Provider (Bytes ChunkedBody lineEnd textLines)
open Text (trim parseU64 maxU64 eqIgnoreAsciiCase fromUtf8Lossy lossyChars)

/-!
# Reading one response

A response is read from a socket until it is complete by its own framing, the
peer closes, or the deadline passes.  Whether it is complete is decided again on
all that has come after every read.
-/

/-! ## Completeness -/

/-- What ends the head. -/
def blankLine : Bytes := [0x0d, 0x0a, 0x0d, 0x0a]

/-- What ends a body in chunks, as the reader has it: `0\r\n\r\n`. -/
def lastChunk : Bytes := [0x30, 0x0d, 0x0a, 0x0d, 0x0a]

/-- Where the first blank line stands. -/
def headerEnd : Bytes -> Option Nat
  | [] => none
  | byte :: rest => if blankLine <+: byte :: rest then some 0 else (headerEnd rest).map (· + 1)

/-- The value of the first header of a name. -/
def headerValue (headers name : String) : Option String :=
  (textLines headers).findSome? fun line =>
    match line.toList.dropWhile (· != ':') with
    | [] => none
    | _ :: value =>
        if eqIgnoreAsciiCase (trim (String.ofList (line.toList.takeWhile (· != ':')))) name then
          some (trim (String.ofList value))
        else none

/-- A value that has `chunked` in it, in any case. -/
def saysChunked (value : String) : Bool :=
  decide ("chunked".toList <:+: value.toList.map Char.toLower)

def httpResponseIsComplete (response : Bytes) : Bool :=
  match headerEnd response with
  | none => false
  | some headEnd =>
      let headers := fromUtf8Lossy (response.take headEnd)
      let body := response.drop (headEnd + 4)
      match (headerValue headers "Content-Length").bind parseU64 with
      | some length => length ≤ body.length
      | none =>
          if (headerValue headers "Transfer-Encoding").any saysChunked then
            decide (lastChunk <:+ body)
          else false

/-! ## Reading -/

/-- What becomes of one turn of the loop.  Nothing more is the peer's silence up
to the deadline. -/
inductive Turn where
  | read (bytes : Bytes)
  | interrupted
  | timedOut
  | failed (error : ErrorChain)
  deriving DecidableEq, Repr

def timedOut : ErrorChain := ErrorChain.ofMessage "timed out reading HTTP response"

def readOn (response : Bytes) (turns : List Turn) : Except ErrorChain String :=
  if httpResponseIsComplete response then .ok (fromUtf8Lossy response)
  else
    match turns with
    | [] => .error timedOut
    | .timedOut :: _ => .error timedOut
    | .failed error :: _ => .error (error.context "failed to read TCP stream")
    | .interrupted :: later => readOn response later
    | .read bytes :: later =>
        if bytes = [] then .ok (fromUtf8Lossy response) else readOn (response ++ bytes) later

def readHttpResponseBounded (turns : List Turn) : Except ErrorChain String := readOn [] turns

/-! ## Responses -/

/-- A byte of a header value or a reason. -/
def isFieldByte (byte : UInt8) : Bool := byte == 0x09 || (0x20 ≤ byte && byte != 0x7f)

/-- A byte of a header name. -/
def isTokenByte (byte : UInt8) : Bool :=
  (0x30 ≤ byte && byte ≤ 0x39) || (0x41 ≤ byte && byte ≤ 0x5a) || (0x61 ≤ byte && byte ≤ 0x7a) ||
    (Text.asciiBytes "!#$%&'*+-.^_|~").contains byte || byte == 0x60

structure HeaderField where
  name : Bytes
  value : Bytes
  nonempty : name ≠ []
  token : name.all isTokenByte = true
  text : value.all isFieldByte = true

namespace HeaderField

def bytes (field : HeaderField) : Bytes := field.name ++ 0x3a :: field.value

def nameText (field : HeaderField) : String := fromUtf8Lossy field.name

def valueText (field : HeaderField) : String := trim (fromUtf8Lossy field.value)

/-- The field has a name, in any case. -/
def isNamed (name : String) (field : HeaderField) : Bool := eqIgnoreAsciiCase field.nameText name

end HeaderField

/-- The status line, behind `HTTP/1.1 `, and the header fields. -/
structure Head where
  status : Bytes
  fields : List HeaderField
  text : status.all isFieldByte = true

namespace Head

def statusLine (head : Head) : Bytes := Text.asciiBytes "HTTP/1.1 " ++ head.status

/-- The lines of the head, each but the first behind a line end. -/
def bytes (head : Head) : Bytes :=
  head.statusLine ++ head.fields.flatMap fun field => lineEnd ++ field.bytes

/-- The first field of a name. -/
def field? (head : Head) (name : String) : Option HeaderField :=
  head.fields.find? (HeaderField.isNamed name)

end Head

/-- Optional white space and digits around nothing else. -/
structure Decimal where
  before : Bytes
  digits : Bytes
  after : Bytes
  blank : (before ++ after).all (fun byte => byte == 0x20 || byte == 0x09) = true
  nonempty : digits ≠ []
  decimal : digits.all (fun byte => 0x30 ≤ byte && byte ≤ 0x39) = true

namespace Decimal

def bytes (number : Decimal) : Bytes := number.before ++ (number.digits ++ number.after)

def value (number : Decimal) : Nat :=
  number.digits.foldl (fun value digit => value * 10 + (digit.toNat - 48)) 0

end Decimal

/-- A body in its framing, with what the head says of it. -/
inductive Body (head : Head) where
  | fixed (data : Bytes) (fits : data.length ≤ maxU64)
      (declared : exists field, head.field? "Content-Length" = some field ∧
        exists number : Decimal, field.value = number.bytes ∧ number.value = data.length)
      (notChunked : head.field? "Transfer-Encoding" = none)
  | chunked (body : ChunkedBody) (trailers : List HeaderField)
      (ends : body.trailer = (trailers.flatMap fun field => field.bytes ++ lineEnd) ++ lineEnd)
      (declared : exists field, (head.fields.filter
          (HeaderField.isNamed "Transfer-Encoding")).getLast? = some field ∧
        "chunked".toList <:+ field.valueText.toList.map Char.toLower)
      (notFixed : head.field? "Content-Length" = none)

def Body.bytes {head : Head} : Body head -> Bytes
  | .fixed data .. => data
  | .chunked body .. => body.encode

structure Response where
  head : Head
  body : Body head

def Response.bytes (response : Response) : Bytes :=
  response.head.bytes ++ (blankLine ++ response.body.bytes)

end Net
end RocmCli
