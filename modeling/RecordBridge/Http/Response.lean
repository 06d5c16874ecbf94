import RecordBridge.Http.Failure
import RecordBridge.Http.Header
import RecordBridge.Json.Reader

/-
  Responses — reading what the service sends back.

  A body arrives in frames. It is collected up to a limit; the frame that takes
  it above the limit decides, and so does a frame that fails. Of an answer
  without success only the start of the body is kept, as a preview.
-/

namespace RecordBridge.Http

/-- A piece of a body. -/
inductive Frame
  | data (bytes : Bytes)
  /-- A piece without data, such as trailers. -/
  | other
  | failure (reason : String)
  deriving DecidableEq, Repr

/-- A response whose body has not been read. Header names are lower case. -/
structure Response where
  status : Nat
  headers : List (String × Bytes)
  frames : List Frame
  deriving DecidableEq, Repr

/-- The longest preview of a body. -/
def previewLimit : Nat := 8192

/-- Collects a body after the bytes `got`, up to `limit` bytes. -/
def collectFrom (limit : Nat) (got : Bytes) : List Frame → Except HttpFailure Bytes
  | [] => .ok got
  | .other :: rest => collectFrom limit got rest
  | .failure reason :: _ => .error (.transport reason)
  | .data bytes :: rest =>
    let actual := got.length + bytes.length
    if limit < actual then .error (.bodyTooLarge limit actual)
    else collectFrom limit (got ++ bytes) rest

/-- Collects a body, up to `limit` bytes. -/
def collect (limit : Nat) (frames : List Frame) : Except HttpFailure Bytes :=
  collectFrom limit [] frames

/-- Whether a byte is an ASCII blank: space, tab, line feed, form feed or carriage
return. -/
def isBlankByte (b : UInt8) : Bool := b = 32 || b = 9 || b = 10 || b = 12 || b = 13

/-- Reads the body of a success; a blank body is no value. -/
def parseBody (body : Bytes) : Except HttpFailure (Option Json) :=
  if body.all isBlankByte then .ok none
  else ((Json.ofBytes body).map some).mapError .json

namespace Response

/-- The content type, if it is plain text. -/
def contentType (response : Response) : Option String :=
  (lookupEntry "content-type" response.headers).bind plainText

/-- What is shown of a body that was collected or was not. -/
def preview : Except HttpFailure Bytes → Except HttpFailure String
  | .ok bytes => .ok (String.ofList (Utf8.decodeLossy bytes))
  | .error (.bodyTooLarge ..) => .ok "<body too large for preview>"
  | .error failure => .error failure

/-- Reads the body of a response: the value of a success, or none if it is blank. -/
def readJson (maxBodySize : Nat) (response : Response) : Except HttpFailure (Option Json) :=
  if isSuccess response.status then
    match collect maxBodySize response.frames with
    | .ok body => parseBody body
    | .error failure => .error failure
  else
    match preview (collect (min maxBodySize previewLimit) response.frames) with
    | .ok text => .error (.status response.status text response.contentType)
    | .error failure => .error failure

/-- Puts a response together from what came over the line: a header value must be one,
then the status code must have three digits, then header names must be names. -/
def assemble (status : Nat) (headers : List (String × Bytes)) (frames : List Frame) :
    Except HttpFailure Response :=
  if headers.any fun h => !isHeaderValue h.2 then .error .invalidHeaderValue
  else if status < 100 ∨ 999 < status then .error (.requestBuild "invalid status code")
  else if headers.any fun h => !isHeaderName h.1 then
    .error (.requestBuild "invalid HTTP header name")
  else .ok ⟨status, headers.map fun h => (h.1.map Char.toLower, h.2), frames⟩

end Response

end RecordBridge.Http
