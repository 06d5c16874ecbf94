import RecordBridge.Duration
import RecordBridge.Http.Status
import RecordBridge.Json.Syntax

/-
  HTTP failures — why one request of the store did not give an answer.
-/

namespace RecordBridge

/-- Why a request failed. -/
inductive HttpFailure
  /-- A request or response cannot be put together. -/
  | requestBuild (reason : String)
  /-- A header value holds a byte that no header may hold. -/
  | invalidHeaderValue
  | timeout (after : Duration)
  /-- The connection failed below HTTP. -/
  | transport (reason : String)
  | tls (reason : String)
  | bodyTooLarge (limit actual : Nat)
  /-- The service answered with another status than success. -/
  | status (code : Nat) (bodyPreview : String) (contentType : Option String)
  | json (error : JsonError)
  /-- Whoever passes requests on is gone. -/
  | serviceClosed
  | invalidUri (url reason : String)
  | invalidScheme (scheme : String)
  deriving DecidableEq, Repr

/-- The wording of a failure. -/
def HttpFailure.message : HttpFailure → String
  | requestBuild reason => "cannot build request: " ++ reason
  | invalidHeaderValue => "invalid header value: failed to parse header value"
  | timeout after => "request timed out after " ++ after.text
  | transport reason => "transport error: " ++ reason
  | tls reason => "TLS setup failed: " ++ reason
  | bodyTooLarge limit actual =>
    "response body exceeds " ++ toString limit ++ " bytes (got " ++ toString actual ++ ")"
  | status code preview _ => "HTTP " ++ Http.statusText code ++ ": " ++ preview
  | json error => "invalid JSON: " ++ error.message
  | serviceClosed => "HTTP client is shut down"
  | invalidUri url reason => "invalid URL '" ++ url ++ "': " ++ reason
  | invalidScheme scheme => "URL scheme '" ++ scheme ++ "' rejected"

end RecordBridge
