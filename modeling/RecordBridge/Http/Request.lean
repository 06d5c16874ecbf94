import RecordBridge.Http.Failure
import RecordBridge.Http.Header
import RecordBridge.Http.Uri
import RecordBridge.Json.Printer

/-
  Requests — JSON POSTs, from a draft to what a service sees.

  A draft collects a bearer token and a body. A token that no header can hold
  is reported by the next step, before anything is said about the URL. The URL
  must be absolute, and its scheme `https` unless plain `http` is allowed.
-/

namespace RecordBridge.Http

/-- Whether plain `http` is allowed. -/
inductive TransportSecurity
  | tlsOnly
  | allowInsecureHttp
  deriving DecidableEq, Repr

/-- The name under which requests are sent. -/
def userAgent : String := "objstore-http/0.2.8"

/-- A request as the service sees it. -/
structure Request where
  method : String
  uri : Uri
  headers : List Header
  body : String
  deriving DecidableEq, Repr

/-- A request that is being put together. -/
structure Draft where
  url : String
  security : TransportSecurity
  authorization : Option String
  body : Option String
  /-- What has gone wrong and has not been reported yet. -/
  failure : Option HttpFailure
  deriving DecidableEq, Repr

namespace Draft

/-- A draft of a POST. -/
def post (security : TransportSecurity) (url : String) : Draft :=
  ⟨url, security, none, none, none⟩

/-- Sets the bearer token. -/
def bearer (draft : Draft) (token : String) : Draft :=
  let value := "Bearer " ++ token
  if isHeaderValue (Utf8.encode value) then { draft with authorization := some value }
  else { draft with failure := some .invalidHeaderValue }

/-- Sets the body, unless there is a failure to report. -/
def json (draft : Draft) (body : Json) : Except HttpFailure Draft :=
  match draft.failure with
  | some failure => .error failure
  | none => .ok { draft with body := some body.text }

/-- One step of putting a request together. -/
inductive Step
  | bearer (token : String)
  | json (body : Json)
  deriving DecidableEq

/-- Takes one step. -/
def step (draft : Draft) : Step → Except HttpFailure Draft
  | .bearer token => .ok (draft.bearer token)
  | .json body => draft.json body

end Draft

/-- Reads a URL and checks that requests may go there. -/
def checkedUri (security : TransportSecurity) (url : String) : Except HttpFailure Uri :=
  match Uri.parse url with
  | .error fault => .error (.invalidUri url fault.message)
  | .ok uri =>
    if uri.authority = "" then .error (.invalidUri url "missing host")
    else
      match uri.scheme with
      | some .https => .ok uri
      | some .http =>
        if security = .allowInsecureHttp then .ok uri else .error (.invalidScheme "http")
      | some (.other name) => .error (.invalidScheme name)
      | none => .error (.invalidUri url "missing scheme")

namespace Draft

/-- The headers of the request of a draft. -/
def headers (draft : Draft) : List Header :=
  ⟨"user-agent", userAgent, false⟩ ::
    ((if draft.body.isSome then [⟨"content-type", "application/json", false⟩] else []) ++
      match draft.authorization with
      | some value => [⟨"authorization", value, true⟩]
      | none => [])

/-- The request of a draft to an address: a POST. -/
def requestTo (draft : Draft) (uri : Uri) : Request :=
  ⟨"POST", uri, draft.headers, draft.body.getD ""⟩

/-- The request of a draft, or what there is to report. -/
def request (draft : Draft) : Except HttpFailure Request :=
  match draft.failure with
  | some failure => .error failure
  | none => do
    let uri ← checkedUri draft.security draft.url
    return draft.requestTo uri

end Draft

end RecordBridge.Http
