import RecordBridge.Http.Request
import RecordBridge.Http.Response

/-
  Clients — what requests are sent with, and what a service may do with one.
-/

namespace RecordBridge.Http

/-- The settings of a client. -/
structure ClientConfig where
  requestTimeout : Duration
  maxBodySize : Nat
  security : TransportSecurity
  /-- How long an idle connection is kept; without it, for ever. -/
  poolIdleTimeout : Option Duration
  deriving DecidableEq, Repr

/-- Bodies above this size are refused: ten mebibytes. -/
def defaultMaxBodySize : Nat := 10 * 1024 * 1024

/-- The settings when nothing else is configured. -/
def ClientConfig.default : ClientConfig :=
  ⟨.ofSeconds 30, defaultMaxBodySize, .tlsOnly, some (.ofSeconds 90)⟩

/-- The text of a transport security. -/
def TransportSecurity.text : TransportSecurity → String
  | .tlsOnly => "TlsOnly"
  | .allowInsecureHttp => "AllowInsecureHttp"

/-- The text of a client: the settings that requests depend on. -/
def ClientConfig.describe (config : ClientConfig) : String :=
  "HttpClient \x7b max_body_size: " ++ toString config.maxBodySize ++ ", transport: " ++
    config.security.text ++ ", .. \x7d"

/-- What a service does with requests. -/
inductive Service
  /-- Whoever passes requests on is gone. -/
  | closed
  /-- The service never becomes ready. -/
  | notReady (failure : HttpFailure)
  /-- The service sees the request and fails. -/
  | failing (failure : HttpFailure)
  /-- The service sees the request and answers. -/
  | answering (status : Nat) (headers : List (String × Bytes)) (frames : List Frame)

/-- Whether the service gets to see a request. -/
def Service.isReady : Service → Bool
  | .closed | .notReady _ => false
  | .failing _ | .answering .. => true

/-- What sending a request to the service gives. A service that cannot become ready takes
the passing on of requests down with it. -/
def Service.send (service : Service) : Except HttpFailure Response :=
  match service with
  | .closed | .notReady _ => .error .serviceClosed
  | .failing failure => .error failure
  | .answering status headers frames => Response.assemble status headers frames

/-- What has come of a draft. -/
structure Delivery where
  /-- The steps that had been taken before the result: all of them if it is the result of
  sending. -/
  taken : Nat
  /-- Every request that the service saw. -/
  seen : List Request
  result : Except HttpFailure Response

/-- Sends a draft as it stands. -/
def Draft.send (service : Service) (draft : Draft) : Delivery :=
  match draft.request with
  | .error failure => ⟨0, [], .error failure⟩
  | .ok request => ⟨0, if service.isReady then [request] else [], service.send⟩

/-- Takes steps one after another, up to the first that fails, and then sends the draft. -/
def Draft.deliver (service : Service) (draft : Draft) : List Draft.Step → Delivery
  | [] => draft.send service
  | step :: rest =>
    match draft.step step with
    | .error failure => ⟨0, [], .error failure⟩
    | .ok draft =>
      let delivery := draft.deliver service rest
      { delivery with taken := delivery.taken + 1 }

end RecordBridge.Http
