import RecordBridge.Connector

/-
  The store over HTTP — requests of a connector as POSTs to its service.

  The URL is the address of the service followed by the path of the request; the
  token goes along as a bearer token.
-/

namespace RecordBridge

/-- What requests are posted with. -/
structure Transport where
  client : Http.ClientConfig
  /-- Where paths are appended. -/
  baseUrl : String
  /-- Sent with every request. -/
  apiToken : String
  deriving DecidableEq, Repr

namespace Transport

/-- The transport for settings. -/
def new (settings : Settings) : Transport :=
  ⟨settings.clientConfig, settings.baseUrl, settings.apiToken⟩

/-- The URL behind a path. -/
def url (transport : Transport) (path : String) : String := transport.baseUrl ++ path

/-- Posts a body to a service: the token is set first, then the body. -/
def deliver (transport : Transport) (service : Http.Service) (path : String) (body : Json) :
    Http.Delivery :=
  (Http.Draft.post transport.client.security (transport.url path)).deliver service
    [.bearer transport.apiToken, .json body]

/-- Posts a body to a service and reads the response. -/
def post (transport : Transport) (service : Http.Service) (path : String) (body : Json) : Reply :=
  match (transport.deliver service path body).result with
  | .error failure => .error failure
  | .ok response => response.readJson transport.client.maxBodySize

end Transport

namespace Connector

/-- What the requests of a connector are posted with. -/
def transport (connector : Connector) : Transport := .new connector.settings

/-- The URL of a request. -/
def url (connector : Connector) (request : StoreRequest) : String :=
  connector.transport.url (request.path connector.settings.paths)

/-- Posts a request to a service and reads the response. -/
def httpPost (connector : Connector) (service : Http.Service) (request : StoreRequest) : Reply :=
  connector.transport.post service (request.path connector.settings.paths) request.body

/-- A service behind HTTP that treats every request alike. -/
def overHttp (connector : Connector) (service : Http.Service) (request : StoreRequest) :
    Reply × Http.Service :=
  (connector.httpPost service request, service)

end Connector

end RecordBridge
