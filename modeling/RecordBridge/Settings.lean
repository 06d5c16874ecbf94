import RecordBridge.Http.Client
import RecordBridge.Key
import RecordBridge.Url

/-
  Settings — what a connector needs to know about its service.

  `Settings.validate` says which settings may be used: there is an object type,
  the service is reached over HTTP at some host, without TLS only if that is
  allowed, and a page holds something.
-/

namespace RecordBridge

/-- The paths of the endpoints, behind the address of the service. -/
structure ServicePaths where
  /-- Edits of one object. -/
  objectLocator : String
  /-- Edits of many objects at once. -/
  objectLocators : String
  loadByLocator : String
  search : String
  deriving DecidableEq, Repr

/-- The paths when nothing else is configured. -/
def ServicePaths.default : ServicePaths where
  objectLocator := "/storage/edits/events/objectLocator"
  objectLocators := "/storage/edits/events/objectLocators"
  loadByLocator := "/storage/load/objectsByLocator"
  search := "/objects/search/objects"

/-- How the keys of new objects are derived. -/
structure KeySettings where
  /-- The text that is taken out; an empty one is none. -/
  strip : Option String
  hash : KeyHash
  deriving DecidableEq, Repr

/-- The derivation when nothing else is configured. -/
def KeySettings.default : KeySettings := ⟨some KeyDerivation.defaultStrip, .md5⟩

/-- The derivation that is configured. -/
def KeySettings.derivation (key : KeySettings) : KeyDerivation := .new key.strip key.hash

/-- The settings of a connector. -/
structure Settings where
  serviceUrl : Url
  /-- Sent with every request. -/
  apiToken : String
  /-- The type of objects whose model names none. -/
  objectType : String
  /-- Put among the properties of every object that is written. -/
  policy : Option String
  timeout : Duration
  /-- The size of a page when a query has no limit. -/
  defaultPageSize : Nat
  allowInsecureHttp : Bool
  /-- The settings are logged when a connector is made. -/
  debug : Bool
  paths : ServicePaths
  key : KeySettings
  deriving DecidableEq, Repr

/-- What is wrong with settings. -/
inductive SettingsFault
  /-- A source is malformed, or a setting is missing, unknown or of another kind. -/
  | unreadable
  | emptyObjectType
  | unsupportedScheme (scheme : String)
  | insecureScheme
  | missingHost
  | zeroPageSize
  deriving DecidableEq, Repr

/-- The wording of a fault. -/
def SettingsFault.message : SettingsFault → String
  | unreadable => "the settings cannot be read"
  | emptyObjectType => "object_type must not be empty"
  | unsupportedScheme scheme => "service_url scheme '" ++ scheme ++ "' is not supported"
  | insecureScheme => "service_url uses http:// but allow_insecure_http is false"
  | missingHost => "service_url must include a host"
  | zeroPageSize => "default_page_size must be greater than zero"

namespace Settings

/-- The time-out when nothing else is configured. -/
def defaultTimeout : Duration := .ofSeconds 2

/-- The page size when nothing else is configured. -/
def standardPageSize : Nat := 100

/-- Stands for the token wherever settings are shown. -/
def redactedToken : String := "SecretBox<str>([REDACTED])"

/-- The first fault of settings, if there is one. -/
def fault? (settings : Settings) : Option SettingsFault :=
  let scheme := settings.serviceUrl.scheme
  if Blank.allBlank settings.objectType.toList then some .emptyObjectType
  else if scheme ≠ "https" ∧ scheme ≠ "http" then some (.unsupportedScheme scheme)
  else if scheme = "http" ∧ !settings.allowInsecureHttp then some .insecureScheme
  else if settings.serviceUrl.host?.isNone then some .missingHost
  else if settings.defaultPageSize = 0 then some .zeroPageSize
  else none

/-- Checks settings. -/
def validate (settings : Settings) : Except SettingsFault Unit :=
  match settings.fault? with
  | some fault => .error fault
  | none => .ok ()

/-- Where paths are appended. -/
def baseUrl (settings : Settings) : String := settings.serviceUrl.baseText

/-- Whether requests may go without TLS. -/
def security (settings : Settings) : Http.TransportSecurity :=
  if settings.allowInsecureHttp then .allowInsecureHttp else .tlsOnly

/-- The settings of the client that requests are sent with. -/
def clientConfig (settings : Settings) : Http.ClientConfig :=
  { Http.ClientConfig.default with
    requestTimeout := settings.timeout
    security := settings.security }

end Settings

end RecordBridge
