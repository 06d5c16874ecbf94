import RecordBridge.Duration.Reader
import RecordBridge.Settings
import RecordBridge.Url.Reader

/-
  Settings as values — the names of the settings, their kinds and defaults.

  A name that is no setting is refused, so that a misspelt setting is not
  silently without effect.
-/

namespace RecordBridge

open Json (Shape)

/-- Checks a member of a structure that allows no other members. -/
def Json.Shape.checkKnown (shape : Shape) (check : String → Json → Decoded Unit) (name : String)
    (json : Json) : Decoded Unit :=
  if shape.fields.contains name then check name json else .error (.unknownField name shape.fields)

/-- A member of a string. -/
def Json.checkString (json : Json) : Decoded Unit := discard json.asString

namespace ServicePaths

/-- The fields of the JSON form. -/
def shape : Shape :=
  .plain "ServicePaths" ["object_locator", "object_locators", "load_by_locator", "search"]

/-- Reads paths. -/
def decode (json : Json) : Decoded ServicePaths := do
  let given ← shape.read (shape.checkKnown fun _ json => json.checkString) json
  return {
    objectLocator := ← given.field "object_locator" Json.asString default.objectLocator
    objectLocators := ← given.field "object_locators" Json.asString default.objectLocators
    loadByLocator := ← given.field "load_by_locator" Json.asString default.loadByLocator
    search := ← given.field "search" Json.asString default.search }

end ServicePaths

namespace KeySettings

/-- The fields of the JSON form. -/
def shape : Shape := .plain "KeyConfig" ["strip", "hash"]

/-- Checks one member. -/
def checkMember (name : String) (json : Json) : Decoded Unit :=
  if name = "strip" then discard (json.asOptional Json.asString)
  else discard (KeyHash.decode json)

/-- Reads how keys are derived. -/
def decode (json : Json) : Decoded KeySettings := do
  let given ← shape.read (shape.checkKnown checkMember) json
  return {
    strip := ← given.field "strip" (Json.asOptional Json.asString) default.strip
    hash := ← given.field "hash" KeyHash.decode default.hash }

end KeySettings

namespace Settings

/-- The fields of the JSON form. -/
def shape : Shape :=
  .plain "ConnectorConfig" ["service_url", "api_token", "object_type", "policy", "timeout",
    "default_page_size", "allow_insecure_http", "debug", "paths", "key"]

/-- A URL, written as a string. -/
def asUrl (json : Json) : Decoded Url := do
  match Url.parse? (← json.asString) with
  | some url => return url
  | none => throw (.invalidValue json "a URL")

/-- A duration, written as a string. -/
def asDuration (json : Json) : Decoded Duration := do
  match Duration.parse? (← json.asString) with
  | some duration => return duration
  | none => throw (.invalidValue json "a duration")

/-- The greatest page size has 32 bits. -/
def asPageSize : Json → Decoded Nat := Json.asUnsigned 32

/-- Checks one member. -/
def checkMember (name : String) (json : Json) : Decoded Unit :=
  match name with
  | "service_url" => discard (asUrl json)
  | "policy" => discard (json.asOptional Json.asString)
  | "timeout" => discard (asDuration json)
  | "default_page_size" => discard (asPageSize json)
  | "allow_insecure_http" | "debug" => discard json.asBool
  | "paths" => discard (ServicePaths.decode json)
  | "key" => discard (KeySettings.decode json)
  | _ => json.checkString

/-- Reads settings. -/
def decode (json : Json) : Decoded Settings := do
  let given ← shape.read (shape.checkKnown checkMember) json
  return {
    serviceUrl := ← given.required shape "service_url" asUrl
    apiToken := ← given.required shape "api_token" Json.asString
    objectType := ← given.required shape "object_type" Json.asString
    policy := ← given.field "policy" (Json.asOptional Json.asString) none
    timeout := ← given.field "timeout" asDuration defaultTimeout
    defaultPageSize := ← given.field "default_page_size" asPageSize standardPageSize
    allowInsecureHttp := ← given.field "allow_insecure_http" Json.asBool false
    debug := ← given.field "debug" Json.asBool false
    paths := ← given.field "paths" ServicePaths.decode ServicePaths.default
    key := ← given.field "key" KeySettings.decode KeySettings.default }

/-- Reads settings; why they are unreadable is not told. -/
def ofJson (json : Json) : Except SettingsFault Settings :=
  (decode json).mapError fun _ => .unreadable

end Settings

end RecordBridge
