import RecordBridge.Settings.Environment
import RecordBridge.Yaml.Document

/-
  Loading settings — from a YAML document, if there is one, with variables of
  the environment put over it.
-/

namespace RecordBridge.Settings

/-- The layer of a YAML document. -/
def yamlLayer (text : String) : Except SettingsFault Json :=
  match Yaml.parse? text with
  | some layer => .ok layer
  | none => .error .unreadable

/-- Reads settings from a YAML document alone. -/
def ofYaml (text : String) : Except SettingsFault Settings := do
  ofLayers [← yamlLayer text]

/-- Reads settings from a YAML document, if there is one, and variables. -/
def load (document : Option String) (environment : List (String × String)) :
    Except SettingsFault Settings :=
  match document with
  | some text => do ofLayers [← yamlLayer text, Environment.settings environment]
  | none => ofLayers [Environment.settings environment]

end RecordBridge.Settings
