import Facets.Failure
import Facets.Json.Parser
import Facets.Scale.Mode

/-!
Settings shared by all fields of an index: the separator of event tags, the text between the ends of
a shown range, and the mode of fields that are opened without one. They can be read from JSON, as an
object whose missing keys keep their defaults or as an array of the values in order.
-/

namespace Facets

structure Settings where
  eventSeparator : String
  rangeSeparator : String
  defaultMode : Mode
  deriving DecidableEq, Repr

/-- A choice by its name: the name itself, or an object with the name as its one key and no value. -/
def Json.choice? : Json → Option String
  | .text name => some name
  | .object [(name, .null)] => some name
  | _ => none

def Mode.ofJson? (json : Json) : Option Mode := json.choice?.bind Mode.ofName?

def NumberKind.ofJson? (json : Json) : Option NumberKind := json.choice?.bind NumberKind.ofName?

namespace Settings

def default : Settings := ⟨";", " - ", .linear⟩

/-- Settings with the value of one key replaced, if it is a key and the value is of its type. -/
def set? (settings : Settings) (key : String) (json : Json) : Option Settings :=
  match key with
  | "event_separator" => json.text?.map fun s => { settings with eventSeparator := s }
  | "range_separator" => json.text?.map fun s => { settings with rangeSeparator := s }
  | "default_mode" => (Mode.ofJson? json).map fun mode => { settings with defaultMode := mode }
  | _ => none

/-- The keys, in order. -/
def keys : List String := ["event_separator", "range_separator", "default_mode"]

def setAll? (settings : Settings) (members : List (String × Json)) : Option Settings :=
  members.foldlM (fun settings (key, json) => settings.set? key json) settings

/-- Settings from a document. An object may have each key once and no others; an array has at most
as many elements as there are keys. -/
def ofJson? : Json → Option Settings
  | .object members => if (members.map (·.1)).Nodup then default.setAll? members else none
  | .array elements =>
    if elements.length ≤ keys.length then default.setAll? (keys.zip elements) else none
  | _ => none

/-- Separators must not be empty; the separator of events is looked at first. -/
def validate (settings : Settings) : Except SettingsError Unit :=
  if settings.eventSeparator.isEmpty then .error .emptyEventSeparator
  else if settings.rangeSeparator.isEmpty then .error .emptyRangeSeparator
  else .ok ()

/-- Settings from their JSON text. -/
def parse (text : String) : Except SettingsError Settings :=
  match (Json.parse? text).bind ofJson? with
  | none => .error .malformed
  | some settings => settings.validate.map fun _ => settings

end Settings

end Facets
