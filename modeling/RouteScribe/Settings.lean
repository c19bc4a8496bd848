/-
Module: RouteScribe.Settings
Layer: Settings
Purpose: Settings by their keys. A key is a row of names with dots between them, and the members of nested
  mappings are known by their names one after the other. Where a key is set twice, the later one counts.
Imports: RouteScribe.Settings.Setting
Trusted boundary: human-reviewed spec
Main exports: Settings, Settings.ofPairs, Settings.ofYaml, Settings.get, Settings.get?
Open obligations: none
-/
import RouteScribe.Settings.Setting

namespace RouteScribe

/-- Settings in the order in which they are made. -/
structure Settings where
  entries : List (String × Setting)

namespace Settings

/-- No settings. -/
def empty : Settings := ⟨[]⟩

instance : Inhabited Settings := ⟨empty⟩

/-- Further settings, which count before those made so far. -/
def append (s t : Settings) : Settings := ⟨s.entries ++ t.entries⟩

/-- The setting of a key. -/
def lookup (s : Settings) (key : String) : Option Setting := s.entries.reverse.lookup key

/-- The setting of a key, which must be there. -/
def get {α : Type} (read : Setting.Reader α) (s : Settings) (key : String) : Except SettingFault α :=
  match s.lookup key with
  | none => .error (.missing key)
  | some setting => read key setting

/-- The setting of a key, if it is there. -/
def get? {α : Type} (read : Setting.Reader α) (s : Settings) (key : String) :
    Except SettingFault (Option α) :=
  match s.lookup key with
  | none => .ok none
  | some setting => (read key setting).map some

/-- Settings given by their texts. -/
def ofPairs (pairs : List (String × String)) : Settings :=
  ⟨pairs.map fun (key, text) => (key, .text text)⟩

/-!
### Settings of a YAML text
-/

/-- The name of a key of a mapping. -/
def nameOfKey : Yaml.Value → String
  | .text s => s
  | key => key.shown

/-- The key of a member of the mapping that stands under a key itself. -/
def keyUnder (key name : String) : String := if key.isEmpty then name else key ++ "." ++ name

mutual

/-- The settings of a value that stands under a key. -/
def entriesUnder (key : String) : Yaml.Value → List (String × Setting)
  | .mapping members => entriesOfMembers key members
  | value => if key.isEmpty then [] else [(key, .ofValue value)]

/-- The settings of the members of a mapping that stands under a key. -/
def entriesOfMembers (key : String) : List (Yaml.Value × Yaml.Value) → List (String × Setting)
  | [] => []
  | (name, value) :: rest =>
    entriesUnder (keyUnder key (nameOfKey name)) value ++ entriesOfMembers key rest

end

/-- The settings of a value. -/
def ofValue (value : Yaml.Value) : Settings := ⟨entriesUnder "" value⟩

/-- The settings of a YAML text. -/
def ofYaml (text : String) : Except SettingFault Settings :=
  match Yaml.Value.ofText text with
  | .error _ => .error (.unreadable "invalid YAML")
  | .ok value => .ok (ofValue value)

end Settings

end RouteScribe
