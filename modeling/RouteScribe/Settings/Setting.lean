/-
Module: RouteScribe.Settings.Setting
Layer: Settings
Purpose: A single setting, and what it is read as. Settings of the environment are always texts, so a text counts
  as the truth value or the list that it spells.
Imports: RouteScribe.Decimal.Layout, RouteScribe.Decimal.Word, RouteScribe.Text.Blank,
  RouteScribe.Text.LowerText, RouteScribe.Text.Split, RouteScribe.Yaml.Value
Trusted boundary: human-reviewed spec
Main exports: Setting, SettingFault, SettingFault.message, Setting.readText, Setting.readBool, Setting.readList
Open obligations: none
-/
import RouteScribe.Decimal.Layout
import RouteScribe.Decimal.Word
import RouteScribe.Text.Blank
import RouteScribe.Text.LowerText
import RouteScribe.Text.Split
import RouteScribe.Yaml.Value

namespace RouteScribe

/-- A setting. -/
inductive Setting where
  | text (value : String)
  | int (value : Int)
  | float (value : Binary64)
  | bool (value : Bool)
  | null
  | list (items : List Setting)
deriving Inhabited

/-- Why a setting cannot be had. -/
inductive SettingFault where
  /-- There is no setting of that key. -/
  | missing (key : String)
  /-- The setting cannot be read as what is wanted. -/
  | mismatch (key : String) (wanted : String)
  /-- The file of settings is not there. -/
  | noFile (path : String)
  /-- The file of settings cannot be read, or what it holds is not well formed. -/
  | unreadable (why : String)
deriving DecidableEq, Repr

/-- The wording of a fault. -/
def SettingFault.message : SettingFault → String
  | .missing key => "Config key not found: " ++ key
  | .mismatch key wanted => "Config type mismatch for '" ++ key ++ "': expected " ++ wanted
  | .noFile path => "Config load error: config file '" ++ path ++ "' not found"
  | .unreadable why => "Config load error: " ++ why

namespace Setting

/-!
### Settings of values
-/

mutual

/-- The setting of a value: an integer that fits a word with a sign stays one. What is neither a scalar nor a list
    is the text that shows it. -/
def ofValue : Yaml.Value → Setting
  | .null => .null
  | .bool b => .bool b
  | .int i => if Word.isSigned i then .int i else .float (.ofInt i)
  | .float f => .float f
  | .text s => .text s
  | .list items => .list (ofValues items)
  | .mapping members => .text (Yaml.Value.mapping members).shown
  | .tagged tag value => .text (Yaml.Value.tagged tag value).shown

/-- The settings of some values. -/
def ofValues : List Yaml.Value → List Setting
  | [] => []
  | value :: values => ofValue value :: ofValues values

end

/-!
### Reading
-/

/-- How the setting of a key is read as an `α`. -/
abbrev Reader (α : Type) := (key : String) → Setting → Except SettingFault α

/-- Floating-point numbers are written with all their places, and without a point where there is no
    fraction. Of two equally near decimals the one farther from zero is written. -/
def floatLayout : Layout := ⟨.awayFromZero, none, false, false, "inf", "-inf", "NaN"⟩

/-- A scalar setting as a text. -/
def readText : Reader String
  | _, .text s => .ok s
  | _, .int i => .ok (toString i)
  | _, .float f => .ok (floatLayout.write f)
  | _, .bool b => .ok (if b then "true" else "false")
  | key, .null => .error (.mismatch key "String")
  | key, .list _ => .error (.mismatch key "String")

/-- The truth value that a text spells in letters of any case. -/
def boolOfText? (s : String) : Option Bool :=
  let word := Text.lowerText s
  if ["true", "1", "yes"].contains word then some true
  else if ["false", "0", "no"].contains word then some false
  else none

/-- A setting as a truth value. -/
def readBool : Reader Bool
  | _, .bool b => .ok b
  | key, .text s =>
    match boolOfText? s with
    | some b => .ok b
    | none => .error (.mismatch key "bool")
  | key, _ => .error (.mismatch key "bool")

/-- The items that a text lists, separated by commas. White space around them does not count, and blank
    ones are left out. -/
def itemsOfText (s : String) : List String :=
  ((Text.parts ',' s).map Text.trim).filter fun item => !item.isEmpty

/-- Read the items of a list, the first of which has the number `n`. -/
def readItems {α : Type} (read : Reader α) (key : String) (n : Nat) :
    List Setting → Except SettingFault (List α)
  | [] => .ok []
  | item :: items =>
    match read (key ++ "[" ++ toString n ++ "]") item with
    | .error why => .error why
    | .ok first => (readItems read key (n + 1) items).map (first :: ·)

/-- A setting as a list. A setting that is no list counts as the only item of one. -/
def readList {α : Type} (read : Reader α) : Reader (List α)
  | key, .list items => readItems read key 0 items
  | key, .text s => readItems read key 0 ((itemsOfText s).map Setting.text)
  | _, .null => .ok []
  | key, setting => (read key setting).map fun a => [a]

end Setting

end RouteScribe
