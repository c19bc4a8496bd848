/-
Module: RouteScribe.Json.Value
Layer: Json
Purpose: JSON values and their text without any space. Members keep their order; a number that is not finite
  has no JSON form and is written as null.
Imports: RouteScribe.Decimal.Layout
Trusted boundary: human-reviewed spec
Main exports: Value, Value.compact, numberLayout, quoted
Open obligations: none
-/
import RouteScribe.Decimal.Layout

namespace RouteScribe.Json

/-- A JSON value to be written. -/
inductive Value where
  | null
  | bool (value : Bool)
  | int (value : Int)
  | float (value : Binary64)
  | text (value : String)
  | list (items : List Value)
  | object (members : List (String × Value))
deriving Inhabited

/-- Floating-point numbers are written positionally from one hundred-thousandth up to below ten to the
    sixteenth, always with a point there, and with a signed exponent elsewhere. -/
def numberLayout : Layout := ⟨.toEven, some (-5, 15), true, true, "null", "null", "null"⟩

/-- A hexadecimal digit. -/
def hexDigit (n : Nat) : Char := Nat.digitChar (n % 16)

/-- The written form of one character of a text. -/
def escape (c : Char) : List Char :=
  if c = '"' then ['\\', '"']
  else if c = '\\' then ['\\', '\\']
  else if c = '\n' then ['\\', 'n']
  else if c = '\r' then ['\\', 'r']
  else if c = '\t' then ['\\', 't']
  else if c = '\x08' then ['\\', 'b']
  else if c = '\x0c' then ['\\', 'f']
  else if c.toNat < 0x20 then ['\\', 'u', '0', '0', hexDigit (c.toNat / 16), hexDigit c.toNat]
  else [c]

/-- A text in quotation marks. -/
def quoted (s : String) : String := String.ofList ('"' :: (s.toList.flatMap escape ++ ['"']))

namespace Value

mutual

/-- The text of a value. -/
def compact : Value → String
  | .null => "null"
  | .bool b => if b then "true" else "false"
  | .int i => toString i
  | .float f => numberLayout.write f
  | .text s => quoted s
  | .list [] => "[]"
  | .list (item :: items) => "[" ++ compact item ++ itemsText items ++ "]"
  | .object [] => "\x7b\x7d"
  | .object ((key, value) :: members) =>
    "\x7b" ++ quoted key ++ ":" ++ compact value ++ membersText members ++ "\x7d"

/-- The items after the first one, each behind a comma. -/
def itemsText : List Value → String
  | [] => ""
  | item :: items => "," ++ compact item ++ itemsText items

/-- The members after the first one, each behind a comma. -/
def membersText : List (String × Value) → String
  | [] => ""
  | (key, value) :: members => "," ++ quoted key ++ ":" ++ compact value ++ membersText members

end

end Value

end RouteScribe.Json
