/-
Module: RouteScribe.Dump.Mismatch
Layer: Dump
Purpose: What can be wrong with a dump that is well written but has the wrong shape, and the wording of it.
Imports: RouteScribe.Declaration, RouteScribe.Json.Value, RouteScribe.TypeExpr.Reader
Trusted boundary: human-reviewed spec
Main exports: Found, Mismatch, Mismatch.message
Open obligations: none
-/
import RouteScribe.Declaration
import RouteScribe.Json.Value
import RouteScribe.TypeExpr.Reader

namespace RouteScribe

/-- What was found in place of something else. -/
inductive Found where
  | null
  | bool (value : Bool)
  | int (value : Int)
  | float (value : Binary64)
  | text (value : String)
  | list
  | object
deriving DecidableEq, Repr

/-- What was wanted. -/
inductive Wanted where
  | text
  | bool
  | list
  | record (name : String)
  | nothing
deriving DecidableEq, Repr

/-- A fault in the shape of a dump. -/
inductive Mismatch where
  /-- One thing stands where another is wanted. -/
  | instead (found : Found) (wanted : Wanted)
  /-- A field is missing. -/
  | missing (key : String)
  /-- A field is given twice. -/
  | repeated (key : String)
  /-- A record that is given as a list of its fields has too few of them. -/
  | tooShort (length : Nat) (record : String) (fields : Nat)
  /-- There is no kind of that name. -/
  | noKind (name : String)
  /-- The value is no literal. -/
  | noLiteral
  /-- The text is no type. -/
  | noType (why : TypeExpr.ParseError)
deriving DecidableEq, Repr

/-- The wording for what was found. -/
def Found.message : Found → String
  | .null => "null"
  | .bool b => "boolean `" ++ (if b then "true" else "false") ++ "`"
  | .int i => "integer `" ++ toString i ++ "`"
  | .float f => "floating point `" ++ Json.numberLayout.write f ++ "`"
  | .text s => "string " ++ Text.quote s
  | .list => "sequence"
  | .object => "map"

/-- The wording for what was wanted. -/
def Wanted.message : Wanted → String
  | .text => "a string"
  | .bool => "a boolean"
  | .list => "a sequence"
  | .record name => "struct " ++ name
  | .nothing => "unit"

/-- The wording of a fault. -/
def Mismatch.message : Mismatch → String
  | .instead found wanted => "invalid type: " ++ found.message ++ ", expected " ++ wanted.message
  | .missing key => "missing field `" ++ key ++ "`"
  | .repeated key => "duplicate field `" ++ key ++ "`"
  | .tooShort length record fields =>
    "invalid length " ++ toString length ++ ", expected struct " ++ record ++ " with " ++
      toString fields ++ (if fields = 1 then " element" else " elements")
  | .noKind name =>
    "unknown variant `" ++ name ++ "`, expected one of " ++
      ", ".intercalate (Kind.all.map fun kind => "`" ++ kind.name ++ "`")
  | .noLiteral => "data did not match any variant of untagged enum AttrValue"
  | .noType why => why.message

end RouteScribe
