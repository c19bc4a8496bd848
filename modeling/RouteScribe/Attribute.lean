/-
Module: RouteScribe.Attribute
Layer: Declarations
Purpose: Attributes of types, methods, fields and parameters: a name with literal arguments, by position and
  by name. An attribute is written back exactly as it was declared.
Imports: RouteScribe.Decimal.Layout, RouteScribe.Decimal.Word, RouteScribe.Text.Quoted
Trusted boundary: human-reviewed spec
Main exports: Literal, Literal.text, Literal.tagged, NamedLiteral, Attribute, Attribute.text
Open obligations: none
-/
import RouteScribe.Decimal.Layout
import RouteScribe.Decimal.Word
import RouteScribe.Text.Quoted

namespace RouteScribe

/-- A literal argument of an attribute. -/
inductive Literal where
  | bool (value : Bool)
  | int (value : Int)
  | float (value : Binary64)
  | text (value : String)
  | list (items : List Literal)
deriving Repr, Inhabited

namespace Literal

/-- The literal of an integer. One that does not fit a word with a sign is a floating-point number. -/
def ofInt (i : Int) : Literal := if Word.isSigned i then .int i else .float (.ofInt i)

/-!
### Equality
-/

mutual

/-- Whether two literals are the same. -/
def same : Literal → Literal → Bool
  | .bool a, .bool b => a == b
  | .int a, .int b => a == b
  | .float a, .float b => a == b
  | .text a, .text b => a == b
  | .list as, .list bs => sameItems as bs
  | _, _ => false

/-- Whether two lists of literals are the same. -/
def sameItems : List Literal → List Literal → Bool
  | [], [] => true
  | a :: as, b :: bs => same a b && sameItems as bs
  | _, _ => false

end

mutual

/-- The comparison decides equality of literals. -/
theorem same_iff (a b : Literal) : same a b = true ↔ a = b := by
  cases a with
  | bool a => cases b <;> simp [same]
  | int a => cases b <;> simp [same]
  | float a => cases b <;> simp [same]
  | text a => cases b <;> simp [same]
  | list as => cases b <;> simp [same, sameItems_iff as]

/-- The comparison decides equality of lists of literals. -/
theorem sameItems_iff (as bs : List Literal) : sameItems as bs = true ↔ as = bs := by
  cases as with
  | nil => cases bs <;> simp [sameItems]
  | cons a as => cases bs <;> simp [sameItems, same_iff a, sameItems_iff as]

end

instance : DecidableEq Literal := fun a b => decidable_of_iff _ (same_iff a b)

/-!
### Written forms
-/

/-- The text of a literal, if it is one. -/
def text? : Literal → Option String
  | .text s => some s
  | _ => none

/-- The texts of truth values. -/
def boolText (b : Bool) : String := if b then "true" else "false"

/-- Floating-point literals are written positionally from one ten-thousandth up to below ten to the
    sixteenth, always with a point there, and with an exponent elsewhere. Of two equally near decimals the
    one farther from zero is written. -/
def floatLayout : Layout :=
  ⟨.awayFromZero, some (-4, 15), true, false, "inf", "-inf", "NaN"⟩

mutual

/-- A literal as it is written in an attribute. -/
def written : Literal → String
  | .bool b => boolText b
  | .int i => toString i
  | .float f => floatLayout.write f
  | .text s => Text.quote s
  | .list [] => "[]"
  | .list (item :: items) => "[" ++ written item ++ writtenRest items ++ "]"

/-- The items of a list after the first one, each behind a comma. -/
def writtenRest : List Literal → String
  | [] => ""
  | item :: items => ", " ++ written item ++ writtenRest items

end

mutual

/-- A literal with the name of its form, for messages about literals of the wrong form. -/
def tagged : Literal → String
  | .bool b => "Bool(" ++ boolText b ++ ")"
  | .int i => "Int(" ++ toString i ++ ")"
  | .float f => "Float(" ++ floatLayout.write f ++ ")"
  | .text s => "Str(" ++ Text.quote s ++ ")"
  | .list [] => "List([])"
  | .list (item :: items) => "List([" ++ tagged item ++ taggedRest items ++ "])"

/-- The items of a list after the first one, each behind a comma. -/
def taggedRest : List Literal → String
  | [] => ""
  | item :: items => ", " ++ tagged item ++ taggedRest items

end

end Literal

/-- An argument given by name. -/
structure NamedLiteral where
  name : String
  value : Literal
deriving DecidableEq, Repr, Inhabited

/-- One use of an attribute. -/
structure Attribute where
  /-- The full path of the attribute's type. -/
  name : String
  args : List Literal := []
  named : List NamedLiteral := []
deriving DecidableEq, Repr, Inhabited

namespace Attribute

/-- The arguments as they are written, those by position first. -/
def writtenArgs (a : Attribute) : List String :=
  a.args.map Literal.written ++ a.named.map fun arg => arg.name ++ " = " ++ arg.value.written

/-- The attribute as it is declared. -/
def text (a : Attribute) : String :=
  match a.writtenArgs with
  | [] => "#[" ++ a.name ++ "]"
  | args => "#[" ++ a.name ++ "(" ++ ", ".intercalate args ++ ")]"

end Attribute

end RouteScribe
