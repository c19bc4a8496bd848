/-
Module: RouteScribe.TypeExpr
Layer: Declarations
Purpose: References to types as they are written in signatures and fields, and their canonical text.
  Arrays and optional values have a form of their own; every other type is a path with arguments. A
  placeholder stands for a type parameter of the declaration, and a type that could not be resolved
  is kept as such.
Imports: RouteScribe.ItemPath
Trusted boundary: human-reviewed spec
Main exports: TypeExpr, isScalarPath, TypeExpr.text, TypeExpr.path?, TypeExpr.isUnit, TypeExpr.isPrimitive,
  TypeExpr.mentionsUnresolved
Open obligations: none
-/
import RouteScribe.ItemPath

namespace RouteScribe

/-- A reference to a type. -/
inductive TypeExpr where
  | named (path : String) (args : List TypeExpr)
  | array (element : TypeExpr)
  | optional (inner : TypeExpr)
  | param (name : String)
  | unresolved
deriving Repr, Inhabited

/-!
### Equality

Two types are equal when they have the same form and equal parts.
-/

namespace TypeExpr

mutual

/-- Whether two types are the same. -/
def same : TypeExpr → TypeExpr → Bool
  | .named p as, .named q bs => p == q && sameArgs as bs
  | .array a, .array b => same a b
  | .optional a, .optional b => same a b
  | .param p, .param q => p == q
  | .unresolved, .unresolved => true
  | _, _ => false

/-- Whether two lists of types are the same. -/
def sameArgs : List TypeExpr → List TypeExpr → Bool
  | [], [] => true
  | a :: as, b :: bs => same a b && sameArgs as bs
  | _, _ => false

end

mutual

/-- The comparison decides equality of types. -/
theorem same_iff (a b : TypeExpr) : same a b = true ↔ a = b := by
  cases a with
  | named p as => cases b <;> simp [same, sameArgs_iff as]
  | array a => cases b <;> simp [same, same_iff a]
  | optional a => cases b <;> simp [same, same_iff a]
  | param p => cases b <;> simp [same]
  | unresolved => cases b <;> simp [same]

/-- The comparison decides equality of argument lists. -/
theorem sameArgs_iff (as bs : List TypeExpr) : sameArgs as bs = true ↔ as = bs := by
  cases as with
  | nil => cases bs <;> simp [sameArgs]
  | cons a as => cases bs <;> simp [sameArgs, same_iff a, sameArgs_iff as]

end

instance : DecidableEq TypeExpr := fun a b => decidable_of_iff _ (same_iff a b)

end TypeExpr

/-- The built-in scalar types. -/
def scalarNames : List String :=
  ["()", "bool", "char", "str", "String", "i8", "i16", "i32", "i64", "i128", "isize", "u8", "u16",
    "u32", "u64", "u128", "usize", "f32", "f64"]

/-- Whether a path names a built-in scalar type, written alone or inside the standard string module. -/
def isScalarPath (path : String) : Bool :=
  let stringModule := "std::string::".toList
  let local' := if stringModule.isPrefixOf path.toList then
      String.ofList (path.toList.drop stringModule.length)
    else path
  scalarNames.contains local'

namespace TypeExpr

/-- The path of a named type. -/
def path? : TypeExpr → Option String
  | .named path _ => some path
  | _ => none

/-- The type of the empty tuple. -/
def unit : TypeExpr := .named "()" []

/-- Whether the type is the empty tuple. -/
def isUnit : TypeExpr → Bool
  | .named path [] => path == "()"
  | _ => false

/-- Whether the type is a built-in scalar. -/
def isPrimitive : TypeExpr → Bool
  | .named path [] => isScalarPath path
  | _ => false

mutual

/-- Whether some part of the type could not be resolved. -/
def mentionsUnresolved : TypeExpr → Bool
  | .named _ args => anyUnresolved args
  | .array element => mentionsUnresolved element
  | .optional inner => mentionsUnresolved inner
  | .param _ => false
  | .unresolved => true

/-- Whether some part of one of the types could not be resolved. -/
def anyUnresolved : List TypeExpr → Bool
  | [] => false
  | t :: ts => mentionsUnresolved t || anyUnresolved ts

end

mutual

/-- The canonical text: one way to write each type, with a comma and a space between arguments. -/
def text : TypeExpr → String
  | .named path [] => path
  | .named path (arg :: args) => path ++ "<" ++ text arg ++ argsText args ++ ">"
  | .array element => "Vec<" ++ text element ++ ">"
  | .optional inner => "Option<" ++ text inner ++ ">"
  | .param name => "$" ++ name
  | .unresolved => "!"

/-- The arguments after the first one, each behind a comma. -/
def argsText : List TypeExpr → String
  | [] => ""
  | arg :: args => ", " ++ text arg ++ argsText args

end

end TypeExpr

end RouteScribe
