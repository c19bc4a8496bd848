/-
Module: RouteScribe.Dump.JsonText
Layer: Dump
Purpose: Declarations written as JSON, every field in its place. A dump of the text gives the same
  declarations, unless a literal is a number that is not finite.
Imports: RouteScribe.Declaration, RouteScribe.Json.Value
Trusted boundary: human-reviewed spec
Main exports: jsonOfDeclarations, dumpOfText
Open obligations: none
-/
import RouteScribe.Declaration
import RouteScribe.Json.Value

namespace RouteScribe

namespace Dump

open Json (Value)

mutual

/-- A literal. -/
def valueOfLiteral : Literal → Value
  | .bool b => .bool b
  | .int i => .int i
  | .float f => .float f
  | .text s => .text s
  | .list items => .list (valuesOfLiterals items)

/-- A list of literals. -/
def valuesOfLiterals : List Literal → List Value
  | [] => []
  | item :: items => valueOfLiteral item :: valuesOfLiterals items

end

/-- A type, by its text. -/
def valueOfType (t : TypeExpr) : Value := .text t.text

/-- A type that need not be there. -/
def valueOfOptionalType : Option TypeExpr → Value
  | none => .null
  | some t => valueOfType t

/-- An argument given by name. -/
def valueOfNamed (a : NamedLiteral) : Value :=
  .object [("name", .text a.name), ("value", valueOfLiteral a.value)]

/-- An attribute. -/
def valueOfAttribute (a : Attribute) : Value :=
  .object [("name", .text a.name), ("args", .list (a.args.map valueOfLiteral)),
    ("named", .list (a.named.map valueOfNamed))]

/-- A list of attributes. -/
def valueOfAttributes (attributes : List Attribute) : Value :=
  .list (attributes.map valueOfAttribute)

/-- A field. -/
def valueOfField (f : Field) : Value :=
  .object [("name", .text f.name), ("type", valueOfType f.type), ("public", .bool f.isPublic),
    ("readable", .bool f.isReadable), ("attributes", valueOfAttributes f.attributes)]

/-- A parameter. -/
def valueOfParameter (p : Parameter) : Value :=
  .object [("name", .text p.name), ("type", valueOfType p.type),
    ("attributes", valueOfAttributes p.attributes)]

/-- A method. -/
def valueOfMethod (m : Method) : Value :=
  .object [("name", .text m.name), ("public", .bool m.isPublic), ("static", .bool m.isStatic),
    ("async", .bool m.isAsync), ("params", .list (m.params.map valueOfParameter)),
    ("returns", valueOfOptionalType m.returns), ("attributes", valueOfAttributes m.attributes)]

/-- A declaration. -/
def valueOfDeclaration (d : Declaration) : Value :=
  .object [("path", .text d.path), ("kind", .text d.kind.name), ("abstract", .bool d.isAbstract),
    ("generics", .list (d.generics.map Value.text)), ("base", valueOfOptionalType d.base),
    ("attributes", valueOfAttributes d.attributes), ("fields", .list (d.fields.map valueOfField)),
    ("methods", .list (d.methods.map valueOfMethod))]

end Dump

/-- The text of a list of declarations. -/
def jsonOfDeclarations (declarations : List Declaration) : String :=
  (Json.Value.list (declarations.map Dump.valueOfDeclaration)).compact

/-- The dump whose declarations are given by their text. -/
def dumpOfText (declarations : String) : String := "\x7b\"types\":" ++ declarations ++ "\x7d"

end RouteScribe
