/-
Module: RouteScribe.Declaration
Layer: Declarations
Purpose: Declarations of types with their fields and methods. A type may be declared in several parts;
  `absorb` adds one more part to what is known of it.
Imports: RouteScribe.Attribute, RouteScribe.TypeExpr
Trusted boundary: human-reviewed spec
Main exports: Kind, Field, Parameter, Method, Declaration, Declaration.absorb, hasAttribute
Open obligations: none
-/
import RouteScribe.Attribute
import RouteScribe.TypeExpr

namespace RouteScribe

/-- What sort of type is declared. -/
inductive Kind where
  | record
  | enumeration
  | interface
  | primitive
deriving DecidableEq, Repr, Inhabited

namespace Kind

/-- Every kind, in the order in which they are listed to a reader. -/
def all : List Kind := [.record, .enumeration, .interface, .primitive]

/-- The name of a kind in a dump. -/
def name : Kind → String
  | .record => "record"
  | .enumeration => "enum"
  | .interface => "interface"
  | .primitive => "primitive"

/-- The kind of a given name. -/
def ofName? (name : String) : Option Kind := all.find? (·.name == name)

end Kind

/-- Whether some attribute of a list has the given name. -/
def hasAttribute (attributes : List Attribute) (name : String) : Bool :=
  attributes.any (·.name == name)

/-- A field of a type. -/
structure Field where
  name : String
  type : TypeExpr
  isPublic : Bool := true
  isReadable : Bool := true
  attributes : List Attribute := []
deriving DecidableEq, Repr, Inhabited

/-- A parameter of a method. -/
structure Parameter where
  name : String
  type : TypeExpr
  attributes : List Attribute := []
deriving DecidableEq, Repr, Inhabited

/-- A method of a type. No return type means that nothing is returned. -/
structure Method where
  name : String
  isPublic : Bool := true
  isStatic : Bool := false
  isAsync : Bool := false
  params : List Parameter := []
  returns : Option TypeExpr := none
  attributes : List Attribute := []
deriving DecidableEq, Repr, Inhabited

/-- One declaration of a type, possibly one part of several. -/
structure Declaration where
  path : String
  kind : Kind := .record
  isAbstract : Bool := false
  generics : List String := []
  base : Option TypeExpr := none
  attributes : List Attribute := []
  fields : List Field := []
  methods : List Method := []
deriving DecidableEq, Repr, Inhabited

namespace Declaration

/-- The last segment of the type's path. -/
def shortName (d : Declaration) : String := ItemPath.lastSegment d.path

/-- The path of the base type, if the type has a named one. -/
def basePath? (d : Declaration) : Option String := d.base.bind TypeExpr.path?

/-- What is known of a type after one more part of it. The first kind that is not a record, the first
    parameter list that is not empty and the first base stand; attributes, fields and methods add up. -/
def absorb (known part : Declaration) : Declaration where
  path := known.path
  kind := if known.kind = .record then part.kind else known.kind
  isAbstract := known.isAbstract || part.isAbstract
  generics := if known.generics.isEmpty then part.generics else known.generics
  base := if known.base.isNone then part.base else known.base
  attributes := known.attributes ++ part.attributes
  fields := known.fields ++ part.fields
  methods := known.methods ++ part.methods

end Declaration

end RouteScribe
