/-
Module: RouteScribe.Dump.Schema
Layer: Dump
Purpose: The contents of a declaration dump, in whatever format it is written. A format says how texts, truth
  values, literals, lists and records are read from its nodes; which records there are, and with which
  fields, is the same for all formats.
Imports: RouteScribe.Declaration, RouteScribe.Dump.RecordReader, RouteScribe.TypeExpr.Reader
Trusted boundary: human-reviewed spec
Main exports: DumpSource, readAttributes, readDeclaration, readDump
Open obligations: none
-/
import RouteScribe.Declaration
import RouteScribe.Dump.RecordReader
import RouteScribe.TypeExpr.Reader

namespace RouteScribe

/-- How the nodes of a format are read, in a monad of its own. -/
class DumpSource (ν : Type) (m : outParam (Type → Type)) where
  text : ν → m String
  bool : ν → m Bool
  literal : ν → m Literal
  kind : ν → m Kind
  /-- The node to be read where a value need not be there; none if the node says that there is no value. -/
  present? : ν → m (Option ν)
  list : {α : Type} → (ν → m α) → ν → m (List α)
  /-- The record of a given name. -/
  record : {α : Type} → String → RecordReader ν m α → ν → m α
  /-- Refuse a text that is no type. -/
  notType : {α : Type} → TypeExpr.ParseError → m α

namespace Dump

variable {ν : Type} {m : Type → Type} [Monad m] [DumpSource ν m]

/-- A type, given by its text. -/
def readType (node : ν) : m TypeExpr := do
  match TypeExpr.parse (← DumpSource.text node) with
  | .error why => DumpSource.notType ν why
  | .ok type => pure type

/-- A type that need not be there. -/
def readOptionalType (node : ν) : m (Option TypeExpr) := do
  match ← DumpSource.present? node with
  | none => pure none
  | some node => some <$> readType node

/-- An argument given by name. -/
def readNamedLiteral : ν → m NamedLiteral :=
  DumpSource.record "NamedArg" <|
    (RecordReader.pure NamedLiteral.mk)
      |>.and (.required "name" DumpSource.text)
      |>.and (.required "value" DumpSource.literal)

/-- An attribute. -/
def readAttribute : ν → m Attribute :=
  DumpSource.record "AttributeUsage" <|
    (RecordReader.pure Attribute.mk)
      |>.and (.required "name" DumpSource.text)
      |>.and (.optional "args" [] (DumpSource.list DumpSource.literal))
      |>.and (.optional "named" [] (DumpSource.list readNamedLiteral))

/-- A list of attributes. -/
def readAttributes : ν → m (List Attribute) := DumpSource.list readAttribute

/-- A field. -/
def readField : ν → m Field :=
  DumpSource.record "FieldDecl" <|
    (RecordReader.pure Field.mk)
      |>.and (.required "name" DumpSource.text)
      |>.and (.required "type" readType)
      |>.and (.optional "public" true DumpSource.bool)
      |>.and (.optional "readable" true DumpSource.bool)
      |>.and (.optional "attributes" [] readAttributes)

/-- A parameter. -/
def readParameter : ν → m Parameter :=
  DumpSource.record "ParamDecl" <|
    (RecordReader.pure Parameter.mk)
      |>.and (.required "name" DumpSource.text)
      |>.and (.required "type" readType)
      |>.and (.optional "attributes" [] readAttributes)

/-- A method. -/
def readMethod : ν → m Method :=
  DumpSource.record "MethodDecl" <|
    (RecordReader.pure Method.mk)
      |>.and (.required "name" DumpSource.text)
      |>.and (.optional "public" true DumpSource.bool)
      |>.and (.optional "static" false DumpSource.bool)
      |>.and (.optional "async" false DumpSource.bool)
      |>.and (.optional "params" [] (DumpSource.list readParameter))
      |>.and (.optional "returns" none readOptionalType)
      |>.and (.optional "attributes" [] readAttributes)

/-- A declaration. -/
def readDeclaration : ν → m Declaration :=
  DumpSource.record "TypeDecl" <|
    (RecordReader.pure Declaration.mk)
      |>.and (.required "path" DumpSource.text)
      |>.and (.optional "kind" .record DumpSource.kind)
      |>.and (.optional "abstract" false DumpSource.bool)
      |>.and (.optional "generics" [] (DumpSource.list DumpSource.text))
      |>.and (.optional "base" none readOptionalType)
      |>.and (.optional "attributes" [] readAttributes)
      |>.and (.optional "fields" [] (DumpSource.list readField))
      |>.and (.optional "methods" [] (DumpSource.list readMethod))

/-- A dump: a record with the list of the declarations. -/
def readDump : ν → m (List Declaration) :=
  DumpSource.record "ProgramDump" <|
    (RecordReader.pure id)
      |>.and (.optional "types" [] (DumpSource.list readDeclaration))

end Dump

end RouteScribe
