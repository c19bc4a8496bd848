/-
Module: RouteScribe.Dump.JsonSource
Layer: Dump
Purpose: Dumps in JSON. The text is read once from left to right, so of several faults the first one counts,
  be it one of the text or of the shape. A record is an object, whose unknown members are skipped, or a
  list of its fields in their order.
Imports: RouteScribe.Dump.Mismatch, RouteScribe.Dump.Schema, RouteScribe.Json.Document
Trusted boundary: human-reviewed spec
Main exports: JsonFault, declarationsOfJson, attributesOfJson
Open obligations: none
-/
import RouteScribe.Dump.Mismatch
import RouteScribe.Dump.Schema
import RouteScribe.Json.Document

namespace RouteScribe

/-- What is wrong with a JSON text. -/
inductive JsonFault where
  | text (why : Json.Break)
  | shape (why : Mismatch)
deriving DecidableEq, Repr

namespace JsonFault

/-- The text ends too early. -/
def unfinished : JsonFault := .text .unfinished

/-- The text is no JSON. -/
def malformed : JsonFault := .text .malformed

end JsonFault

namespace Json

/-- The number that was found. -/
def Number.found : Number → Found
  | .int i => .int i
  | .float f => .float f

namespace Node

/-- What a node is, for one who wants something else. -/
def found : Node → Except Break Found
  | .broken why => .error why
  | .misspelt why => .error why
  | .null => .ok .null
  | .bool b => .ok (.bool b)
  | .number lexeme => lexeme.read.map Number.found
  | .text lexeme => lexeme.read.map Found.text
  | .list _ _ => .ok .list
  | .object _ _ => .ok .object

/-- The refusal of a node that is not what is wanted. -/
def refuse (node : Node) (wanted : Wanted) : JsonFault :=
  match node.found with
  | .error why => .text why
  | .ok found => .shape (.instead found wanted)

/-- The value of a lexeme. -/
def readLexeme {α : Type} (lexeme : Lexeme α) : Except JsonFault α :=
  match lexeme.read with
  | .error why => .error (.text why)
  | .ok a => .ok a

/-- A text. -/
def readText : Node → Except JsonFault String
  | .text lexeme => readLexeme lexeme
  | node => .error (node.refuse .text)

/-- A truth value. -/
def readBool : Node → Except JsonFault Bool
  | .bool b => .ok b
  | node => .error (node.refuse .bool)

/-- Whether the node is the null value. -/
def isNull : Node → Bool
  | .null => true
  | _ => false

/-!
### Literals
-/

/-- The literal of a number. -/
def literalOfNumber : Number → Literal
  | .int i => .ofInt i
  | .float f => .float f

mutual

/-- The literal that a readable value is. The null value and objects are none. -/
def literal? : Node → Option Literal
  | .bool b => some (.bool b)
  | .number lexeme => lexeme.read.toOption.map literalOfNumber
  | .text lexeme => lexeme.read.toOption.map Literal.text
  | .list _ items => (literals? items).map Literal.list
  | .broken _ => none
  | .misspelt _ => none
  | .null => none
  | .object _ _ => none

/-- The literals that readable items are. -/
def literals? : Items → Option (List Literal)
  | .close => some []
  | .broken _ => none
  | .item value rest =>
    match literal? value with
    | none => none
    | some first => (literals? rest).map (first :: ·)

end

/-- A literal. The whole value is read before it is looked at. -/
def readLiteral (node : Node) : Except JsonFault Literal :=
  match node.unreadable? with
  | some why => .error (.text why)
  | none =>
    match literal? node with
    | some literal => .ok literal
    | none => .error (.shape .noLiteral)

/-!
### Kinds
-/

/-- The kind of a name. -/
def kindOfName (name : String) : Except JsonFault Kind :=
  match Kind.ofName? name with
  | some kind => .ok kind
  | none => .error (.shape (.noKind name))

/-- What stands behind the value of a kind's only member. -/
def endOfKind (kind : Kind) : Members → Except JsonFault Kind
  | .close => .ok kind
  | .broken why => .error (.text why)
  | .member _ _ _ => .error .malformed
  | .cutOff => .error .malformed

/-- A kind: its name, or an object whose only member has that name and no value. -/
def readKind : Node → Except JsonFault Kind
  | .text lexeme =>
    match lexeme.read with
    | .error why => .error (.text why)
    | .ok name => kindOfName name
  | .object level members =>
    if isTooDeep level then .error .malformed
    else
      match members with
      | .close => .error .malformed
      | .broken why => .error (.text why)
      | .cutOff => .error .malformed
      | .member key value rest =>
        match key.read with
        | .error why => .error (.text why)
        | .ok name =>
          match kindOfName name with
          | .error fault => .error fault
          | .ok kind => if value.isNull then endOfKind kind rest else .error (value.refuse .nothing)
  | .broken why => .error (.text why)
  | _ => .error .malformed

/-!
### Lists and records
-/

/-- The items of a list. -/
def readItems {α : Type} (read : Node → Except JsonFault α) : Items → Except JsonFault (List α)
  | .close => .ok []
  | .broken why => .error (.text why)
  | .item value rest =>
    match read value with
    | .error fault => .error fault
    | .ok first => (readItems read rest).map (first :: ·)

/-- A list. -/
def readList {α : Type} (read : Node → Except JsonFault α) : Node → Except JsonFault (List α)
  | .list level items => if isTooDeep level then .error .malformed else readItems read items
  | node => .error (node.refuse .list)

/-- The fields of a record among the members of an object. -/
def readMembers {α : Type} (r : RecordReader Node (Except JsonFault) α) (state : r.State) :
    Members → Except JsonFault r.State
  | .close => .ok state
  | .broken why => .error (.text why)
  | .cutOff => .error .unfinished
  | .member key value rest =>
    match key.read with
    | .error why => .error (.text why)
    | .ok k =>
      if r.keys.contains k then
        if r.isSet state k then .error (.shape (.repeated k))
        else
          match r.set state k value with
          | .error fault => .error fault
          | .ok state => readMembers r state rest
      else
        match value.skip with
        | some why => .error (.text why)
        | none => readMembers r state rest

/-- What stands behind the last field of a record that is given as a list. -/
def endOfFields {α : Type} (a : α) : Items → Except JsonFault α
  | .close => .ok a
  | .broken why => .error (.text why)
  | .item _ _ => .error .malformed

/-- The fields of a record that is given as a list, the first of which has the given keys. -/
def readFields {α : Type} (name : String) (r : RecordReader Node (Except JsonFault) α) (state : r.State)
    (keys : List String) (items : Items) : Except JsonFault r.State :=
  match keys with
  | [] => endOfFields state items
  | key :: keys =>
    match items with
    | .broken why => .error (.text why)
    | .item value rest =>
      match r.set state key value with
      | .error fault => .error fault
      | .ok state => readFields name r state keys rest
    | .close =>
      if r.isRequired key then
        .error (.shape (.tooShort (r.keys.length - keys.length - 1) name r.keys.length))
      else readFields name r state keys .close

/-- A record of a given name. -/
def readRecord {α : Type} (name : String) (r : RecordReader Node (Except JsonFault) α) (node : Node) :
    Except JsonFault α :=
  let state : Except JsonFault r.State := match node with
    | .object level members =>
      if isTooDeep level then .error .malformed else readMembers r r.start members
    | .list level items =>
      if isTooDeep level then .error .malformed else readFields name r r.start r.keys items
    | node => .error (node.refuse (.record name))
  match state with
  | .error fault => .error fault
  | .ok state =>
    match r.finish state with
    | .error key => .error (.shape (.missing key))
    | .ok a => .ok a

end Node

instance : DumpSource Node (Except JsonFault) where
  text := Node.readText
  bool := Node.readBool
  literal := Node.readLiteral
  kind := Node.readKind
  present? node := .ok (if node.isNull then none else some node)
  list := Node.readList
  record := Node.readRecord
  notType why := .error (.shape (.noType why))

end Json

namespace Dump

/-- Read the whole of a JSON text. -/
def ofJson {α : Type} (read : Json.Node → Except JsonFault α) (text : String) : Except JsonFault α :=
  let document := Json.Document.ofText text
  match read document.root with
  | .error fault => .error fault
  | .ok a =>
    match document.trailing with
    | some why => .error (.text why)
    | none => .ok a

end Dump

/-- The declarations of a dump in JSON. -/
def declarationsOfJson (text : String) : Except JsonFault (List Declaration) :=
  Dump.ofJson Dump.readDump text

/-- The attributes of a list in JSON. -/
def attributesOfJson (text : String) : Except JsonFault (List Attribute) :=
  Dump.ofJson Dump.readAttributes text

end RouteScribe
