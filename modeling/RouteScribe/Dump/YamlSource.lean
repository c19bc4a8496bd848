/-
Module: RouteScribe.Dump.YamlSource
Layer: Dump
Purpose: Dumps in YAML. A scalar that is read as a text keeps its text, whatever it stands for. What is missing
  counts as a list or a record without any items or fields.
Imports: RouteScribe.Dump.Schema, RouteScribe.Yaml.CoreScalar, RouteScribe.Yaml.Document
Trusted boundary: human-reviewed spec
Main exports: declarationsOfYaml
Open obligations: none
-/
import RouteScribe.Dump.Schema
import RouteScribe.Yaml.CoreScalar
import RouteScribe.Yaml.Document

namespace RouteScribe.Yaml

/-- A node that stands inside of some collections. -/
structure Nested where
  node : Node
  /-- How many more collections may be nested here. -/
  remaining : Nat

/-- Whether a node is missing, or there is no document. -/
def Node.isMissing : Node → Bool
  | .void => true
  | .scalar _ style text => style == .plain && text.isEmpty
  | _ => false

namespace Nested

/-- A text. -/
def readText (n : Nested) : Following String := do
  match ← Following.settle n.node with
  | .scalar _ _ text => pure text
  | _ => Following.refuse

/-- Whether a scalar may be read as a value that the tag demands: it is plain, or a literal block with
    that tag. -/
def isReadAs (name : String) (tag : Option Tag) (style : Style) : Bool :=
  style == .plain || (style == .literal && tag == some (Tag.standard name))

/-- A truth value. -/
def readBool (n : Nested) : Following Bool := do
  match ← Following.settle n.node with
  | .scalar tag style text =>
    match boolOfWord? text with
    | some b => if isReadAs "bool" tag style then pure b else Following.refuse
    | none => Following.refuse
  | _ => Following.refuse

/-- The node to be read, unless it says that there is no value. -/
def present? (n : Nested) : Following (Option Nested) := do
  let node ← Following.settle n.node
  let present := some { n with node }
  match node with
  | .void => pure none
  | .scalar tag .plain text =>
    if tag = some (Tag.standard "null") then
      if isNullWord text then pure none else Following.refuse
    else pure (if tag.isNone && (text.isEmpty || isNullWord text) then none else present)
  | _ => pure present

/-!
### Lists and records
-/

/-- The items of a list. -/
def readItems {α : Type} (read : Nested → Following α) (remaining : Nat) : Items → Following (List α)
  | .nil => pure []
  | .cons item rest => do
    let first ← read ⟨item, remaining⟩
    pure (first :: (← readItems read remaining rest))

/-- A list. -/
def readList {α : Type} (read : Nested → Following α) (n : Nested) : Following (List α) := do
  match ← Following.settle n.node, n.remaining with
  | .list _ items, inner + 1 => readItems read inner items
  | node, _ => if node.isMissing then pure [] else Following.refuse

/-- The fields of a record among the members of a mapping. What is not a field is passed over. -/
def readMembers {α : Type} (r : RecordReader Nested Following α) (remaining : Nat)
    (state : r.State) : Members → Following r.State
  | .nil => pure state
  | .cons key value rest => do
    let key ← readText ⟨key, remaining⟩
    if !r.keys.contains key then readMembers r remaining state rest
    else if r.isSet state key then Following.refuse
    else
      let state ← r.set state key ⟨value, remaining⟩
      readMembers r remaining state rest

/-- A record. Its name does not count. -/
def readRecord {α : Type} (_name : String) (r : RecordReader Nested Following α) (n : Nested) :
    Following α := do
  let state ← match ← Following.settle n.node, n.remaining with
    | .mapping _ members, inner + 1 => readMembers r inner r.start members
    | node, _ => if node.isMissing then pure r.start else Following.refuse
  match r.finish state with
  | .error _ => Following.refuse
  | .ok a => pure a

/-!
### Literals and kinds
-/

/-- The literal of a value. The null value is none. -/
def literalOfCore : Core → Following Literal
  | .null => Following.refuse
  | .bool b => pure (.bool b)
  | .int i => pure (.ofInt i)
  | .float f => pure (.float f)
  | .text s => pure (.text s)

/-- The literal of a node inside of which `remaining` collections may be nested. A node with a tag of the
    document's own is none. -/
def literalOf (remaining : Nat) (node : Node) : Following Literal := do
  match ← Following.settle node, remaining with
  | .scalar tag style text, _ =>
    if (tag.bind Tag.ownName?).isSome then Following.refuse
    else literalOfCore (← Core.ofScalar tag style text)
  | .list tag items, inner + 1 =>
    if (tag.bind Tag.ownName?).isSome then Following.refuse
    else Literal.list <$> readItems (fun item => literalOf inner item.node) inner items
  | _, _ => Following.refuse

/-- A literal. -/
def readLiteral (n : Nested) : Following Literal := literalOf n.remaining n.node

/-- The kind of a name. -/
def kindOfName (name : String) : Following Kind :=
  match Kind.ofName? name with
  | some kind => pure kind
  | none => Following.refuse

/-- A kind: its name, or its name as a tag without any value. -/
def readKind (n : Nested) : Following Kind := do
  match ← Following.settle n.node with
  | .scalar tag style text =>
    match tag.bind Tag.ownName? with
    | none => kindOfName text
    | some name =>
      if style = .plain ∧ (text.isEmpty ∨ isNullWord text) then kindOfName name
      else Following.refuse
  | _ => Following.refuse

end Nested

instance : DumpSource Nested Following where
  text := Nested.readText
  bool := Nested.readBool
  literal := Nested.readLiteral
  kind := Nested.readKind
  present? := Nested.present?
  list := Nested.readList
  record := Nested.readRecord
  notType _ := Following.refuse

end RouteScribe.Yaml

namespace RouteScribe

/-- The declarations of a dump in YAML. -/
def declarationsOfYaml (text : String) : Except Yaml.Fault (List Declaration) :=
  match Yaml.Document.ofText text with
  | .error why => .error why
  | .ok document => document.read fun root => Dump.readDump (Yaml.Nested.mk root Yaml.nestingLimit)

end RouteScribe
