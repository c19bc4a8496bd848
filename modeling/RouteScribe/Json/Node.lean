/-
Module: RouteScribe.Json.Node
Layer: Json
Purpose: A JSON text as the tree that a reader meets who goes through it once, from left to right. A text that
  is no JSON has a tree too: it ends where nothing more can be read. A reader therefore sees everything
  that stands before the first fault, and whether a fault is met depends on what is read and what is
  skipped.
Imports: RouteScribe.Json.Quotation
Trusted boundary: human-reviewed spec
Main exports: Node, Items, Members, Node.skip, Node.unreadable?, isTooDeep
Open obligations: none
-/
import RouteScribe.Json.Quotation

namespace RouteScribe.Json

mutual

/-- A value. A list or an object knows on which level of nesting it stands, the outermost being one. -/
inductive Node where
  | broken (why : Break)
  /-- A word that starts like the null value or a truth value, and is none. -/
  | misspelt (why : Break)
  | null
  | bool (value : Bool)
  | number (lexeme : Lexeme Number)
  | text (lexeme : Lexeme String)
  | list (level : Nat) (items : Items)
  | object (level : Nat) (members : Members)

/-- The items of a list that are still to be read. -/
inductive Items where
  | close
  | broken (why : Break)
  | item (value : Node) (rest : Items)

/-- The members of an object that are still to be read. -/
inductive Members where
  | close
  | broken (why : Break)
  | member (key : Lexeme String) (value : Node) (rest : Members)
  /-- The text ends behind the comma that promises another member. -/
  | cutOff

end

instance : Inhabited Node := ⟨.null⟩

/-- The level from which on lists and objects are not read any more. -/
def levelLimit : Nat := 128

/-- Whether a list or an object is nested too deeply to be read. -/
def isTooDeep (level : Nat) : Bool := levelLimit ≤ level

mutual

/-- Why a value cannot be skipped, if it cannot. -/
def Node.skip : Node → Option Break
  | .broken why => some why
  | .misspelt why => some why
  | .null => none
  | .bool _ => none
  | .number lexeme => lexeme.skip
  | .text lexeme => lexeme.skip
  | .list _ items => items.skip
  | .object _ members => members.skip

/-- Why the items cannot be skipped, if they cannot. -/
def Items.skip : Items → Option Break
  | .close => none
  | .broken why => some why
  | .item value rest =>
    match value.skip with
    | some why => some why
    | none => rest.skip

/-- Why the members cannot be skipped, if they cannot. -/
def Members.skip : Members → Option Break
  | .close => none
  | .broken why => some why
  | .cutOff => some .unfinished
  | .member key value rest =>
    match key.skip with
    | some why => some why
    | none =>
      match value.skip with
      | some why => some why
      | none => rest.skip

end

/-- Why a lexeme cannot be read, if it cannot. -/
def Lexeme.unreadable? {α : Type} (lexeme : Lexeme α) : Option Break :=
  match lexeme.read with
  | .error why => some why
  | .ok _ => none

mutual

/-- Why a value cannot be read with all its parts, if it cannot. -/
def Node.unreadable? : Node → Option Break
  | .broken why => some why
  | .misspelt why => some why
  | .null => none
  | .bool _ => none
  | .number lexeme => lexeme.unreadable?
  | .text lexeme => lexeme.unreadable?
  | .list level items => if isTooDeep level then some .malformed else items.unreadable?
  | .object level members => if isTooDeep level then some .malformed else members.unreadable?

/-- Why the items cannot be read, if they cannot. -/
def Items.unreadable? : Items → Option Break
  | .close => none
  | .broken why => some why
  | .item value rest =>
    match value.unreadable? with
    | some why => some why
    | none => rest.unreadable?

/-- Why the members cannot be read, if they cannot. -/
def Members.unreadable? : Members → Option Break
  | .close => none
  | .broken why => some why
  | .cutOff => some .unfinished
  | .member key value rest =>
    match key.unreadable? with
    | some why => some why
    | none =>
      match value.unreadable? with
      | some why => some why
      | none => rest.unreadable?

end

end RouteScribe.Json
