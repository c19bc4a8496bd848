/-
Module: RouteScribe.Yaml.Value
Layer: Yaml
Purpose: The value of a YAML text as a whole. What an alias stands for is part of the value, as often as it is
  mentioned. The keys of a mapping are values of any kind, no two of them the same. A value can be shown as a
  text that names the kind of every part of it.
Imports: RouteScribe.Decimal.Layout, RouteScribe.Text.Quoted, RouteScribe.Yaml.CoreScalar,
  RouteScribe.Yaml.Document
Trusted boundary: human-reviewed spec
Main exports: Value, Value.same, Value.shown, Value.ofText
Open obligations: none
-/
import RouteScribe.Decimal.Layout
import RouteScribe.Text.Quoted
import RouteScribe.Yaml.CoreScalar
import RouteScribe.Yaml.Document

namespace RouteScribe.Yaml

/-- A value. -/
inductive Value where
  | null
  | bool (value : Bool)
  | int (value : Int)
  | float (value : Binary64)
  | text (value : String)
  | list (items : List Value)
  | mapping (members : List (Value × Value))
  | tagged (tag : String) (value : Value)
deriving Inhabited

namespace Value

/-!
### Sameness

Mappings are the same when they have the same members in any order, and zero is the same with either sign.
-/

mutual

/-- Whether two values are the same. -/
def same : Value → Value → Bool
  | .null, .null => true
  | .bool a, .bool b => a == b
  | .int a, .int b => a == b
  | .float a, .float b => a == b || (a.isZero && b.isZero)
  | .text a, .text b => a == b
  | .list a, .list b => sameItems a b
  | .mapping a, .mapping b => a.length == b.length && areAmong b a
  | .tagged s a, .tagged t b => s == t && same a b
  | _, _ => false

/-- Whether two lists have the same items. -/
def sameItems : List Value → List Value → Bool
  | [], [] => true
  | a :: as, b :: bs => same a b && sameItems as bs
  | _, _ => false

/-- Whether every member is the same as one of `others`. -/
def areAmong (others : List (Value × Value)) : List (Value × Value) → Bool
  | [] => true
  | (key, value) :: rest =>
    (others.any fun other => same key other.1 && same value other.2) && areAmong others rest

end

/-!
### Values as texts
-/

/-- Floating-point numbers are written positionally from one hundred-thousandth up to below ten to the
    sixteenth, always with a point there. -/
def numberLayout : Layout := ⟨.toEven, some (-5, 15), true, false, ".inf", "-.inf", ".nan"⟩

/-- A truth value as a word. -/
def boolWord (b : Bool) : String := if b then "true" else "false"

mutual

/-- The text that shows a value. -/
def shown : Value → String
  | .null => "Null"
  | .bool b => "Bool(" ++ boolWord b ++ ")"
  | .int i => "Number(" ++ toString i ++ ")"
  | .float f => "Number(" ++ numberLayout.write f ++ ")"
  | .text s => "String(" ++ Text.quote s ++ ")"
  | .list items => "Sequence [" ++ ", ".intercalate (shownItems items) ++ "]"
  | .mapping members => "Mapping \x7b" ++ ", ".intercalate (shownMembers members) ++ "\x7d"
  | .tagged tag value => "TaggedValue \x7b tag: !" ++ tag ++ ", value: " ++ shown value ++ " \x7d"

/-- The texts of some items. -/
def shownItems : List Value → List String
  | [] => []
  | item :: items => shown item :: shownItems items

/-- The texts of some members. -/
def shownMembers : List (Value × Value) → List String
  | [] => []
  | (key, value) :: rest => (shownKey key ++ ": " ++ shown value) :: shownMembers rest

/-- The text of a key: truth values, numbers and texts stand by themselves. -/
def shownKey : Value → String
  | .bool b => boolWord b
  | .int i => toString i
  | .float f => numberLayout.write f
  | .text s => Text.quote s
  | key => shown key

end

/-!
### Values of nodes
-/

/-- The value of what a scalar stands for. -/
def ofCore : Core → Value
  | .null => .null
  | .bool b => .bool b
  | .int i => .int i
  | .float f => .float f
  | .text s => .text s

/-- The name by which a tag is known: one exclamation mark at its start does not count. -/
def tagName (tag : String) : String :=
  match tag.toList with
  | '!' :: c :: rest => String.ofList (c :: rest)
  | _ => tag

/-- A value with the tag of the document's own that its node has, if it has one. -/
def withTag (tag : Option Tag) (value : Value) : Value :=
  match tag.bind Tag.ownName? with
  | none => value
  | some name => .tagged (tagName name) value

/-- The values of some items, each read as the reader says. -/
def ofItems (read : Node → Following Value) : Items → Following (List Value)
  | .nil => pure []
  | .cons item rest => do
    let first ← read item
    pure (first :: (← ofItems read rest))

/-- The members `done`, and further ones behind them. -/
def ofMembers (read : Node → Following Value) (done : List (Value × Value)) :
    Members → Following (List (Value × Value))
  | .nil => pure done
  | .cons key value rest => do
    let key ← read key
    if done.any fun member => same member.1 key then Following.refuse
    else
      let value ← read value
      ofMembers read (done ++ [(key, value)]) rest

/-- The value of a node inside of which `remaining` collections may be nested. -/
def ofNode (remaining : Nat) (node : Node) : Following Value := do
  match ← Following.settle node, remaining with
  | .void, _ => pure .null
  | .scalar tag style s, _ => do
    let value ← Core.ofScalar tag style s
    pure (withTag tag (ofCore value))
  | .list tag items, inner + 1 => (withTag tag ∘ Value.list) <$> ofItems (ofNode inner) items
  | .mapping tag members, inner + 1 =>
    (withTag tag ∘ Value.mapping) <$> ofMembers (ofNode inner) [] members
  | _, _ => Following.refuse

/-- The value of a text. -/
def ofText (text : String) : Except Fault Value :=
  match Document.ofText text with
  | .error why => .error why
  | .ok document => document.read (ofNode nestingLimit)

end Value

end RouteScribe.Yaml
