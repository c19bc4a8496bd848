/-
Module: RouteScribe.Yaml.Document
Layer: Yaml
Purpose: The document of a YAML text, and how its aliases are followed. A node can stand in a document many times
  over, or even inside of itself; who reads it may follow only so many aliases, and go only so deep.
Imports: RouteScribe.Yaml.Node, RouteScribe.Yaml.TokenStream
Trusted boundary: human-reviewed spec
Main exports: Document.ofText, Following, Following.settle, Document.read, nestingLimit
Open obligations: none
-/
import RouteScribe.Yaml.Node
import RouteScribe.Yaml.TokenStream

namespace RouteScribe.Yaml

/-- The document of a text, which must be YAML as a whole and hold one document at most. -/
def Document.ofText (text : String) : Except Fault Document :=
  match tokensOfText text with
  | .error why => .error why
  | .ok tokens => Document.ofTokens tokens

/-- The number of collections that may be nested inside each other. -/
def nestingLimit : Nat := 128

/-!
### Aliases
-/

/-- What is known to one who follows the aliases of a document. -/
structure Trail where
  /-- The marked nodes by the numbers of their anchors. -/
  marked : List (Nat × Node)
  /-- How many more aliases may be followed. -/
  left : Nat

/-- Reading a document along its aliases. -/
abbrev Following := StateT Trail (Except Fault)

namespace Following

/-- Refuse the document for its shape. -/
def refuse {α : Type} : Following α := throw .wrongShape

/-- The node that a node stands for: an alias is followed. -/
def settle : Node → Following Node
  | .alias number => do
    let trail ← get
    match trail.left, trail.marked.lookup number with
    | left + 1, some node =>
      set { trail with left }
      pure node
    | _, _ => refuse
  | node => pure node

end Following

/-- A hundred times its size is how many aliases of a document may be followed. -/
def Document.followLimit (d : Document) : Nat := 100 * d.root.size

/-- Read a document from its root on. -/
def Document.read {α : Type} (d : Document) (reader : Node → Following α) : Except Fault α :=
  (reader d.root).run' ⟨d.marked, d.followLimit⟩

end RouteScribe.Yaml
