/-
Module: RouteScribe.Yaml.Node
Layer: Yaml
Purpose: The nodes of a YAML text, read from its tokens. What is missing counts as an empty plain scalar. An
  anchor has a number, and an alias keeps the number of the anchor that had its name last; which node has the
  number shows at the end of the text only, so an alias can stand for a node behind it or around it.
Imports: RouteScribe.Yaml.Token
Trusted boundary: human-reviewed spec
Main exports: Node, Items, Members, Document, Reading, Document.ofTokens
Open obligations: none
-/
import RouteScribe.Yaml.Token

namespace RouteScribe.Yaml

mutual

/-- A node of a text. -/
inductive Node where
  /-- The text has no node at all. -/
  | void
  | scalar (tag : Option Tag) (style : Style) (text : String)
  | list (tag : Option Tag) (items : Items)
  | mapping (tag : Option Tag) (members : Members)
  /-- An alias for the node whose anchor has a number. -/
  | alias (number : Nat)

/-- The items of a list. -/
inductive Items where
  | nil
  | cons (item : Node) (rest : Items)

/-- The members of a mapping. -/
inductive Members where
  | nil
  | cons (key value : Node) (rest : Members)

end

instance : Inhabited Node := ⟨.void⟩

/-- The node of something that is missing. -/
def Node.missing : Node := .scalar none .plain ""

mutual

/-- The size of a node: a collection counts twice, once for its start and once for its end, and an alias
    once, whatever it stands for. -/
def Node.size : Node → Nat
  | .void => 1
  | .scalar _ _ _ => 1
  | .list _ items => items.size + 2
  | .mapping _ members => members.size + 2
  | .alias _ => 1

/-- The size of some items. -/
def Items.size : Items → Nat
  | .nil => 0
  | .cons item rest => item.size + rest.size

/-- The size of some members. -/
def Members.size : Members → Nat
  | .nil => 0
  | .cons key value rest => key.size + value.size + rest.size

end

/-- The node of a text, with the marked nodes inside of it. -/
structure Document where
  root : Node
  /-- The marked nodes by the numbers of their anchors. Of two nodes with the same number the first one
      counts, which starts later in the text. -/
  marked : List (Nat × Node)

/-- What is known while nodes are read. -/
structure Pending where
  /-- The tokens that are left. -/
  tokens : List Token
  /-- What the handles of tags stand for. -/
  handles : List (String × Tag) := []
  /-- The numbers of the anchors by their names, each name once. -/
  anchors : List (String × Nat) := []
  /-- The marked nodes in the order in which they start, by the numbers of their anchors. -/
  marked : List (Nat × Node) := []

/-- Reading with what is known at the time. -/
abbrev Reading := StateT Pending (Except Fault)

namespace Reading

/-- Refuse the text. -/
def refuse {α : Type} : Reading α := throw .malformed

/-- The next token. -/
def peek : Reading (Option Token) := do pure (← get).tokens.head?

/-- Pass over the next token. -/
def advance : Reading Unit := modify fun p => { p with tokens := p.tokens.tail }

/-- Whether the next token is one of those given. -/
def isNext (tokens : List Token) : Reading Bool := do
  pure ((← peek).any tokens.contains)

/-- Pass over the next token if it is the one given, and say whether it was. -/
def accept (token : Token) : Reading Bool := do
  if ← isNext [token] then
    advance
    pure true
  else pure false

/-!
### Anchors and tags
-/

/-- The number of the anchor that had a name last. -/
def numberOf (name : String) : Reading Nat := do
  match (← get).anchors.lookup name with
  | some number => pure number
  | none => refuse

/-- Give a number to an anchor: as many as there are names of anchors so far. A name that is used again is
    not counted again, so the next anchor gets the same number. -/
def addAnchor (name : String) : Reading Nat := do
  let anchors := (← get).anchors
  let number := anchors.length
  modify fun p => { p with anchors := (name, number) :: anchors.filter (·.1 ≠ name) }
  pure number

/-- Read a node, which is marked from its start on if it has an anchor. -/
def marked (anchor : Option String) (read : Reading Node) : Reading Node := do
  match anchor with
  | none => read
  | some name =>
    let number ← addAnchor name
    let place := (← get).marked.length
    modify fun p => { p with marked := p.marked ++ [(number, .missing)] }
    let node ← read
    modify fun p => { p with marked := p.marked.set place (number, node) }
    pure node

/-- What a tag stands for. -/
def expandTag (handle : Option String) (suffix : Tag) : Reading Tag := do
  match handle with
  | none => pure suffix
  | some handle =>
    match (← get).handles.lookup handle with
    | some meaning => pure (meaning.append suffix)
    | none => refuse

/-- The anchor that stands here, if there is one. -/
def readAnchor : Reading (Option String) := do
  match ← peek with
  | some (.anchor name) =>
    advance
    pure (some name)
  | _ => pure none

/-- The tag that stands here, if there is one. -/
def readTag : Reading (Option Tag) := do
  match ← peek with
  | some (.tag handle suffix) =>
    advance
    some <$> expandTag handle suffix
  | _ => pure none

/-- What stands in front of a node: an anchor, a tag, or both in any order. -/
def readProperties : Reading (Option String × Option Tag) := do
  match ← readAnchor with
  | some name => pure (some name, ← readTag)
  | none =>
    let tag ← readTag
    let anchor ← if tag.isSome then readAnchor else pure none
    pure (anchor, tag)

/-!
### Nodes
-/

/-- Where a node stands. In the first two places blocks can stand, in the second one also a list that is
    not indented. -/
inductive Place where
  | block
  | member
  | flow
deriving DecidableEq

mutual

/-- The node that starts here. -/
def readNode (place : Place) : Nat → Reading Node
  | 0 => refuse
  | fuel + 1 => do
    match ← peek with
    | some (.alias name) =>
      advance
      Node.alias <$> numberOf name
    | _ =>
      let (anchor, tag) ← readProperties
      match ← peek, place with
      | some .entry, .member => marked anchor (do pure (.list tag (← readLooseItems fuel)))
      | some (.scalar style text), _ =>
        advance
        marked anchor (pure (.scalar tag style text))
      | some .flowList, _ =>
        advance
        marked anchor (do pure (.list tag (← readFlowItems true fuel)))
      | some .flowMapping, _ =>
        advance
        marked anchor (do pure (.mapping tag (← readFlowMembers true fuel)))
      | token, place =>
        if token = some .blockList ∧ place ≠ .flow then
          advance
          marked anchor (do pure (.list tag (← readBlockItems fuel)))
        else if token = some .blockMapping ∧ place ≠ .flow then
          advance
          marked anchor (do pure (.mapping tag (← readBlockMembers fuel)))
        else if anchor.isSome || tag.isSome then
          marked anchor (pure (.scalar tag .plain ""))
        else refuse

/-- The node that starts here, unless a token follows before which it is missing. -/
def readNodeUnless (ends : List Token) (place : Place) : Nat → Reading Node
  | 0 => refuse
  | fuel + 1 => do
    if ← isNext ends then pure .missing else readNode place fuel

/-- The items of an indented list. -/
def readBlockItems : Nat → Reading Items
  | 0 => refuse
  | fuel + 1 => do
    if ← accept .entry then
      let item ← readNodeUnless [.entry, .blockEnd] .block fuel
      pure (.cons item (← readBlockItems fuel))
    else if ← accept .blockEnd then pure .nil
    else refuse

/-- The items of a list that is not indented. -/
def readLooseItems : Nat → Reading Items
  | 0 => refuse
  | fuel + 1 => do
    if ← accept .entry then
      let item ← readNodeUnless [.entry, .key, .value, .blockEnd] .block fuel
      pure (.cons item (← readLooseItems fuel))
    else pure .nil

/-- The members of an indented mapping. -/
def readBlockMembers : Nat → Reading Members
  | 0 => refuse
  | fuel + 1 => do
    if ← accept .key then
      let key ← readNodeUnless [.key, .value, .blockEnd] .member fuel
      let value ← if ← accept .value then
          readNodeUnless [.key, .value, .blockEnd] .member fuel
        else pure .missing
      pure (.cons key value (← readBlockMembers fuel))
    else if ← accept .blockEnd then pure .nil
    else refuse

/-- The items of a list in brackets. A key that stands among them makes a mapping of one member. -/
def readFlowItems (isFirst : Bool) : Nat → Reading Items
  | 0 => refuse
  | fuel + 1 => do
    if ← accept .flowListEnd then pure .nil
    else
      if !isFirst && !(← accept .comma) then refuse
      else if ← accept .key then
        let item ← readSingleMember fuel
        pure (.cons item (← readFlowItems false fuel))
      else if ← accept .flowListEnd then pure .nil
      else
        let item ← readNode .flow fuel
        pure (.cons item (← readFlowItems false fuel))

/-- The mapping of one member whose key starts here. The token before which the key is missing is passed
    over. -/
def readSingleMember : Nat → Reading Node
  | 0 => refuse
  | fuel + 1 => do
    let key ← if ← isNext [.value, .comma, .flowListEnd] then
        advance
        pure .missing
      else readNode .flow fuel
    let value ← if ← accept .value then readNodeUnless [.comma, .flowListEnd] .flow fuel
      else pure .missing
    pure (.mapping none (.cons key value .nil))

/-- The members of a mapping in braces. -/
def readFlowMembers (isFirst : Bool) : Nat → Reading Members
  | 0 => refuse
  | fuel + 1 => do
    if ← accept .flowMappingEnd then pure .nil
    else
      if !isFirst && !(← accept .comma) then refuse
      else if ← accept .key then
        let key ← readNodeUnless [.value, .comma, .flowMappingEnd] .flow fuel
        let value ← if ← accept .value then readNodeUnless [.comma, .flowMappingEnd] .flow fuel
          else pure .missing
        pure (.cons key value (← readFlowMembers false fuel))
      else if ← accept .flowMappingEnd then pure .nil
      else
        let key ← readNode .flow fuel
        pure (.cons key .missing (← readFlowMembers false fuel))

end

/-!
### Documents
-/

/-- The handles that every document knows. -/
def standardHandles : List (String × Tag) := [("!", Tag.mark), ("!!", Tag.standard "")]

/-- Read the directives of a document: at most one version, which is known, and no handle twice. -/
def readDirectives (hasVersion : Bool) : Nat → Reading Unit
  | 0 => refuse
  | fuel + 1 => do
    match ← peek with
    | some (.version major minor) =>
      if hasVersion || major ≠ 1 || !(minor = 1 || minor = 2) then refuse
      advance
      readDirectives true fuel
    | some (.tagHandle handle meaning) =>
      if ((← get).handles.lookup handle).isSome then refuse
      modify fun p => { p with handles := p.handles ++ [(handle, meaning)] }
      advance
      readDirectives hasVersion fuel
    | _ => pure ()

/-- Whether a token can start an explicit document. -/
def isDirective : Token → Bool
  | .version _ _ => true
  | .tagHandle _ _ => true
  | .documentStart => true
  | _ => false

/-- The node of the document that starts here. -/
def readDocument (fuel : Nat) : Reading Node := do
  let isExplicit := (← peek).any isDirective
  if isExplicit then
    readDirectives false fuel
    if !(← accept .documentStart) then refuse
  modify fun p => { p with handles := p.handles ++ standardHandles }
  match ← peek with
  | none => pure .missing
  | some token =>
    if isExplicit && (isDirective token || token = .documentEnd) then pure .missing
    else readNode .block fuel

/-- The node of a text of at most one document. -/
def readStream (fuel : Nat) : Reading Document := do
  if (← peek).isNone then pure ⟨.void, []⟩
  else
    let root ← readDocument fuel
    let p ← get
    if p.tokens.all (· = .documentEnd) then pure ⟨root, p.marked.reverse⟩ else refuse

end Reading

/-- The document whose tokens are given. -/
def Document.ofTokens (tokens : List Token) : Except Fault Document :=
  (Reading.readStream (2 * tokens.length + 4)).run' { tokens }

end RouteScribe.Yaml
