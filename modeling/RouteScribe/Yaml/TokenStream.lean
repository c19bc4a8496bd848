/-
Module: RouteScribe.Yaml.TokenStream
Layer: Yaml
Purpose: A YAML text as a list of tokens. Blocks open and close with the indentation of their items. A word
  turns out to be a key only when a colon follows, so the place where a key may have started is kept, and
  the tokens that open the mapping and the key are put in there.
Imports: RouteScribe.Yaml.ScalarText, RouteScribe.Yaml.Token
Trusted boundary: human-reviewed spec
Main exports: tokensOfText
Open obligations: none
-/
import RouteScribe.Yaml.ScalarText
import RouteScribe.Yaml.Token

namespace RouteScribe.Yaml

/-- A place where a key may have started. -/
structure KeyPlace where
  /-- Whether nothing but a key can stand there. -/
  isRequired : Bool
  /-- The number of tokens before it. -/
  tokenCount : Nat
  start : Cursor

/-- What is known of a text up to a place in it. -/
structure TokenStream where
  cursor : Cursor
  /-- The tokens so far, the last one first. -/
  tokens : List Token := []
  /-- The column of the innermost block, and those of the blocks around it. -/
  indent : Int := -1
  outerIndents : List Int := []
  /-- Whether a key may start here. -/
  isKeyAllowed : Bool := true
  /-- The place where a key may have started in the innermost flow, or outside of all flows. -/
  keyPlace : Option KeyPlace := none
  /-- The same for every flow around it, the innermost one first. -/
  outerKeyPlaces : List (Option KeyPlace) := []

namespace TokenStream

/-- Whether the place is inside brackets or braces. -/
def inFlow (s : TokenStream) : Bool := !s.outerKeyPlaces.isEmpty

/-- Add a token. -/
def push (s : TokenStream) (token : Token) : TokenStream := { s with tokens := token :: s.tokens }

/-- Add a token behind the first `count` ones. -/
def insertAt (s : TokenStream) (count : Nat) (token : Token) : TokenStream :=
  let later := s.tokens.length - count
  { s with tokens := s.tokens.take later ++ token :: s.tokens.drop later }

/-- Add a token of some characters that stand here, after which a key may start or not. -/
def take (s : TokenStream) (token : Token) (width : Nat) (isKeyAllowed : Bool) : TokenStream :=
  { s.push token with cursor := s.cursor.skip width, isKeyAllowed }

/-!
### Indentation
-/

/-- Open a block at a column that lies to the right of the innermost block, its token being put behind the
    first `count` tokens. -/
def openBlock (s : TokenStream) (column : Nat) (count : Nat) (token : Token) : TokenStream :=
  if s.inFlow || (column : Int) ≤ s.indent then s
  else
    { s.insertAt count token with indent := column, outerIndents := s.indent :: s.outerIndents }

/-- Open a block here. -/
def openBlockHere (s : TokenStream) (token : Token) : TokenStream :=
  s.openBlock s.cursor.column s.tokens.length token

/-- The number of the innermost blocks that lie to the right of a column, and the columns of the others. -/
def blocksBeyond (column : Int) (indent : Int) : List Int → Nat × Int × List Int
  | [] => (0, indent, [])
  | outer :: rest =>
    if column < indent then
      let (n, remaining) := blocksBeyond column outer rest
      (n + 1, remaining)
    else (0, indent, outer :: rest)

/-- Close the blocks that lie to the right of a column. -/
def closeBlocks (s : TokenStream) (column : Int) : TokenStream :=
  if s.inFlow then s
  else
    let (n, indent, outerIndents) := blocksBeyond column s.indent s.outerIndents
    { s with tokens := List.replicate n .blockEnd ++ s.tokens, indent, outerIndents }

/-!
### Places of keys
-/

/-- Give up the place where a key may have started. -/
def dropKeyPlace (s : TokenStream) : Except Fault TokenStream :=
  if s.keyPlace.any (·.isRequired) then .error .malformed else .ok { s with keyPlace := none }

/-- Keep this place as one where a key may start, if one may. -/
def saveKeyPlace (s : TokenStream) : Except Fault TokenStream :=
  if s.isKeyAllowed then
    match s.dropKeyPlace with
    | .error why => .error why
    | .ok s =>
      let isRequired := !s.inFlow && s.indent == s.cursor.column
      .ok { s with keyPlace := some ⟨isRequired, s.tokens.length, s.cursor⟩ }
  else .ok s

/-- The longest key, in octets. -/
def keyLimit : Nat := 1024

/-- Whether what starts at a place reaches up to here as a key: it is on the same line, and not too
    long. -/
def reaches (s : TokenStream) (place : KeyPlace) : Bool :=
  place.start.line == s.cursor.line && s.cursor.index ≤ place.start.index + keyLimit

/-- Give up the place of a key that does not reach up to here. -/
def expireKeyPlace (s : TokenStream) : Except Fault TokenStream :=
  match s.keyPlace with
  | none => .ok s
  | some place => if s.reaches place then .ok s else s.dropKeyPlace

/-!
### Blanks and comments
-/

/-- The place of the next token, blanks, comments and empty lines left out. In a block a key may start
    after every line end. -/
def skipGaps : Nat → TokenStream → TokenStream
  | 0, s => s
  | fuel + 1, s =>
    let c := if s.cursor.column == 0 && s.cursor.has 0 '\ufeff' then s.cursor.skip 1 else s.cursor
    let tabs := s.inFlow || !s.isKeyAllowed
    let c := c.skipWhile fun d => d == ' ' || (tabs && d == '\t')
    let c := if c.has 0 '#' then c.skipWhile fun d => !isLineEnd d else c
    if c.hasLineEnd 0 then
      skipGaps fuel { s with cursor := c.skipLine, isKeyAllowed := s.isKeyAllowed || !s.inFlow }
    else { s with cursor := c }

/-!
### Single tokens
-/

/-- A directive. -/
def readDirective (s : TokenStream) : Except Fault TokenStream := do
  let s ← (s.closeBlocks (-1)).dropKeyPlace
  let (token, c) ← scanDirective s.cursor
  pure { s.push token with cursor := c, isKeyAllowed := false }

/-- The start or the end of a document. -/
def readMarker (s : TokenStream) : Except Fault TokenStream := do
  let s ← (s.closeBlocks (-1)).dropKeyPlace
  pure (s.take (if s.cursor.has 0 '-' then .documentStart else .documentEnd) 3 false)

/-- An opening bracket or brace. A key may start with it. -/
def readOpening (token : Token) (s : TokenStream) : Except Fault TokenStream := do
  let s ← s.saveKeyPlace
  let s := { s with keyPlace := none, outerKeyPlaces := s.keyPlace :: s.outerKeyPlaces }
  pure (s.take token 1 true)

/-- A closing bracket or brace. -/
def readClosing (token : Token) (s : TokenStream) : Except Fault TokenStream := do
  let s ← s.dropKeyPlace
  let s := match s.outerKeyPlaces with
    | [] => s
    | keyPlace :: outerKeyPlaces => { s with keyPlace, outerKeyPlaces }
  pure (s.take token 1 false)

/-- A comma in a flow. -/
def readComma (s : TokenStream) : Except Fault TokenStream := do
  let s ← s.dropKeyPlace
  pure (s.take .comma 1 true)

/-- The dash of an item. In a block it opens a list, unless it belongs to one. -/
def readEntry (s : TokenStream) : Except Fault TokenStream := do
  if !s.inFlow && !s.isKeyAllowed then throw .malformed
  let s ← (s.openBlockHere .blockList).dropKeyPlace
  pure (s.take .entry 1 true)

/-- The question mark of a key. In a block it opens a mapping, unless it belongs to one. -/
def readKey (s : TokenStream) : Except Fault TokenStream := do
  if !s.inFlow && !s.isKeyAllowed then throw .malformed
  let s ← (s.openBlockHere .blockMapping).dropKeyPlace
  pure (s.take .key 1 (!s.inFlow))

/-- The colon of a value. It makes what reaches up to it a key. -/
def readValue (s : TokenStream) : Except Fault TokenStream := do
  let s ← s.expireKeyPlace
  match s.keyPlace with
  | some place =>
    let s := s.insertAt place.tokenCount .key
    let s := s.openBlock place.start.column place.tokenCount .blockMapping
    pure ({ s with keyPlace := none }.take .value 1 false)
  | none =>
    if !s.inFlow && !s.isKeyAllowed then throw .malformed
    pure ((s.openBlockHere .blockMapping).take .value 1 (!s.inFlow))

/-- An anchor or an alias. -/
def readName (token : String → Token) (s : TokenStream) : Except Fault TokenStream := do
  let s ← s.saveKeyPlace
  let (name, c) ← scanName s.cursor
  pure { s.push (token name) with cursor := c, isKeyAllowed := false }

/-- A tag. -/
def readTag (s : TokenStream) : Except Fault TokenStream := do
  let s ← s.saveKeyPlace
  let (token, c) ← scanTag s.inFlow s.cursor
  pure { s.push token with cursor := c, isKeyAllowed := false }

/-- A scalar inside quotation marks. -/
def readQuoted (style : Style) (s : TokenStream) : Except Fault TokenStream := do
  let s ← s.saveKeyPlace
  let (text, c) ← scanQuoted (style == .singleQuoted) s.cursor
  pure { s.push (.scalar style text) with cursor := c, isKeyAllowed := false }

/-- A plain scalar. A key may start behind it if that is on another line. -/
def readPlain (s : TokenStream) : Except Fault TokenStream := do
  let s ← s.saveKeyPlace
  let scan ← scanPlain s.inFlow (s.indent + 1) s.cursor
  pure { s.push (.scalar .plain scan.text) with cursor := scan.behind, isKeyAllowed := scan.isBroken }

/-- A block scalar. -/
def readBlockScalar (style : Style) (s : TokenStream) : Except Fault TokenStream := do
  let s ← s.dropKeyPlace
  let (text, c) ← scanBlock (style == .folded) s.indent s.cursor
  pure { s.push (.scalar style text) with cursor := c, isKeyAllowed := true }

/-- The end of the text. -/
def finish (s : TokenStream) : Except Fault (List Token) := do
  let s ← (s.closeBlocks (-1)).dropKeyPlace
  pure s.tokens.reverse

/-- A character that cannot start a plain scalar, whatever follows. -/
def isIndicator (c : Char) : Bool := ",[]\x7b\x7d#&*!|>'\"%@`".toList.contains c

/-- Whether a plain scalar starts with a character here. -/
def startsPlain (s : TokenStream) (d : Char) : Bool :=
  if isBlank d || isLineEnd d || isIndicator d then false
  else if d == '-' then !s.cursor.hasBlank 1
  else if d == '?' || d == ':' then !s.inFlow && !s.cursor.hasGap 1
  else true

/-- The token that starts with a character here. -/
def readToken (s : TokenStream) (d : Char) : Except Fault TokenStream :=
  let gap := s.cursor.hasGap 1
  if s.cursor.column == 0 && d == '%' then s.readDirective
  else if s.cursor.atMarker then s.readMarker
  else if d == '[' then s.readOpening .flowList
  else if d == '\x7b' then s.readOpening .flowMapping
  else if d == ']' then s.readClosing .flowListEnd
  else if d == '\x7d' then s.readClosing .flowMappingEnd
  else if d == ',' then s.readComma
  else if d == '-' && gap then s.readEntry
  else if d == '?' && (s.inFlow || gap) then s.readKey
  else if d == ':' && (s.inFlow || gap) then s.readValue
  else if d == '*' then s.readName .alias
  else if d == '&' then s.readName .anchor
  else if d == '!' then s.readTag
  else if d == '|' && !s.inFlow then s.readBlockScalar .literal
  else if d == '>' && !s.inFlow then s.readBlockScalar .folded
  else if d == '\'' then s.readQuoted .singleQuoted
  else if d == '"' then s.readQuoted .doubleQuoted
  else if s.startsPlain d then s.readPlain
  else .error .malformed

/-- The tokens from here on. -/
def run : Nat → TokenStream → Except Fault (List Token)
  | 0, _ => .error .malformed
  | fuel + 1, s =>
    match (s.skipGaps fuel.succ).expireKeyPlace with
    | .error why => .error why
    | .ok s =>
      let s := s.closeBlocks s.cursor.column
      match s.cursor.at? 0 with
      | none => s.finish
      | some d =>
        match s.readToken d with
        | .error why => .error why
        | .ok s => run fuel s

end TokenStream

/-- The tokens of a text. -/
def tokensOfText (text : String) : Except Fault (List Token) :=
  let cs := text.toList
  if cs.all isAllowed then TokenStream.run (cs.length + 1) { cursor := { rest := cs } }
  else .error .malformed

end RouteScribe.Yaml
