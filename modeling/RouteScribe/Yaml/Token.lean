/-
Module: RouteScribe.Yaml.Token
Layer: Yaml
Purpose: The tokens of a YAML text, and how those are read that stand for themselves: names of anchors, tags
  and directives.
Imports: RouteScribe.Yaml.Tag
Trusted boundary: human-reviewed spec
Main exports: Style, Token, scanName, scanTag, scanDirective
Open obligations: none
-/
import RouteScribe.Yaml.Tag

namespace RouteScribe.Yaml

/-- How a scalar is written. -/
inductive Style where
  | plain
  | singleQuoted
  | doubleQuoted
  | literal
  | folded
deriving DecidableEq, Repr

/-- A token. Blocks are opened and closed by the indentation of the text, flows by brackets and
    braces. -/
inductive Token where
  /-- The directive that names the version of the format. -/
  | version (major minor : Nat)
  /-- The directive that says what a handle of tags stands for. -/
  | tagHandle (handle : String) (meaning : Tag)
  | documentStart
  | documentEnd
  | blockList
  | blockMapping
  | blockEnd
  | flowList
  | flowListEnd
  | flowMapping
  | flowMappingEnd
  | entry
  | comma
  | key
  | value
  | alias (name : String)
  | anchor (name : String)
  /-- A tag; without a handle it stands for itself. -/
  | tag (handle : Option String) (suffix : Tag)
  | scalar (style : Style) (text : String)
deriving DecidableEq, Repr

/-!
### Names of anchors
-/

/-- A character that may stand directly behind the name of an anchor. -/
def endsName (c : Char) : Bool := "?:,]\x7d%@`".toList.contains c

/-- The name behind the sign of an anchor or an alias that stands here. -/
def scanName (c : Cursor) : Except Fault (String × Cursor) :=
  let name := (c.rest.drop 1).takeWhile isNameChar
  let c := c.skip (name.length + 1)
  if name.isEmpty || !(c.hasGap 0 || (c.at? 0).any endsName) then .error .malformed
  else .ok (String.ofList name, c)

/-!
### Tags
-/

/-- A character of a tag. Commas and brackets count only between angle brackets. -/
def isTagChar (bracketed : Bool) (c : Char) : Bool :=
  isNameChar c || ";/?:@&=+$.%!~*'()".toList.contains c || (bracketed && ",[]".toList.contains c)

/-- The octets of a tag from here on, as far as they reach. `done` holds those before in reverse. -/
def scanTagOctets (bracketed : Bool) :
    Nat → Cursor → List UInt8 → Except Fault (List UInt8 × Cursor)
  | 0, c, done => .ok (done.reverse, c)
  | fuel + 1, c, done =>
    match c.at? 0 with
    | none => .ok (done.reverse, c)
    | some d =>
      if d == '%' then
        match octetsOfPercents? c.rest with
        | none => .error .malformed
        | some octets =>
          scanTagOctets bracketed fuel (c.skip (3 * octets.length)) (octets.reverse ++ done)
      else if isTagChar bracketed d then
        scanTagOctets bracketed fuel (c.skip 1) (d.toNat.toUInt8 :: done)
      else .ok (done.reverse, c)

/-- The tag that is written here. There must be an octet, be it one that is zero. -/
def scanTagText (bracketed : Bool) (c : Cursor) : Except Fault (Tag × Cursor) :=
  match scanTagOctets bracketed c.rest.length c [] with
  | .error why => .error why
  | .ok (octets, d) => if octets.isEmpty then .error .malformed else .ok (Tag.upToZero ⟨octets⟩, d)

/-- The exclamation mark that stands here, with the name behind it, and with the exclamation mark behind
    the name if there is one. -/
def handleAt (c : Cursor) : List Char :=
  let name := (c.rest.drop 1).takeWhile isNameChar
  '!' :: name ++ (if c.has (name.length + 1) '!' then ['!'] else [])

/-- Whether a handle is more than a single exclamation mark and ends in one. -/
def isWholeHandle (handle : List Char) : Bool :=
  2 ≤ handle.length && handle.getLast? == some '!'

/-- The tag that starts here. A lone exclamation mark is a tag of its own. -/
def scanTag (inFlow : Bool) (c : Cursor) : Except Fault (Token × Cursor) :=
  let handle := handleAt c
  let tag : Except Fault (Token × Cursor) :=
    if c.has 1 '<' then
      match scanTagText true (c.skip 2) with
      | .error why => .error why
      | .ok (tag, d) => if d.has 0 '>' then .ok (.tag none tag, d.skip 1) else .error .malformed
    else
      let behind := c.skip handle.length
      if isWholeHandle handle then
        match scanTagText false behind with
        | .error why => .error why
        | .ok (tag, d) => .ok (.tag (some (String.ofList handle)) tag, d)
      else
        let start := Tag.ofText (String.ofList handle.tail)
        match scanTagOctets false c.rest.length behind start.octets.reverse with
        | .error why => .error why
        | .ok (octets, d) =>
          let tag := Tag.upToZero ⟨octets⟩
          .ok (if tag.octets.isEmpty then .tag none Tag.mark else .tag (some "!") tag, d)
  match tag with
  | .error why => .error why
  | .ok (token, d) =>
    if d.hasGap 0 || (inFlow && d.has 0 ',') then .ok (token, d) else .error .malformed

/-!
### Directives
-/

/-- The number that is written here, with at most nine digits. -/
def scanNumber (c : Cursor) : Except Fault (Nat × Cursor) :=
  let digits := c.rest.takeWhile Char.isDigit
  if digits.isEmpty || 9 < digits.length then .error .malformed
  else .ok (digits.foldl (fun n d => n * 10 + (d.toNat - '0'.toNat)) 0, c.skip digits.length)

/-- The version of the format that is written here. -/
def scanVersion (c : Cursor) : Except Fault (Token × Cursor) :=
  match scanNumber c with
  | .error why => .error why
  | .ok (major, c) =>
    if !c.has 0 '.' then .error .malformed
    else
      match scanNumber (c.skip 1) with
      | .error why => .error why
      | .ok (minor, c) => .ok (.version major minor, c)

/-- The handle that is written here, with its meaning. -/
def scanTagHandle (c : Cursor) : Except Fault (Token × Cursor) :=
  let handle := handleAt c
  let behind := c.skip handle.length
  if !c.has 0 '!' || !(handle == ['!'] || isWholeHandle handle) || !behind.hasBlank 0 then
    .error .malformed
  else
    match scanTagText true (behind.skipWhile isBlank) with
    | .error why => .error why
    | .ok (meaning, d) =>
      if d.hasGap 0 then .ok (.tagHandle (String.ofList handle) meaning, d) else .error .malformed

/-- The directive that starts here, together with its line. -/
def scanDirective (c : Cursor) : Except Fault (Token × Cursor) :=
  let name := (c.rest.drop 1).takeWhile isNameChar
  let c := c.skip (name.length + 1)
  let value := c.skipWhile isBlank
  let directive :=
    if !c.hasGap 0 then .error .malformed
    else if name = "YAML".toList then scanVersion value
    else if name = "TAG".toList then scanTagHandle value
    else .error .malformed
  match directive with
  | .error why => .error why
  | .ok (token, c) =>
    let c := c.skipWhile isBlank
    let c := if c.has 0 '#' then c.skipWhile fun d => !isLineEnd d else c
    if c.rest.isEmpty then .ok (token, c)
    else if c.hasLineEnd 0 then .ok (token, c.skipLine)
    else .error .malformed

end RouteScribe.Yaml
