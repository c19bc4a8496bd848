/-
Module: RouteScribe.Yaml.ScalarText
Layer: Yaml
Purpose: The texts of scalars. Inside quotation marks and in plain scalars a gap between two words counts as
  written when it stands on one line; over a line end it becomes a space, and over empty lines their
  line ends. A block scalar keeps its lines, or folds them, and its last line ends as its header says.
Imports: RouteScribe.Yaml.Cursor
Trusted boundary: human-reviewed spec
Main exports: Gap, scanQuoted, PlainScan, scanPlain, scanBlock
Open obligations: none
-/
import RouteScribe.Yaml.Cursor

namespace RouteScribe.Yaml

/-!
### Gaps
-/

/-- What stands between two words of a scalar. -/
structure Gap where
  /-- Blanks on the line of the first word. -/
  blanks : List Char := []
  /-- The end of that line. -/
  firstEnd : List Char := []
  /-- The ends of the empty lines after it. -/
  furtherEnds : List Char := []
  /-- Whether the second word stands on another line. -/
  isBroken : Bool := false
deriving Repr

namespace Gap

/-- The gap behind a line end that does not count. -/
def afterEscapedEnd : Gap := { isBroken := true }

/-- What the gap counts as. -/
def text (g : Gap) : List Char :=
  if !g.isBroken then g.blanks
  else if g.firstEnd == ['\n'] then (if g.furtherEnds.isEmpty then [' '] else g.furtherEnds)
  else g.firstEnd ++ g.furtherEnds

end Gap

/-- Go on with a gap as far as it reaches. With `indent` given, a tabulator must not stand left of that
    column at the start of a line. -/
def scanGap (indent : Option Int) : Nat → Gap → Cursor → Except Fault (Gap × Cursor)
  | 0, g, c => .ok (g, c)
  | fuel + 1, g, c =>
    match c.at? 0 with
    | none => .ok (g, c)
    | some d =>
      if isBlank d then
        if g.isBroken && d == '\t' && indent.any fun n => (c.column : Int) < n then .error .malformed
        else if g.isBroken then scanGap indent fuel g (c.skip 1)
        else scanGap indent fuel { g with blanks := g.blanks ++ [d] } (c.skip 1)
      else if isLineEnd d then
        let g := if g.isBroken then { g with furtherEnds := g.furtherEnds ++ c.lineEndText }
          else { g with blanks := [], firstEnd := c.lineEndText, isBroken := true }
        scanGap indent fuel g c.skipLine
      else .ok (g, c)

/-!
### Quotation marks
-/

/-- The character of a code point, which must not be half of a pair. -/
def charOfCode? (n : Nat) : Option Char := if h : n.isValidChar then some (.ofNatAux n h) else none

/-- The character that a letter behind a backslash stands for. -/
def escapedChar? : Char → Option Char
  | '0' => some '\x00'
  | 'a' => some '\x07'
  | 'b' => some '\x08'
  | 't' => some '\t'
  | '\t' => some '\t'
  | 'n' => some '\n'
  | 'v' => some '\x0b'
  | 'f' => some '\x0c'
  | 'r' => some '\r'
  | 'e' => some '\x1b'
  | ' ' => some ' '
  | '"' => some '"'
  | '/' => some '/'
  | '\\' => some '\\'
  | 'N' => some '\u0085'
  | '_' => some '\u00a0'
  | 'L' => some '\u2028'
  | 'P' => some '\u2029'
  | _ => none

/-- How many hexadecimal digits follow a letter behind a backslash. -/
def codeLength? : Char → Option Nat
  | 'x' => some 2
  | 'u' => some 4
  | 'U' => some 8
  | _ => none

/-- What a backslash here stands for, together with what follows it. -/
def scanEscape (c : Cursor) : Except Fault (Char × Cursor) :=
  match c.at? 1 with
  | none => .error .malformed
  | some letter =>
    match escapedChar? letter, codeLength? letter with
    | some d, _ => .ok (d, c.skip 2)
    | none, some n =>
      let digits := (c.rest.drop 2).take n
      match hexNumber? digits with
      | none => .error .malformed
      | some code =>
        match charOfCode? code with
        | some d => if digits.length = n then .ok (d, c.skip (n + 2)) else .error .malformed
        | none => .error .malformed
    | none, none => .error .malformed

/-- The text from here up to the closing quotation mark, and the place behind it. `done` holds the
    characters before in reverse. -/
def quotedFrom (single : Bool) : Nat → Cursor → List Char → Except Fault (String × Cursor)
  | 0, _, _ => .error .malformed
  | fuel + 1, c, done =>
    match c.at? 0 with
    | none => .error .malformed
    | some d =>
      if c.atMarker then .error .malformed
      else if isBlank d || isLineEnd d then
        match scanGap none fuel.succ {} c with
        | .error why => .error why
        | .ok (g, c) => quotedFrom single fuel c (g.text.reverse ++ done)
      else if single then
        if d == '\'' then
          if c.has 1 '\'' then quotedFrom single fuel (c.skip 2) ('\'' :: done)
          else .ok (String.ofList done.reverse, c.skip 1)
        else quotedFrom single fuel (c.skip 1) (d :: done)
      else if d == '"' then .ok (String.ofList done.reverse, c.skip 1)
      else if d == '\\' then
        if c.hasLineEnd 1 then
          match scanGap none fuel.succ .afterEscapedEnd (c.skip 1).skipLine with
          | .error why => .error why
          | .ok (g, c) => quotedFrom single fuel c (g.text.reverse ++ done)
        else
          match scanEscape c with
          | .error why => .error why
          | .ok (e, c) => quotedFrom single fuel c (e :: done)
      else quotedFrom single fuel (c.skip 1) (d :: done)

/-- The text of a scalar whose opening quotation mark stands here, and the place behind it. -/
def scanQuoted (single : Bool) (c : Cursor) : Except Fault (String × Cursor) :=
  quotedFrom single c.rest.length (c.skip 1) []

/-!
### Plain scalars
-/

/-- A plain scalar: its text, the place behind it, and whether that is on another line than its last
    word. -/
structure PlainScan where
  text : String
  behind : Cursor
  isBroken : Bool

/-- An indicator of lists and objects inside brackets and braces. -/
def isFlowIndicator (c : Char) : Bool :=
  c == ',' || c == '[' || c == ']' || c == '\x7b' || c == '\x7d'

/-- The characters from here up to the end of a word of a plain scalar, in reverse. -/
def scanWord (inFlow : Bool) : Nat → Cursor → List Char → Except Fault (List Char × Cursor)
  | 0, c, word => .ok (word, c)
  | fuel + 1, c, word =>
    match c.at? 0 with
    | none => .ok (word, c)
    | some d =>
      if isBlank d || isLineEnd d then .ok (word, c)
      else if inFlow && d == ':' && (c.at? 1).any fun e => isFlowIndicator e || e == '?' then
        .error .malformed
      else if (d == ':' && c.hasGap 1) || (inFlow && isFlowIndicator d) then .ok (word, c)
      else scanWord inFlow fuel (c.skip 1) (d :: word)

/-- A plain scalar from here on, behind a gap. -/
def plainFrom (inFlow : Bool) (indent : Int) :
    Nat → Cursor → List Char → Gap → Except Fault PlainScan
  | 0, c, done, g => .ok ⟨String.ofList done.reverse, c, g.isBroken⟩
  | fuel + 1, c, done, g =>
    if c.atMarker || c.has 0 '#' then .ok ⟨String.ofList done.reverse, c, g.isBroken⟩
    else
      match scanWord inFlow fuel.succ c [] with
      | .error why => .error why
      | .ok (word, c) =>
        let done := if word.isEmpty then done else word ++ (g.text.reverse ++ done)
        let g := if word.isEmpty then g else {}
        if !(c.hasBlank 0 || c.hasLineEnd 0) then
          .ok ⟨String.ofList done.reverse, c, g.isBroken⟩
        else
          match scanGap (some indent) fuel.succ g c with
          | .error why => .error why
          | .ok (g, c) =>
            if !inFlow && (c.column : Int) < indent then
              .ok ⟨String.ofList done.reverse, c, g.isBroken⟩
            else plainFrom inFlow indent fuel c done g

/-- The plain scalar that starts here. Its further lines stand at least at the column `indent`. -/
def scanPlain (inFlow : Bool) (indent : Int) (c : Cursor) : Except Fault PlainScan :=
  plainFrom inFlow indent (c.rest.length + 1) c [] {}

/-!
### Block scalars
-/

/-- What becomes of the line ends at the end of a block scalar. -/
inductive Chomp where
  | strip
  | clip
  | keep
deriving DecidableEq, Repr

/-- The header of a block scalar. -/
structure BlockHeader where
  chomp : Chomp := .clip
  /-- How much deeper than its surroundings the text stands, if that is given. -/
  deeper : Option Nat := none

/-- The sign that says what becomes of the last line ends. -/
def chompOfChar? : Char → Option Chomp
  | '+' => some .keep
  | '-' => some .strip
  | _ => none

/-- The header behind the indicator of a block scalar: a sign and a digit, in any order. -/
def scanHeader (c : Cursor) : Except Fault (BlockHeader × Cursor) :=
  let sign (c : Cursor) : Option Chomp := (c.at? 0).bind chompOfChar?
  let digit (c : Cursor) : Option Nat := ((c.at? 0).filter Char.isDigit).map fun d =>
    d.toNat - '0'.toNat
  let checked (h : BlockHeader) (c : Cursor) : Except Fault (BlockHeader × Cursor) :=
    if h.deeper = some 0 then .error .malformed else .ok (h, c)
  match sign c, digit c with
  | some chomp, _ =>
    match digit (c.skip 1) with
    | some n => checked ⟨chomp, some n⟩ (c.skip 2)
    | none => .ok (⟨chomp, none⟩, c.skip 1)
  | none, some n =>
    match sign (c.skip 1) with
    | some chomp => checked ⟨chomp, some n⟩ (c.skip 2)
    | none => checked ⟨.clip, some n⟩ (c.skip 1)
  | none, none => .ok ({}, c)

/-- What stands before the next line with text: the line ends, the greatest column that was reached, and
    the place. A tabulator must not stand in place of a space that counts. -/
def scanEmptyLines (indent : Option Nat) :
    Nat → Cursor → Nat → List Char → Except Fault (List Char × Nat × Cursor)
  | 0, c, greatest, ends => .ok (ends, greatest, c)
  | fuel + 1, c, greatest, ends =>
    let spaces := (c.rest.takeWhile (· == ' ')).length
    let c := c.skip (match indent with
      | none => spaces
      | some n => min spaces (n - c.column))
    let greatest := max greatest c.column
    if c.has 0 '\t' && indent.all fun n => c.column < n then .error .malformed
    else if c.hasLineEnd 0 then
      scanEmptyLines indent fuel c.skipLine greatest (ends ++ c.lineEndText)
    else .ok (ends, greatest, c)

/-- The lines of a block scalar from here on. `lineEnd` is the end of the last line, `empty` the ends of
    the empty lines behind it, and `wasBlank` says whether that line started with a blank. -/
def blockLines (folded : Bool) (indent : Nat) :
    Nat → Cursor → List Char → (lineEnd empty : List Char) → (wasBlank : Bool) →
    Except Fault (List Char × List Char × List Char × Cursor)
  | 0, c, done, lineEnd, empty, _ => .ok (done, lineEnd, empty, c)
  | fuel + 1, c, done, lineEnd, empty, wasBlank =>
    if c.column ≠ indent ∨ c.rest.isEmpty then .ok (done, lineEnd, empty, c)
    else
      let isBlankLine := c.hasBlank 0
      let joint :=
        if folded && lineEnd == ['\n'] && !wasBlank && !isBlankLine then
          (if empty.isEmpty then [' '] else [])
        else lineEnd
      let line := c.rest.takeWhile fun d => !isLineEnd d
      let done := done ++ joint ++ empty ++ line
      let c := c.skip line.length
      match scanEmptyLines (some indent) fuel.succ c.skipLine 0 [] with
      | .error why => .error why
      | .ok (empty, _, next) =>
        blockLines folded indent fuel next done c.lineEndText empty isBlankLine

/-- The text of a block scalar whose indicator stands here, inside a block at the column `surrounding`,
    and the place behind it. -/
def scanBlock (folded : Bool) (surrounding : Int) (c : Cursor) : Except Fault (String × Cursor) :=
  match scanHeader (c.skip 1) with
  | .error why => .error why
  | .ok (header, c) =>
    let c := c.skipWhile isBlank
    let c := if c.has 0 '#' then c.skipWhile fun d => !isLineEnd d else c
    if !(c.rest.isEmpty || c.hasLineEnd 0) then .error .malformed
    else
      let c := c.skipLine
      let given := header.deeper.map fun n => (max surrounding 0).toNat + n
      match scanEmptyLines given (c.rest.length + 1) c 0 [] with
      | .error why => .error why
      | .ok (empty, greatest, c) =>
        let indent := given.getD (max greatest (max (surrounding + 1) 1).toNat)
        match blockLines folded indent (c.rest.length + 1) c [] [] empty false with
        | .error why => .error why
        | .ok (done, lineEnd, empty, c) =>
          let tail := match header.chomp with
            | .strip => []
            | .clip => lineEnd
            | .keep => lineEnd ++ empty
          .ok (String.ofList (done ++ tail), c)

end RouteScribe.Yaml
