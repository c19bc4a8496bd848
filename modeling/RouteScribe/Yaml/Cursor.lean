/-
Module: RouteScribe.Yaml.Cursor
Layer: Yaml
Purpose: A place in a YAML text: what is left of the text, and the line and the column, which decide about
  nesting. A carriage return with a line feed behind it ends one line.
Imports: none
Trusted boundary: human-reviewed spec
Main exports: Fault, Cursor, isBlank, isLineEnd, Cursor.skip, Cursor.skipLine, Cursor.atMarker
Open obligations: none
-/

namespace RouteScribe.Yaml

/-- Why a text is refused. -/
inductive Fault where
  /-- The text is no YAML, or more than one document. -/
  | malformed
  /-- The document does not have the shape that is wanted. -/
  | wrongShape
deriving DecidableEq, Repr

/-- A space or a tabulator. -/
def isBlank (c : Char) : Bool := c == ' ' || c == '\t'

/-- A character that ends a line. -/
def isLineEnd (c : Char) : Bool :=
  c == '\n' || c == '\r' || c == '\u0085' || c == '\u2028' || c == '\u2029'

/-- A letter or digit of a name. -/
def isNameChar (c : Char) : Bool := c.isAlphanum || c == '_' || c == '-'

/-- The value of a hexadecimal digit. -/
def hexValue? (c : Char) : Option Nat :=
  if c.isDigit then some (c.toNat - '0'.toNat)
  else if 'a' ≤ c ∧ c ≤ 'f' then some (c.toNat - 'a'.toNat + 10)
  else if 'A' ≤ c ∧ c ≤ 'F' then some (c.toNat - 'A'.toNat + 10)
  else none

/-- The number of a row of hexadecimal digits. -/
def hexNumber? (digits : List Char) : Option Nat :=
  digits.foldl (fun n d => do pure ((← n) * 16 + (← hexValue? d))) (some 0)

/-- A character that may stand in a text at all. -/
def isAllowed (c : Char) : Bool :=
  let n := c.toNat
  n == 0x9 || n == 0xA || n == 0xD || (0x20 ≤ n && n ≤ 0x7E) || n == 0x85 ||
    (0xA0 ≤ n && n ≤ 0xFFFD) || 0x10000 ≤ n

/-- A place in a text. -/
structure Cursor where
  /-- What is left of the text. -/
  rest : List Char
  /-- The number of octets before. -/
  index : Nat := 0
  line : Nat := 0
  column : Nat := 0
deriving Repr

namespace Cursor

/-- The character at a distance. -/
def at? (c : Cursor) (n : Nat) : Option Char := c.rest[n]?

/-- Whether the character at a distance is a given one. -/
def has (c : Cursor) (n : Nat) (wanted : Char) : Bool := c.at? n == some wanted

/-- Whether the character at a distance is a blank. -/
def hasBlank (c : Cursor) (n : Nat) : Bool := (c.at? n).any isBlank

/-- Whether a line ends at a distance. -/
def hasLineEnd (c : Cursor) (n : Nat) : Bool := (c.at? n).any isLineEnd

/-- Whether no word goes on at a distance: there is a blank, or the line or the text ends. -/
def hasGap (c : Cursor) (n : Nat) : Bool := (c.at? n).all fun d => isBlank d || isLineEnd d

/-- The number of octets of some characters. -/
def octetCount (cs : List Char) : Nat := cs.foldl (fun n c => n + c.utf8Size) 0

/-- The place behind some characters of the same line. A column counts characters. -/
def skip (c : Cursor) (n : Nat) : Cursor :=
  { rest := c.rest.drop n
    index := c.index + octetCount (c.rest.take n)
    line := c.line
    column := c.column + n }

/-- The place behind all characters from here on that satisfy `p`. -/
def skipWhile (p : Char → Bool) (c : Cursor) : Cursor := c.skip (c.rest.takeWhile p).length

/-- The place behind the end of a line. -/
def skipLine (c : Cursor) : Cursor :=
  match c.rest with
  | '\r' :: '\n' :: rest => { rest, index := c.index + 2, line := c.line + 1, column := 0 }
  | d :: rest => { rest, index := c.index + d.utf8Size, line := c.line + 1, column := 0 }
  | [] => c

/-- The end of a line as it counts in a text: a line feed, unless it is a separator of lines or
    paragraphs. -/
def lineEndText (c : Cursor) : List Char :=
  match c.rest with
  | '\u2028' :: _ => ['\u2028']
  | '\u2029' :: _ => ['\u2029']
  | [] => []
  | _ :: _ => ['\n']

/-- Whether three equal characters stand here by themselves. -/
def hasTriple (c : Cursor) (mark : Char) : Bool :=
  c.has 0 mark && c.has 1 mark && c.has 2 mark && c.hasGap 3

/-- Whether a line starts here with the marker of the start or the end of a document. -/
def atMarker (c : Cursor) : Bool := c.column == 0 && (c.hasTriple '-' || c.hasTriple '.')

end Cursor

end RouteScribe.Yaml
