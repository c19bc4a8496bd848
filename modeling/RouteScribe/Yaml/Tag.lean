/-
Module: RouteScribe.Yaml.Tag
Layer: Yaml
Purpose: Tags. A percent sign with two digits writes an octet, and the octets have to come in rows that look
  like characters; so the octets of a tag need not make a text. A tag that starts with an exclamation mark is
  one of the document's own, and is known by its name; the standard tags demand a kind of value.
Imports: RouteScribe.Yaml.Cursor
Trusted boundary: human-reviewed spec
Main exports: Tag, Tag.ofText, Tag.append, Tag.standard, Tag.ownName?, octetsOfPercents?
Open obligations: none
-/
import RouteScribe.Yaml.Cursor

namespace RouteScribe.Yaml

/-- A tag, as the octets that it is written with. -/
structure Tag where
  octets : List UInt8
deriving DecidableEq, Repr

namespace Tag

/-- The tag that is written like a text. -/
def ofText (s : String) : Tag := ⟨s.toUTF8.data.toList⟩

/-- The text of a tag, if its octets make one. -/
def text? (t : Tag) : Option String := String.fromUTF8? ⟨t.octets.toArray⟩

/-- A tag with another one behind it. -/
def append (s t : Tag) : Tag := ⟨s.octets ++ t.octets⟩

/-- A tag as far as it reaches: an octet that is zero ends it. -/
def upToZero (t : Tag) : Tag := ⟨t.octets.takeWhile (· ≠ 0)⟩

/-- The exclamation mark that stands by itself. -/
def mark : Tag := ofText "!"

/-- The tag of a kind of value that every document knows. -/
def standard (name : String) : Tag := ofText ("tag:yaml.org,2002:" ++ name)

/-- Whether a tag starts with an exclamation mark. -/
def isOwn (t : Tag) : Bool := mark.octets.isPrefixOf t.octets

/-- The name of a tag of the document's own: what stands behind the exclamation mark, which is a name when
    it stands by itself. It must be a text. -/
def ownName? (t : Tag) : Option String :=
  if t.isOwn then text? ⟨if t = mark then t.octets else t.octets.tail⟩ else none

end Tag

/-!
### Octets written by percent signs
-/

/-- The octet that a percent sign with two digits stands for. -/
def octet? : List Char → Option UInt8
  | '%' :: a :: b :: _ => (hexNumber? [a, b]).map Nat.toUInt8
  | _ => none

/-- The length of the row of octets that starts with a given one. -/
def rowLength? (first : UInt8) : Option Nat :=
  if first < 0x80 then some 1
  else if first < 0xC0 then none
  else if first < 0xE0 then some 2
  else if first < 0xF0 then some 3
  else if first < 0xF8 then some 4
  else none

/-- Whether an octet can stand in a row behind the first one. -/
def goesOn (octet : UInt8) : Bool := 0x80 ≤ octet && octet < 0xC0

/-- The row of octets that are written here by percent signs. -/
def octetsOfPercents? (cs : List Char) : Option (List UInt8) := do
  let first ← octet? cs
  let length ← rowLength? first
  let octets ← (List.range length).mapM fun i => octet? (cs.drop (3 * i))
  if octets.tail.all goesOn then pure octets else none

end RouteScribe.Yaml
