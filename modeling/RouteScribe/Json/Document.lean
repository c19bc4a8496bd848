/-
Module: RouteScribe.Json.Document
Layer: Json
Purpose: The tree of a JSON text, and what is wrong behind its value.
Imports: RouteScribe.Json.Node
Trusted boundary: human-reviewed spec
Main exports: Document, Document.ofText
Open obligations: none
-/
import RouteScribe.Json.Node

namespace RouteScribe.Json

/-- The characters that may stand between the parts of a JSON text. -/
def isSpace (c : Char) : Bool := c == ' ' || c == '\n' || c == '\t' || c == '\r'

/-- What is left of a text after at least one of its characters. -/
abbrev Rest (cs : List Char) : Type := { rest : List Char // rest.length < cs.length }

/-- Behind the first character that is no space, the text is shorter. -/
theorem length_behind {cs rest : List Char} {c : Char} (h : cs.dropWhile isSpace = c :: rest) :
    rest.length < cs.length := by
  have := (List.dropWhile_sublist isSpace (l := cs)).length_le
  rw [h, List.length_cons] at this
  omega

/-- What is left of a shorter text is left of the text. -/
def Rest.ofTail {cs tail : List Char} (h : tail.length < cs.length) :
    Except Break (Tail tail) → Except Break (Rest cs)
  | .error why => .error why
  | .ok ⟨rest, h'⟩ => .ok ⟨rest, Nat.lt_of_le_of_lt h' h⟩

/-- What is left of a shorter text is left of the text. -/
def Rest.ofRest {cs tail : List Char} (h : tail.length ≤ cs.length) :
    Except Break (Rest tail) → Except Break (Rest cs)
  | .error why => .error why
  | .ok ⟨rest, h'⟩ => .ok ⟨rest, Nat.lt_of_lt_of_le h' h⟩

/-- What is left behind a number of characters of a shorter text. -/
def Rest.ofDrop {cs tail : List Char} (h : tail.length < cs.length) (n : Nat) : Rest cs :=
  ⟨tail.drop n, by rw [List.length_drop]; omega⟩

/-- What stands in the way of a word, if the text does not go on with it. -/
def wordFault? : List Char → List Char → Option Break
  | [], _ => none
  | _ :: _, [] => some .unfinished
  | w :: ws, c :: cs => if w = c then wordFault? ws cs else some .malformed

/-- The value of a word of which the first letter has been read. -/
def wordValue {cs tail : List Char} (h : tail.length < cs.length) (letters : List Char)
    (value : Node) : Node × Except Break (Rest cs) :=
  match wordFault? letters tail with
  | some why => (.misspelt why, .error why)
  | none => (value, .ok (Rest.ofDrop h letters.length))

/-- The number at the start of a text. A number that is cut short by the end of the text is unfinished
    for a reader and malformed for one who skips it. -/
def numberValue {cs tail : List Char} (h : tail.length < cs.length) (scanned : Except Break Numeral) :
    Node × Except Break (Rest cs) :=
  match scanned with
  | .error why => (.number ⟨.error why, some .malformed⟩, .error .malformed)
  | .ok numeral => (.number ⟨numeral.value, none⟩, .ok (Rest.ofDrop h numeral.width))

mutual

/-- The value at the start of a text that stands inside `level` lists and objects, and what stands
    behind it. -/
def readValue (level : Nat) (cs : List Char) : Node × Except Break (Rest cs) :=
  match found : cs.dropWhile isSpace with
  | [] => (.broken .unfinished, .error .unfinished)
  | c :: tail =>
    have shorter := length_behind found
    if c = '"' then
      let (pieces, left) := scanPieces tail
      (.text pieces.lexeme, Rest.ofTail shorter left)
    else if c = '[' then
      let (items, left) := readItems (level + 1) true tail
      (.list (level + 1) items, Rest.ofRest (Nat.le_of_lt shorter) left)
    else if c = '\x7b' then
      let (members, left) := readMembers (level + 1) true tail
      (.object (level + 1) members, Rest.ofRest (Nat.le_of_lt shorter) left)
    else if c = 'n' then wordValue shorter ['u', 'l', 'l'] .null
    else if c = 't' then wordValue shorter ['r', 'u', 'e'] (.bool true)
    else if c = 'f' then wordValue shorter ['a', 'l', 's', 'e'] (.bool false)
    else if c = '-' then numberValue shorter (Numeral.scan true tail)
    else if c.isDigit then
      match Numeral.scan false (c :: tail) with
      | .error why => numberValue shorter (.error why)
      | .ok numeral => (.number ⟨numeral.value, none⟩, .ok (Rest.ofDrop shorter (numeral.width - 1)))
    else (.broken .malformed, .error .malformed)
termination_by (cs.length, 0)

/-- The items up to the closing bracket, and what stands behind it. -/
def readItems (level : Nat) (first : Bool) (cs : List Char) : Items × Except Break (Rest cs) :=
  match found : cs.dropWhile isSpace with
  | [] => (.broken .unfinished, .error .unfinished)
  | c :: tail =>
    have shorter := length_behind found
    if c = ']' then (.close, .ok ⟨tail, shorter⟩)
    else if first then readItem level cs
    else if c = ',' then
      match tail.dropWhile isSpace with
      | [] => (.item (.broken .unfinished) (.broken .unfinished), .error .unfinished)
      | d :: _ =>
        if d = ']' then (.broken .malformed, .error .malformed)
        else
          let (items, left) := readItem level tail
          (items, Rest.ofRest (Nat.le_of_lt shorter) left)
    else (.broken .malformed, .error .malformed)
termination_by (cs.length, 2)

/-- An item and all items behind it. -/
def readItem (level : Nat) (cs : List Char) : Items × Except Break (Rest cs) :=
  match readValue level cs with
  | (value, .error why) => (.item value (.broken why), .error why)
  | (value, .ok ⟨tail, shorter⟩) =>
    let (items, left) := readItems level false tail
    (.item value items, Rest.ofRest (Nat.le_of_lt shorter) left)
termination_by (cs.length, 1)

/-- The members up to the closing brace, and what stands behind it. -/
def readMembers (level : Nat) (first : Bool) (cs : List Char) : Members × Except Break (Rest cs) :=
  match found : cs.dropWhile isSpace with
  | [] => (.broken .unfinished, .error .unfinished)
  | c :: tail =>
    have shorter := length_behind found
    if c = '\x7d' then (.close, .ok ⟨tail, shorter⟩)
    else if first then readMember level cs
    else if c = ',' then
      match tail.dropWhile isSpace with
      | [] => (.cutOff, .error .unfinished)
      | d :: _ =>
        if d = '\x7d' then (.broken .malformed, .error .malformed)
        else
          let (members, left) := readMember level tail
          (members, Rest.ofRest (Nat.le_of_lt shorter) left)
    else (.broken .malformed, .error .malformed)
termination_by (cs.length, 2)

/-- A member, whose key is a text, and all members behind it. -/
def readMember (level : Nat) (cs : List Char) : Members × Except Break (Rest cs) :=
  match found : cs.dropWhile isSpace with
  | [] => (.broken .unfinished, .error .unfinished)
  | c :: tail =>
    have shorter := length_behind found
    if c = '"' then
      let (pieces, behindKey) := scanPieces tail
      match behindKey with
      | .error why => (.member pieces.lexeme (.broken why) (.broken why), .error why)
      | .ok ⟨behind, notLonger⟩ =>
        match colon : behind.dropWhile isSpace with
        | [] =>
          (.member pieces.lexeme (.broken .unfinished) (.broken .unfinished), .error .unfinished)
        | d :: tail' =>
          have shorter' := length_behind colon
          if d = ':' then
            match readValue level tail' with
            | (value, .error why) => (.member pieces.lexeme value (.broken why), .error why)
            | (value, .ok ⟨tail'', shorter''⟩) =>
              let (members, left) := readMembers level false tail''
              (.member pieces.lexeme value members,
                Rest.ofRest (by omega) left)
          else
            (.member pieces.lexeme (.broken .malformed) (.broken .malformed), .error .malformed)
    else (.broken .malformed, .error .malformed)
termination_by (cs.length, 1)

end

/-- A JSON text: its value, and what is wrong behind it. -/
structure Document where
  root : Node
  trailing : Option Break

namespace Document

/-- The tree of a text. Only space may stand behind the value. -/
def ofText (text : String) : Document :=
  match readValue 0 text.toList with
  | (root, .error why) => ⟨root, some why⟩
  | (root, .ok ⟨rest, _⟩) => ⟨root, if rest.all isSpace then none else some .malformed⟩

end Document

end RouteScribe.Json
