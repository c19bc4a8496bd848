/-
Module: RouteScribe.Json.Quotation
Layer: Json
Purpose: Texts in a JSON text. What stands between the quotation marks is a row of pieces: plain characters,
  escaped ones, and code units of 16 bits given by four hexadecimal digits. A reader who wants the text
  needs the code units to form characters; one who skips it does not.
Imports: RouteScribe.Json.Numeral
Trusted boundary: human-reviewed spec
Main exports: Lexeme, Pieces, Pieces.text, Pieces.lexeme, scanPieces
Open obligations: none
-/
import RouteScribe.Json.Numeral

namespace RouteScribe.Json

/-- A number or a text, for a reader who wants its value and for one who skips it. -/
structure Lexeme (α : Type) where
  /-- The value, or why there is none. -/
  read : Except Break α
  /-- Why it cannot be skipped, if it cannot. -/
  skip : Option Break

/-- What stands behind an opening quotation mark. -/
inductive Pieces where
  | close
  | broken (why : Break)
  | char (c : Char) (rest : Pieces)
  | unit (code : Nat) (rest : Pieces)
deriving Repr

namespace Pieces

/-- Why the pieces do not end in a quotation mark, if they do not. -/
def skip : Pieces → Option Break
  | .close => none
  | .broken why => some why
  | .char _ rest => rest.skip
  | .unit _ rest => rest.skip

/-- Whether a code unit is the first one of a pair. -/
def isLeading (code : Nat) : Bool := 0xD800 ≤ code && code < 0xDC00

/-- Whether a code unit is the second one of a pair. -/
def isTrailing (code : Nat) : Bool := 0xDC00 ≤ code && code < 0xE000

/-- The character of a pair of code units. -/
def pairChar (leading trailing : Nat) : Char :=
  Char.ofNat ((leading - 0xD800) * 0x400 + (trailing - 0xDC00) + 0x10000)

/-- The characters that the pieces stand for. A code unit of a pair without the other one is refused. -/
def chars : Pieces → Except Break (List Char)
  | .close => .ok []
  | .broken why => .error why
  | .char c rest => (rest.chars).map (c :: ·)
  | .unit code rest =>
    if isTrailing code then .error .malformed
    else if isLeading code then
      match rest with
      | .unit second rest =>
        if isTrailing second then (rest.chars).map (pairChar code second :: ·)
        else .error .malformed
      | .broken why => .error why
      | _ => .error .malformed
    else (rest.chars).map (Char.ofNat code :: ·)

/-- The text that the pieces stand for. -/
def text (p : Pieces) : Except Break String := p.chars.map String.ofList

/-- The pieces as a lexeme. -/
def lexeme (p : Pieces) : Lexeme String := ⟨p.text, p.skip⟩

end Pieces

/-- The value of a hexadecimal digit. -/
def hexValue? (c : Char) : Option Nat :=
  if '0' ≤ c ∧ c ≤ '9' then some (c.toNat - '0'.toNat)
  else if 'a' ≤ c ∧ c ≤ 'f' then some (c.toNat - 'a'.toNat + 10)
  else if 'A' ≤ c ∧ c ≤ 'F' then some (c.toNat - 'A'.toNat + 10)
  else none

/-- The number of four hexadecimal digits. -/
def hexNumber? (a b c d : Char) : Option Nat := do
  let a ← hexValue? a
  let b ← hexValue? b
  let c ← hexValue? c
  let d ← hexValue? d
  pure (((a * 16 + b) * 16 + c) * 16 + d)

/-- The character that a letter behind a backslash stands for. -/
def escapedChar? : Char → Option Char
  | '"' => some '"'
  | '\\' => some '\\'
  | '/' => some '/'
  | 'b' => some '\x08'
  | 'f' => some '\x0c'
  | 'n' => some '\n'
  | 'r' => some '\r'
  | 't' => some '\t'
  | _ => none

/-- What is left of a text, no longer than the text. -/
abbrev Tail (cs : List Char) : Type := { rest : List Char // rest.length ≤ cs.length }

/-- The end of a text is also an end of a longer one. -/
def Tail.behind {cs rest : List Char} (h : rest.length ≤ cs.length) :
    Except Break (Tail rest) → Except Break (Tail cs)
  | .error why => .error why
  | .ok ⟨left, h'⟩ => .ok ⟨left, Nat.le_trans h' h⟩

/-- Four digits are wanted and fewer than four bytes are left. -/
def endsInDigits (cs : List Char) : Bool := (String.ofList cs).utf8ByteSize < 4

/-- The pieces up to the closing quotation mark, and what stands behind it. -/
def scanPieces : (cs : List Char) → Pieces × Except Break (Tail cs)
  | [] => (.broken .unfinished, .error .unfinished)
  | '"' :: cs => (.close, .ok ⟨cs, Nat.le_succ _⟩)
  | '\\' :: [] => (.broken .unfinished, .error .unfinished)
  | '\\' :: 'u' :: cs =>
    match cs with
    | a :: b :: c :: d :: cs =>
      match hexNumber? a b c d with
      | none => (.broken .malformed, .error .malformed)
      | some code =>
        let (rest, left) := scanPieces cs
        (.unit code rest, Tail.behind (by simp only [List.length_cons]; omega) left)
    | cs =>
      let why := if endsInDigits cs then Break.unfinished else Break.malformed
      (.broken why, .error why)
  | '\\' :: c :: cs =>
    match escapedChar? c with
    | none => (.broken .malformed, .error .malformed)
    | some c =>
      let (rest, left) := scanPieces cs
      (.char c rest, Tail.behind (by simp only [List.length_cons]; omega) left)
  | c :: cs =>
    if c.toNat < 0x20 then (.broken .malformed, .error .malformed)
    else
      let (rest, left) := scanPieces cs
      (.char c rest, Tail.behind (by simp only [List.length_cons]; omega) left)

end RouteScribe.Json
