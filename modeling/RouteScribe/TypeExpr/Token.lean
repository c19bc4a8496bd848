/-
Module: RouteScribe.TypeExpr.Token
Layer: Declarations
Purpose: The tokens of a type's text, each with the byte at which it starts. White space may stand
  before every token and inside none; identifiers are as long as possible; the pairs `()` and `::` are
  single tokens, and half of one is a stray character like any other that starts no token.
Imports: RouteScribe.Text.Blank, RouteScribe.Text.Letters
Trusted boundary: human-reviewed spec
Main exports: Token, Lexemes, Lexemes.offset, Lexemes.size, Lexemes.ofText
Open obligations: none
-/
import RouteScribe.Text.Blank
import RouteScribe.Text.Letters

namespace RouteScribe.TypeExpr

open RouteScribe.Text

/-- A token of a type's text. -/
inductive Token where
  | bang
  | emptyTuple
  | dollar
  | openBracket
  | closeBracket
  | openAngle
  | closeAngle
  | comma
  | separator
  | ident (name : String)
  | stray (c : Char)
deriving DecidableEq, Repr

/-- The tokens of a text with the bytes at which they start, and the number of bytes of the text. -/
inductive Lexemes where
  | stop (offset : Nat)
  | token (token : Token) (offset : Nat) (rest : Lexemes)
deriving DecidableEq, Repr

namespace Lexemes

/-- The byte at which the next token starts; at the end, the number of bytes of the whole text. -/
def offset : Lexemes → Nat
  | .stop offset => offset
  | .token _ offset _ => offset

/-- The number of tokens. -/
def size : Lexemes → Nat
  | .stop _ => 0
  | .token _ _ rest => rest.size + 1

end Lexemes

/-- The number of bytes of a text in UTF-8. -/
def byteCount : List Char → Nat
  | [] => 0
  | c :: cs => c.utf8Size + byteCount cs

/-- The token of one character that is no blank, starts no pair and no identifier. -/
def tokenOfChar : Char → Token
  | '!' => .bang
  | '$' => .dollar
  | '[' => .openBracket
  | ']' => .closeBracket
  | '<' => .openAngle
  | '>' => .closeAngle
  | ',' => .comma
  | c => .stray c

/-- The tokens of a text whose first character stands at byte `offset`. -/
def lexemesFrom (offset : Nat) : List Char → Lexemes
  | [] => .stop offset
  | '(' :: ')' :: cs => .token .emptyTuple offset (lexemesFrom (offset + 2) cs)
  | ':' :: ':' :: cs => .token .separator offset (lexemesFrom (offset + 2) cs)
  | c :: cs =>
    if isBlank c then lexemesFrom (offset + c.utf8Size) cs
    else if isIdentChar c then
      let name := c :: cs.takeWhile isIdentChar
      .token (.ident (String.ofList name)) offset
        (lexemesFrom (offset + byteCount name) (cs.dropWhile isIdentChar))
    else .token (tokenOfChar c) offset (lexemesFrom (offset + c.utf8Size) cs)
termination_by cs => cs.length
decreasing_by
  all_goals simp_wf
  all_goals first
    | omega
    | have h := (List.dropWhile_sublist (l := cs) isIdentChar).length_le
      omega

/-- The tokens of a text. -/
def Lexemes.ofText (text : String) : Lexemes := lexemesFrom 0 text.toList

end RouteScribe.TypeExpr
