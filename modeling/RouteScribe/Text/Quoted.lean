/-
Module: RouteScribe.Text.Quoted
Layer: Text
Purpose: Text in quotation marks. Tabulators, line ends, the null character, quotation marks and backslashes
  are written with a backslash and a letter or themselves; every other character without a visible
  form of its own is written by its code point in hexadecimal digits between braces.
Imports: RouteScribe.Text.Visible
Trusted boundary: human-reviewed spec
Main exports: Quoted.escape, Quoted.encode, quote
Open obligations: none
-/
import RouteScribe.Text.Visible

namespace RouteScribe.Text

namespace Quoted

/-- A character by its code point. -/
def byCodePoint (c : Char) : List Char :=
  '\\' :: 'u' :: '\x7b' :: (Nat.toDigits 16 c.toNat ++ ['\x7d'])

/-- The written form of one character. -/
def escape (c : Char) : List Char :=
  if c = '\x00' then ['\\', '0']
  else if c = '\t' then ['\\', 't']
  else if c = '\n' then ['\\', 'n']
  else if c = '\r' then ['\\', 'r']
  else if c = '"' then ['\\', '"']
  else if c = '\\' then ['\\', '\\']
  else if isVisible c then [c]
  else byCodePoint c

/-- The written form of a text, without the quotation marks around it. -/
def encode (cs : List Char) : List Char := cs.flatMap escape

end Quoted

/-- A text in quotation marks. -/
def quote (s : String) : String := String.ofList ('"' :: (Quoted.encode s.toList ++ ['"']))

end RouteScribe.Text
