/-
Module: RouteScribe.Text.Blank
Layer: Text
Purpose: White space (the Unicode property White_Space) and the trimming of texts.
Imports: RouteScribe.Text.CodeSet
Trusted boundary: the table is data of the Unicode standard
Main exports: isBlank, trim, isBlankText
Open obligations: none
-/
import RouteScribe.Text.CodeSet

namespace RouteScribe.Text

/-- White space of every script. -/
def whiteSpace : CodeSet := ⟨[
  0x9, 0xE, 0x20, 0x21, 0x85, 0x86, 0xA0, 0xA1, 0x1680, 0x1681, 0x2000, 0x200B, 0x2028, 0x202A,
  0x202F, 0x2030, 0x205F, 0x2060, 0x3000, 0x3001]⟩

/-- Whether a character is white space. -/
def isBlank (c : Char) : Bool := whiteSpace.contains c

/-- Drop the leading characters that satisfy `p`. -/
def dropStart (p : Char → Bool) (cs : List Char) : List Char := cs.dropWhile p

/-- Drop the trailing characters that satisfy `p`. -/
def dropEnd (p : Char → Bool) (cs : List Char) : List Char := (cs.reverse.dropWhile p).reverse

/-- What is left does not start with a character that is dropped. -/
theorem head?_dropStart {p : Char → Bool} {cs : List Char} {c : Char}
    (first : (dropStart p cs).head? = some c) : p c = false := by
  have kept := List.head?_dropWhile_not p cs
  rw [← dropStart, first] at kept
  exact kept

/-- What is left does not end in a character that is dropped. -/
theorem getLast?_dropEnd {p : Char → Bool} {cs : List Char} {c : Char}
    (last : (dropEnd p cs).getLast? = some c) : p c = false := by
  rw [dropEnd, List.getLast?_reverse] at last
  exact head?_dropStart last

/-- Dropping characters at the end leaves a text that starts as it did. -/
theorem dropEnd_append (p : Char → Bool) (cs : List Char) : ∃ dropped, cs = dropEnd p cs ++ dropped := by
  refine ⟨(cs.reverse.takeWhile p).reverse, ?_⟩
  rw [dropEnd, ← List.reverse_append, List.takeWhile_append_dropWhile, List.reverse_reverse]

/-- A text without white space at either end. -/
def trim (s : String) : String := String.ofList (dropEnd isBlank (dropStart isBlank s.toList))

/-- Whether a text is empty or all white space. -/
def isBlankText (s : String) : Bool := s.toList.all isBlank

end RouteScribe.Text
