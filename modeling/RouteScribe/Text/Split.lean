/-
Module: RouteScribe.Text.Split
Layer: Text
Purpose: Texts cut into parts at every occurrence of a character.
Imports: none
Trusted boundary: human-reviewed spec
Main exports: splitAt, parts
Open obligations: none
-/

namespace RouteScribe.Text

/-- The parts of a text between the occurrences of a character; always at least one. -/
def splitAt (separator : Char) : List Char → List (List Char)
  | [] => [[]]
  | c :: cs =>
    if c = separator then [] :: splitAt separator cs
    else
      match splitAt separator cs with
      | [] => [[c]]
      | part :: parts => (c :: part) :: parts

/-- The parts of a text between the occurrences of a character. -/
def parts (separator : Char) (s : String) : List String :=
  (splitAt separator s.toList).map String.ofList

end RouteScribe.Text
