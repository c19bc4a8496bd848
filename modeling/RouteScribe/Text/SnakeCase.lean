/-
Module: RouteScribe.Text.SnakeCase
Layer: Text
Purpose: Names in lower case with underscores between their words.
Imports: RouteScribe.Text.LetterCase
Trusted boundary: human-reviewed spec
Main exports: snakeCase
Open obligations: none
-/
import RouteScribe.Text.LetterCase

namespace RouteScribe.Text

/-- Write a name behind what is written so far, of which `last` is the last character. An upper-case
    letter gets an underscore in front, unless one is there or nothing is. -/
def snakeFrom (last : Option Char) : List Char → List Char
  | [] => []
  | c :: cs =>
    if isUpper c then
      let gap := match last with
        | none => []
        | some '_' => []
        | some _ => ['_']
      let small := lower c
      gap ++ small ++ snakeFrom small.getLast? cs
    else c :: snakeFrom (some c) cs

/-- A name in lower case with an underscore before each of its words but the first. -/
def snakeCase (name : String) : String := String.ofList (snakeFrom none name.toList)

end RouteScribe.Text
