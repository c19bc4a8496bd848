/-
Module: RouteScribe.RoutePath
Layer: Routes
Purpose: Joining the prefix of a group and the template of a route with exactly one slash. Segments are not
  looked into.
Imports: RouteScribe.Text.Blank
Trusted boundary: human-reviewed spec
Main exports: RoutePath.normalizePrefix, RoutePath.combine, RoutePath.head?_normalizePrefix,
  RoutePath.getLast?_normalizePrefix
Open obligations: none
-/
import RouteScribe.Text.Blank

namespace RouteScribe.RoutePath

/-- Whether a character is a slash. -/
def isSlash (c : Char) : Bool := c == '/'

/-- The prefix of a group without slashes at either end. -/
def normalizePrefix (text : String) : String :=
  String.ofList (Text.dropEnd isSlash (Text.dropStart isSlash text.toList))

/-- The prefix of a group does not end in a slash. -/
theorem getLast?_normalizePrefix (text : String) : (normalizePrefix text).toList.getLast? ≠ some '/' := by
  intro last
  rw [normalizePrefix, String.toList_ofList] at last
  have kept := Text.getLast?_dropEnd last
  simp [isSlash] at kept

/-- The prefix of a group does not start with a slash. -/
theorem head?_normalizePrefix (text : String) : (normalizePrefix text).toList.head? ≠ some '/' := by
  intro first
  rw [normalizePrefix, String.toList_ofList] at first
  obtain ⟨dropped, split⟩ := Text.dropEnd_append isSlash (Text.dropStart isSlash text.toList)
  have start : (Text.dropStart isSlash text.toList).head? = some '/' := by
    rw [split, List.head?_append, first]
    rfl
  have kept := Text.head?_dropStart start
  simp [isSlash] at kept

/-- A group's prefix and a route's template, with one slash between them when both are there. Slashes at
    the start of the template are dropped. -/
def combine (base template : String) : String :=
  let rest := Text.dropStart isSlash template.toList
  if base.isEmpty then String.ofList rest
  else if rest.isEmpty then base
  else base ++ "/" ++ String.ofList rest

end RouteScribe.RoutePath
