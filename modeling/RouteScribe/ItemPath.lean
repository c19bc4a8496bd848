/-
Module: RouteScribe.ItemPath
Layer: Declarations
Purpose: Paths of items: segments joined by a double colon. A path is kept as its text, since the paths
  of declarations are arbitrary texts.
Imports: none
Trusted boundary: human-reviewed spec
Main exports: separator, lastSegment, isQualified, withoutTrailingSeparators
Open obligations: none
-/

namespace RouteScribe.ItemPath

/-- The separator between two segments. -/
def separator : String := "::"

/-- The characters before the first double colon. -/
def beforeSeparator : List Char → List Char
  | ':' :: ':' :: _ => []
  | c :: cs => c :: beforeSeparator cs
  | [] => []

/-- The text after the last double colon, the whole path when there is none. -/
def lastSegment (path : String) : String :=
  String.ofList (beforeSeparator path.toList.reverse).reverse

/-- Whether a text holds a double colon. -/
def hasSeparator : List Char → Bool
  | ':' :: ':' :: _ => true
  | _ :: cs => hasSeparator cs
  | [] => false

/-- Whether a path has more than one segment. -/
def isQualified (path : String) : Bool := hasSeparator path.toList

/-- Drop every leading double colon. -/
def dropSeparators : List Char → List Char
  | ':' :: ':' :: cs => dropSeparators cs
  | cs => cs

/-- A path without the separators at its end. -/
def withoutTrailingSeparators (path : String) : String :=
  String.ofList (dropSeparators path.toList.reverse).reverse

end RouteScribe.ItemPath
