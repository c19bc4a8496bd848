/-
Module: RouteScribe.UseBlock
Layer: Artifacts
Purpose: The items that an artifact brings into scope, and the names under which it may write them. The first
  item of a last segment is imported and written by that segment; any other item of the same last
  segment is written by its full path. Paths of one segment are never imported, and neither are items
  whose last segment is a name that every file has in scope.
Imports: RouteScribe.ItemPath, RouteScribe.TypeExpr
Trusted boundary: human-reviewed spec
Main exports: UseBlock, UseBlock.nameOf, UseBlock.spell, UseBlock.lines, UseBlock.text
Open obligations: none
-/
import RouteScribe.ItemPath
import RouteScribe.TypeExpr

namespace RouteScribe

/-- The imported items, by their paths, in the order in which they were first written. -/
structure UseBlock where
  imported : List String := []
deriving DecidableEq, Repr, Inhabited

namespace UseBlock

/-- The block without imports. -/
def empty : UseBlock := {}

/-- Names that are in scope everywhere and are left to their usual meaning. -/
def reservedNames : List String :=
  ["Box", "Option", "Result", "String", "Vec", "Some", "None", "Ok", "Err"]

/-- The imported item of a last segment. -/
def itemNamed? (b : UseBlock) (short : String) : Option String :=
  b.imported.find? (ItemPath.lastSegment · == short)

/-- The name under which to write an item, and the block in which that name is right. -/
def nameOf (b : UseBlock) (path : String) : String × UseBlock :=
  if !ItemPath.isQualified path then (path, b)
  else
    let short := ItemPath.lastSegment path
    if reservedNames.contains short then (path, b)
    else
      match b.itemNamed? short with
      | some item => (if item = path then short else path, b)
      | none => (short, ⟨b.imported ++ [path]⟩)

mutual

/-- A type written with the names of the block. A placeholder is written by its name, and a type that
    could not be resolved is left open. -/
def spell (b : UseBlock) : TypeExpr → String × UseBlock
  | .named path [] => b.nameOf path
  | .named path (arg :: args) =>
    let (name, b) := b.nameOf path
    let (first, b) := b.spell arg
    let (rest, b) := b.spellArgs args
    (name ++ "<" ++ first ++ rest ++ ">", b)
  | .array element =>
    let (inner, b) := b.spell element
    ("Vec<" ++ inner ++ ">", b)
  | .optional element =>
    let (inner, b) := b.spell element
    ("Option<" ++ inner ++ ">", b)
  | .param name => (name, b)
  | .unresolved => ("_", b)

/-- The arguments after the first one, each behind a comma. -/
def spellArgs (b : UseBlock) : List TypeExpr → String × UseBlock
  | [] => ("", b)
  | arg :: args =>
    let (first, b) := b.spell arg
    let (rest, b) := b.spellArgs args
    (", " ++ first ++ rest, b)

end

/-- Whether nothing is imported. -/
def isEmpty (b : UseBlock) : Bool := b.imported.isEmpty

/-- The imported paths in their order. -/
def lines (b : UseBlock) : List String := b.imported.mergeSort (· ≤ ·)

/-- The imports as they stand in an artifact, one to a line. -/
def text (b : UseBlock) : String :=
  String.join (b.lines.map fun path => "use " ++ path ++ ";\n")

end UseBlock

end RouteScribe
