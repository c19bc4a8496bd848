/-
Module: RouteScribe.Options
Layer: Generation
Purpose: The choices that a pass of generation leaves open.
Imports: RouteScribe.Conventions
Trusted boundary: human-reviewed spec
Main exports: Options, Options.standard
Open obligations: none
-/
import RouteScribe.Conventions

namespace RouteScribe

/-- The settings of a pass. -/
structure Options where
  /-- The directory to which the artifacts are written, if they are to be written. -/
  outputDirectory : Option String := none
  conventions : Conventions := .standard
  /-- Whether the fields of base types count as fields of a type. -/
  withInherited : Bool := false
deriving DecidableEq, Repr

namespace Options

/-- The settings that hold when nothing is chosen. -/
def standard : Options := {}

instance : Inhabited Options := ⟨standard⟩

end Options

end RouteScribe
