/-
Module: RouteScribe.Settings.OptionKeys
Layer: Settings
Purpose: The settings that choose the options of a pass. A blank directory is none, a blank namespace is the
  usual one, and further framework types come behind those of the namespace.
Imports: RouteScribe.Options, RouteScribe.Settings, RouteScribe.Text.Blank
Trusted boundary: human-reviewed spec
Main exports: Options.ofSettings
Open obligations: none
-/
import RouteScribe.Options
import RouteScribe.Settings
import RouteScribe.Text.Blank

namespace RouteScribe.Options

/-- The key of the directory to which the artifacts are written. -/
def outputDirectoryKey : String := "routegen.output.dir"

/-- The key of the namespace of the markers. -/
def namespaceKey : String := "routegen.markers.namespace"

/-- The key of further framework types. -/
def frameworkTypesKey : String := "routegen.framework.types"

/-- The key of whether the fields of base types count. -/
def inheritedKey : String := "routegen.closure.inherited"

/-- A text without white space around it, if it is not blank. -/
def trimmed? (s : String) : Option String :=
  let t := Text.trim s
  if t.isEmpty then none else some t

/-- The options that settings choose. -/
def ofSettings (s : Settings) : Except SettingFault Options :=
  match s.get? Setting.readText outputDirectoryKey with
  | .error why => .error why
  | .ok directory =>
    match s.get? Setting.readText namespaceKey with
    | .error why => .error why
    | .ok path =>
      match s.get? (Setting.readList Setting.readText) frameworkTypesKey with
      | .error why => .error why
      | .ok types =>
        match s.get? Setting.readBool inheritedKey with
        | .error why => .error why
        | .ok inherited =>
          let conv := ((path.bind trimmed?).map Conventions.ofNamespace).getD .standard
          .ok {
            outputDirectory := directory.bind trimmed?
            conventions := { conv with frameworkTypes := conv.frameworkTypes ++ types.getD [] }
            withInherited := inherited.getD false }

end RouteScribe.Options
