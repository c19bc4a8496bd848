/-
Module: RouteScribe.Marker
Layer: Routes
Purpose: Markers among the attributes of types and methods. Each attribute plays one role, decided by its
  full name and by what its declared type derives from; a marker either gives a template with verbs or
  is refused with a finding.
Imports: RouteScribe.Conventions, RouteScribe.Diagnostic, RouteScribe.Program, RouteScribe.RoutePath
Trusted boundary: human-reviewed spec
Main exports: MarkerRole, markerRole, RouteMarker, MarkerReading, readMarker, routeMarkers,
  markerFindings, withoutMarkers, groupPrefix
Open obligations: none
-/
import RouteScribe.Conventions
import RouteScribe.Diagnostic
import RouteScribe.Program
import RouteScribe.RoutePath

namespace RouteScribe

/-- The part that an attribute plays in routing. -/
inductive MarkerRole where
  /-- A marker of one verb. -/
  | single (verb : Verb)
  /-- The marker of a list of verbs. -/
  | multi
  /-- No marker, although its type derives from the base of the single-verb markers. -/
  | unknownSingle
  /-- No marker. -/
  | plain
deriving DecidableEq, Repr

/-- The role of an attribute. -/
def markerRole (p : Program) (conv : Conventions) (a : Attribute) : MarkerRole :=
  match conv.verbOfMarker? a.name with
  | some verb => .single verb
  | none =>
    if a.name = conv.routeMarker then .multi
    else if p.derivesFrom a.name conv.verbMarkerBase then .unknownSingle
    else .plain

/-- What a usable marker says: the template of a path and the verbs it answers to. -/
structure RouteMarker where
  template : String
  verbs : VerbSet
deriving DecidableEq, Repr

/-- What is read off one attribute: a marker, if it is a usable one, and what was found wrong. -/
structure MarkerReading where
  marker : Option RouteMarker := none
  findings : List Finding := []
deriving DecidableEq, Repr

namespace MarkerReading

/-- An attribute that says nothing about routes. -/
def nothing : MarkerReading := {}

/-- A usable marker. -/
def usable (template : String) (verbs : VerbSet) : MarkerReading := ⟨some ⟨template, verbs⟩, []⟩

/-- A marker that cannot be used. -/
def refused (finding : Finding) : MarkerReading := ⟨none, [finding]⟩

end MarkerReading

/-- The verb that an item of a list names. -/
def verbOfLiteral? (item : Literal) : Option Verb := item.text?.bind Verb.ofText?

/-- An item as it is shown when it names no verb. -/
def shownVerb (item : Literal) : String := item.text?.getD item.tagged

/-- Read the marker of a list of verbs: a template and the list come first. Items that name no verb are
    left out with a finding; at least one must be left. -/
def readMultiMarker (a : Attribute) : MarkerReading :=
  match a.args with
  | .text template :: .list items :: _ =>
    let unknown := items.filter fun item => (verbOfLiteral? item).isNone
    let findings := unknown.map fun item => Finding.unknownVerb (shownVerb item)
    let verbs := VerbSet.ofList (items.filterMap verbOfLiteral?)
    if verbs.isEmpty then ⟨none, findings ++ [.noUsableVerb a.name]⟩
    else ⟨some ⟨template, verbs⟩, findings⟩
  | _ :: _ :: _ => .refused (.argumentsIllTyped a.name)
  | _ => .refused (.argumentsMissing a.name)

/-- Read one attribute in its role. A single-verb marker without arguments has an empty template. -/
def readMarker (p : Program) (conv : Conventions) (a : Attribute) : MarkerReading :=
  match markerRole p conv a with
  | .single verb =>
    match a.args with
    | [] => .usable "" (.singleton verb)
    | .text template :: _ => .usable template (.singleton verb)
    | _ :: _ => .refused (.templateNotText a.name)
  | .multi => readMultiMarker a
  | .unknownSingle => .refused (.unknownVerbMarker a.name)
  | .plain => .nothing

/-- The usable markers among the attributes, in order. -/
def routeMarkers (p : Program) (conv : Conventions) (attributes : List Attribute) :
    List RouteMarker :=
  attributes.filterMap fun a => (readMarker p conv a).marker

/-- What is wrong with the markers among the attributes, in order. -/
def markerFindings (p : Program) (conv : Conventions) (attributes : List Attribute) :
    List Finding :=
  attributes.flatMap fun a => (readMarker p conv a).findings

/-- The attributes that are no markers, in order. -/
def withoutMarkers (p : Program) (conv : Conventions) (attributes : List Attribute) :
    List Attribute :=
  attributes.filter fun a => markerRole p conv a == .plain

/-- The path prefix that the first group marker gives. A marker without arguments mounts the group at the
    root, and so does one whose argument is no text, with a finding. -/
def groupPrefix (conv : Conventions) (attributes : List Attribute) : String × List Finding :=
  match attributes.find? (·.name == conv.groupMarker) with
  | none => ("", [])
  | some marker =>
    match marker.args with
    | [] => ("", [])
    | .text text :: _ => (RoutePath.normalizePrefix text, [])
    | _ :: _ => ("", [.prefixNotText marker.name])

end RouteScribe
