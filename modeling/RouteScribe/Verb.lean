/-
Module: RouteScribe.Verb
Layer: Routes
Purpose: The verbs of the hypertext transfer protocol, and sets of them in their fixed order.
Imports: RouteScribe.Text.Blank
Trusted boundary: human-reviewed spec
Main exports: Verb, Verb.all, Verb.name, Verb.ofText?, Verb.routingFunction?, VerbSet, VerbSet.ofList
Open obligations: none
-/
import RouteScribe.Text.Blank

namespace RouteScribe

/-- A verb that a route can answer to. -/
inductive Verb where
  | get
  | post
  | put
  | delete
  | patch
  | head
  | options
  | trace
  | connect
deriving DecidableEq, Repr, Inhabited

namespace Verb

/-- Every verb, in the order in which sets of verbs are listed. -/
def all : List Verb := [.get, .post, .put, .delete, .patch, .head, .options, .trace, .connect]

/-- The name of a verb, in upper case. -/
def name : Verb → String
  | .get => "GET"
  | .post => "POST"
  | .put => "PUT"
  | .delete => "DELETE"
  | .patch => "PATCH"
  | .head => "HEAD"
  | .options => "OPTIONS"
  | .trace => "TRACE"
  | .connect => "CONNECT"

/-- A letter of the Latin alphabet in upper case. -/
def upperLatin (c : Char) : Char := if 'a' ≤ c ∧ c ≤ 'z' then Char.ofNat (c.toNat - 32) else c

/-- The verb that a text names, whatever the case of its Latin letters and the white space around it. -/
def ofText? (text : String) : Option Verb :=
  let letters := (Text.trim text).toList.map upperLatin
  all.find? fun verb => verb.name.toList == letters

/-- The routing function of its own that a verb has. -/
def routingFunction? : Verb → Option String
  | .get => some "get"
  | .post => some "post"
  | .put => some "put"
  | .delete => some "delete"
  | .patch => some "patch"
  | _ => none

end Verb

/-- A set of verbs, as the list of its members in the fixed order. -/
structure VerbSet where
  verbs : List Verb
  ordered : verbs = Verb.all.filter verbs.contains
deriving DecidableEq, Repr

namespace VerbSet

/-- The set of the verbs of a list. -/
def ofList (verbs : List Verb) : VerbSet where
  verbs := Verb.all.filter verbs.contains
  ordered := by
    refine List.filter_congr fun v _ => ?_
    have mem : v ∈ Verb.all := by cases v <;> decide
    rw [Bool.eq_iff_iff]
    simp [List.mem_filter, mem]

/-- The set of one verb. -/
def singleton (verb : Verb) : VerbSet := ofList [verb]

/-- Whether the set has no member. -/
def isEmpty (s : VerbSet) : Bool := s.verbs.isEmpty

/-- The only member of a set of one verb. -/
def single? (s : VerbSet) : Option Verb :=
  match s.verbs with
  | [verb] => some verb
  | _ => none

/-- The names of the members, in order. -/
def names (s : VerbSet) : List String := s.verbs.map Verb.name

instance : Inhabited VerbSet := ⟨ofList []⟩

end VerbSet

end RouteScribe
