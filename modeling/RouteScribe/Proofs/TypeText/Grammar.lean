/-
Module: RouteScribe.Proofs.TypeText.Grammar
Layer: Proofs
Purpose: The grammar of type texts as a relation on characters, stated apart from the reader and from its
  tokens' offsets:
  `Type ::= ! | () | $ Ident | [ Type ] | [::] Ident (:: Ident)* [< Type (, Type)* >]`.
  White space may stand before every token and at the end of the text, and inside no token; an identifier
  is as long as it can be. `DenotesType` says which type a whole text denotes.
Imports: RouteScribe.TypeExpr, RouteScribe.TypeExpr.Token
Trusted boundary: human-reviewed spec
Main exports: IsIdentifier, Token.spelling?, TokenAt, denoted, Phrase, Derives, DenotesType
Open obligations: none
-/
import RouteScribe.TypeExpr
import RouteScribe.TypeExpr.Token

namespace RouteScribe.TypeExpr

open RouteScribe.Text

/-!
### Tokens

A token is met at the front of a text behind any white space. All tokens but identifiers have a fixed
spelling; an identifier ends where no character of an identifier follows.
-/

/-- Whether a text can stand as one identifier: it is not empty and has only letters, numbers and
    underscores. -/
def IsIdentifier (name : String) : Prop :=
  name.toList ≠ [] ∧ ∀ c ∈ name.toList, isIdentChar c = true

/-- The characters of a token that is always written in the same way. -/
def Token.spelling? : Token → Option (List Char)
  | .bang => some ['!']
  | .emptyTuple => some ['(', ')']
  | .dollar => some ['$']
  | .openBracket => some ['[']
  | .closeBracket => some [']']
  | .openAngle => some ['<']
  | .closeAngle => some ['>']
  | .comma => some [',']
  | .separator => some [':', ':']
  | .ident _ => none
  | .stray _ => none

/-- `TokenAt token cs rest` says that the text `cs` begins with the token, possibly behind white space,
    and that `rest` is left behind it. -/
inductive TokenAt (token : Token) : List Char → List Char → Prop where
  | blank {c : Char} {cs rest : List Char} :
      isBlank c = true → TokenAt token cs rest → TokenAt token (c :: cs) rest
  | symbol {spelled rest : List Char} :
      token.spelling? = some spelled → TokenAt token (spelled ++ rest) rest
  | ident {name : String} {rest : List Char} :
      token = .ident name → IsIdentifier name → (∀ c ∈ rest.head?, isIdentChar c = false) →
        TokenAt token (name.toList ++ rest) rest

/-!
### Phrases

The productions of the grammar. A path is kept as its segments, so that what it denotes is decided on the
segments and not on a text.
-/

/-- The paths of the array type. -/
def arrayPaths : List (List String) := [["Vec"], ["std", "vec", "Vec"]]

/-- The paths of the optional type. -/
def optionalPaths : List (List String) := [["Option"], ["std", "option", "Option"]]

/-- The text of a path with the given segments. -/
def joined (segments : List String) : String := "::".intercalate segments

/-- The type that a path with arguments denotes. With exactly one argument the paths of the array and of
    the optional type denote these; every other path denotes the type of that name. -/
def denoted (segments : List String) : List TypeExpr → TypeExpr
  | [t] =>
    if segments ∈ arrayPaths then .array t
    else if segments ∈ optionalPaths then .optional t
    else .named (joined segments) [t]
  | types => .named (joined segments) types

/-- What a stretch of a type's text can be. -/
inductive Phrase where
  /-- A separator in front of a path, or nothing. -/
  | lead
  /-- Identifiers with separators between them. -/
  | path (segments : List String)
  /-- Types with commas between them. -/
  | list (types : List TypeExpr)
  /-- A list of types in angle brackets, or nothing. -/
  | arguments (types : List TypeExpr)
  /-- A type. -/
  | type (t : TypeExpr)

/-- `Derives phrase cs rest` says that the text `cs` begins with the phrase and that `rest` is left
    behind it. -/
inductive Derives : Phrase → List Char → List Char → Prop where
  | noLead {cs} : Derives .lead cs cs
  | lead {cs rest} : TokenAt .separator cs rest → Derives .lead cs rest
  | lastSegment {name cs rest} : TokenAt (.ident name) cs rest → Derives (.path [name]) cs rest
  | segment {name names cs ds es rest} :
      TokenAt (.ident name) cs ds → TokenAt .separator ds es → Derives (.path names) es rest →
        Derives (.path (name :: names)) cs rest
  | lastType {t cs rest} : Derives (.type t) cs rest → Derives (.list [t]) cs rest
  | consType {t ts cs ds es rest} :
      Derives (.type t) cs ds → TokenAt .comma ds es → Derives (.list ts) es rest →
        Derives (.list (t :: ts)) cs rest
  | noArguments {cs} : Derives (.arguments []) cs cs
  | arguments {ts cs ds es rest} :
      TokenAt .openAngle cs ds → Derives (.list ts) ds es → TokenAt .closeAngle es rest →
        Derives (.arguments ts) cs rest
  | unresolved {cs rest} : TokenAt .bang cs rest → Derives (.type .unresolved) cs rest
  | unit {cs rest} : TokenAt .emptyTuple cs rest → Derives (.type .unit) cs rest
  | param {name cs ds rest} :
      TokenAt .dollar cs ds → TokenAt (.ident name) ds rest → Derives (.type (.param name)) cs rest
  | array {t cs ds es rest} :
      TokenAt .openBracket cs ds → Derives (.type t) ds es → TokenAt .closeBracket es rest →
        Derives (.type (.array t)) cs rest
  | named {segments ts cs ds es rest} :
      Derives .lead cs ds → Derives (.path segments) ds es → Derives (.arguments ts) es rest →
        Derives (.type (denoted segments ts)) cs rest

/-- Whether a text denotes a type: it is a phrase of that type with nothing but white space behind it. -/
def DenotesType (text : String) (t : TypeExpr) : Prop :=
  ∃ rest, Derives (.type t) text.toList rest ∧ ∀ c ∈ rest, isBlank c = true

end RouteScribe.TypeExpr
