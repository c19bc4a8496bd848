/-
Module: RouteScribe.TypeExpr.Reader
Layer: Declarations
Purpose: Reading a type from its text. The grammar is
  `Type ::= ! | () | $ Ident | [ Type ] | [::] Ident (:: Ident)* [< Type (, Type)* >]`, and a path of
  the standard array or optional type with one argument denotes that form. A text that is no type is
  refused at the first token that fits nowhere.
Imports: RouteScribe.TypeExpr, RouteScribe.TypeExpr.Token
Trusted boundary: human-reviewed spec
Main exports: Expectation, Fault, Fault.detail, ParseError, ParseError.message, TypeExpr.parse
Open obligations: none
-/
import RouteScribe.TypeExpr
import RouteScribe.TypeExpr.Token

namespace RouteScribe.TypeExpr

/-- What a text should have had at the place where it is refused. -/
inductive Expectation where
  | identifier
  | closeBracket
  | commaOrCloseAngle
  | endOfText
deriving DecidableEq, Repr

/-- Where a text is refused and what was expected there. -/
structure Fault where
  expected : Expectation
  offset : Nat
deriving DecidableEq, Repr

/-- The wording of an expectation that was not met. -/
def Expectation.message : Expectation → String
  | .identifier => "expected identifier"
  | .closeBracket => "expected `]`"
  | .commaOrCloseAngle => "expected `,` or `>`"
  | .endOfText => "unexpected trailing input"

/-- The refusal of what comes next. -/
def Lexemes.refuse (ts : Lexemes) (expected : Expectation) : Fault := ⟨expected, ts.offset⟩

/-- Lexemes that are left over after at least one of `ts` has been read. -/
abbrev Lexemes.Rest (ts : Lexemes) : Type := { rest : Lexemes // rest.size < ts.size }

/-- Take one given token off the front. -/
def Lexemes.eat (expected : Token) : (ts : Lexemes) → Option ts.Rest
  | .token found _ rest =>
    if found = expected then some ⟨rest, by simp [Lexemes.size]⟩ else none
  | .stop _ => none

/-- Take an identifier off the front. -/
def Lexemes.eatIdent : (ts : Lexemes) → Option (String × ts.Rest)
  | .token (.ident name) _ rest => some (name, ⟨rest, by simp [Lexemes.size]⟩)
  | _ => none

/-- Read a path: identifiers with separators between them. -/
def readPath (ts : Lexemes) : Except Fault (String × ts.Rest) :=
  match ts.eatIdent with
  | none => .error (ts.refuse .identifier)
  | some (name, ⟨rest, h⟩) =>
    match rest.eat .separator with
    | none => .ok (name, ⟨rest, h⟩)
    | some ⟨after, h'⟩ =>
      match readPath after with
      | .error fault => .error fault
      | .ok (path, ⟨rest', h''⟩) => .ok (name ++ "::" ++ path, ⟨rest', by omega⟩)
termination_by ts.size

/-- The type that a path with arguments denotes: the standard array and optional types have a form of
    their own when they have one argument. -/
def ofPath (path : String) (args : List TypeExpr) : TypeExpr :=
  match args with
  | [arg] =>
    if path = "Vec" ∨ path = "std::vec::Vec" then .array arg
    else if path = "Option" ∨ path = "std::option::Option" then .optional arg
    else .named path args
  | _ => .named path args

mutual

/-- Read a type from the front. -/
def readType (ts : Lexemes) : Except Fault (TypeExpr × ts.Rest) :=
  match ts with
  | .token .bang _ rest => .ok (.unresolved, ⟨rest, by simp [Lexemes.size]⟩)
  | .token .emptyTuple _ rest => .ok (.unit, ⟨rest, by simp [Lexemes.size]⟩)
  | .token .dollar _ rest =>
    match rest.eatIdent with
    | none => .error (rest.refuse .identifier)
    | some (name, ⟨rest', h⟩) =>
      .ok (.param name, ⟨rest', by simp only [Lexemes.size]; omega⟩)
  | .token .openBracket _ rest =>
    match readType rest with
    | .error fault => .error fault
    | .ok (element, ⟨after, h⟩) =>
      match after.eat .closeBracket with
      | none => .error (after.refuse .closeBracket)
      | some ⟨rest', h'⟩ => .ok (.array element, ⟨rest', by simp only [Lexemes.size]; omega⟩)
  | .token .separator _ rest =>
    match readNamed rest with
    | .error fault => .error fault
    | .ok (t, ⟨rest', h⟩) => .ok (t, ⟨rest', by simp only [Lexemes.size]; omega⟩)
  | ts => readNamed ts
termination_by (ts.size, 1)
decreasing_by
  · exact Prod.Lex.left _ _ (by simp [Lexemes.size])
  · exact Prod.Lex.left _ _ (by simp [Lexemes.size])
  · exact Prod.Lex.right _ (by omega)

/-- Read a path and its arguments, if it has any. -/
def readNamed (ts : Lexemes) : Except Fault (TypeExpr × ts.Rest) :=
  match readPath ts with
  | .error fault => .error fault
  | .ok (path, ⟨rest, h⟩) =>
    match rest.eat .openAngle with
    | none => .ok (ofPath path [], ⟨rest, h⟩)
    | some ⟨after, h'⟩ =>
      match readArgs after with
      | .error fault => .error fault
      | .ok (args, ⟨rest', h''⟩) => .ok (ofPath path args, ⟨rest', by omega⟩)
termination_by (ts.size, 0)
decreasing_by exact Prod.Lex.left _ _ (by omega)

/-- Read the arguments behind an opening angle bracket, up to the closing one. -/
def readArgs (ts : Lexemes) : Except Fault (List TypeExpr × ts.Rest) :=
  match readType ts with
  | .error fault => .error fault
  | .ok (arg, ⟨rest, h⟩) =>
    match rest.eat .comma with
    | some ⟨after, h'⟩ =>
      match readArgs after with
      | .error fault => .error fault
      | .ok (args, ⟨rest', h''⟩) => .ok (arg :: args, ⟨rest', by omega⟩)
    | none =>
      match rest.eat .closeAngle with
      | some ⟨after, h'⟩ => .ok ([arg], ⟨after, by omega⟩)
      | none => .error (rest.refuse .commaOrCloseAngle)
termination_by (ts.size, 2)
decreasing_by
  · exact Prod.Lex.right _ (by omega)
  · exact Prod.Lex.left _ _ (by omega)

end

/-- Read all of a text as one type. -/
def readWhole (ts : Lexemes) : Except Fault TypeExpr :=
  match readType ts with
  | .error fault => .error fault
  | .ok (t, ⟨rest, _⟩) =>
    match rest with
    | .stop _ => .ok t
    | _ => .error (rest.refuse .endOfText)

/-- A text that is no type. -/
structure ParseError where
  input : String
  fault : Fault
deriving DecidableEq, Repr

/-- What is wrong with the text. -/
def ParseError.detail (e : ParseError) : String := e.fault.expected.message

/-- The full wording of the refusal. -/
def ParseError.message (e : ParseError) : String :=
  "invalid type `" ++ e.input ++ "` at offset " ++ toString e.fault.offset ++ ": " ++ e.detail

/-- The type that a text denotes. -/
def parse (text : String) : Except ParseError TypeExpr :=
  match readWhole (Lexemes.ofText text) with
  | .ok t => .ok t
  | .error fault => .error ⟨text, fault⟩

end RouteScribe.TypeExpr
