/-
Module: RouteScribe.Proofs.TypeText.Reading
Layer: Proofs
Purpose: The reader of type texts accepts exactly the grammar. Whatever it takes off the front of a text is a
  phrase of the type that it returns, and every phrase that is followed by nothing which could belong to it
  is taken off as a whole. So a text is read as a type exactly if it denotes that type.
Imports: RouteScribe.Proofs.TypeText.Lexing, RouteScribe.TypeExpr.Reader
Trusted boundary: none
Main exports: ofPath_joined, readType_sound, EndsType, readOff_of_derives, denotesType_of_parse,
  parse_of_denotesType, parse_eq_ok_iff
Open obligations: none
-/
import RouteScribe.Proofs.TypeText.Lexing
import RouteScribe.TypeExpr.Reader

namespace RouteScribe.TypeExpr

open RouteScribe.Text

/-!
### Paths

The reader decides on the text of a path what the grammar decides on its segments. The two agree because
no segment holds a colon, so the text has only one division into segments.
-/

theorem joined_singleton (name : String) : joined [name] = name := String.intercalate_singleton

theorem joined_cons {name : String} {names : List String} (more : names ≠ []) :
    joined (name :: names) = name ++ "::" ++ joined names :=
  String.intercalate_cons_of_ne_nil more

/-- An identifier holds no colon. -/
theorem IsIdentifier.colon_notMem {name : String} (ident : IsIdentifier name) :
    ':' ∉ name.toList := by
  intro mem
  have part := ident.2 _ mem
  revert part
  decide

/-- The characters of a path of several segments. -/
theorem toList_joined_cons {name : String} {names : List String} (more : names ≠ []) :
    (joined (name :: names)).toList = name.toList ++ ':' :: ':' :: (joined names).toList := by
  rw [joined_cons more]
  simp

/-- A text is divided in one way only at its first colon. -/
theorem append_colon_inj {cs ds cs' ds' : List Char} (noColon : ':' ∉ cs) (noColon' : ':' ∉ cs')
    (same : cs ++ ':' :: ds = cs' ++ ':' :: ds') : cs = cs' ∧ ds = ds' := by
  rcases List.append_eq_append_iff.mp same with ⟨mid, rfl, eq⟩ | ⟨mid, rfl, eq⟩
  · cases mid with
    | nil => simpa using eq
    | cons c mid =>
        obtain ⟨rfl, -⟩ := List.cons.inj eq
        exact absurd (by simp) noColon'
  · cases mid with
    | nil => simpa [eq_comm] using eq
    | cons c mid =>
        obtain ⟨rfl, -⟩ := List.cons.inj eq
        exact absurd (by simp) noColon

/-- Identifiers can be told from the text that they are joined to. -/
theorem joined_injective {names others : List String} (idents : ∀ name ∈ names, IsIdentifier name)
    (otherIdents : ∀ name ∈ others, IsIdentifier name) (nonempty : names ≠ [])
    (otherNonempty : others ≠ []) (same : joined names = joined others) : names = others := by
  induction names generalizing others with
  | nil => exact absurd rfl nonempty
  | cons name names ih =>
      obtain ⟨other, others, rfl⟩ := List.exists_cons_of_ne_nil otherNonempty
      have noColon := (idents name (by simp)).colon_notMem
      have otherNoColon := (otherIdents other (by simp)).colon_notMem
      have chars := congrArg String.toList same
      by_cases last : names = [] <;> by_cases otherLast : others = []
      · subst last otherLast
        rw [joined_singleton, joined_singleton] at same
        rw [same]
      · subst last
        rw [joined_singleton, toList_joined_cons otherLast] at chars
        exact absurd (chars ▸ by simp) noColon
      · subst otherLast
        rw [joined_singleton, toList_joined_cons last] at chars
        exact absurd (chars ▸ by simp) otherNoColon
      · rw [toList_joined_cons last, toList_joined_cons otherLast] at chars
        obtain ⟨heads, tails⟩ := append_colon_inj noColon otherNoColon chars
        rw [String.toList_inj.mp heads]
        refine congrArg _ (ih (fun n mem => idents n (List.mem_cons_of_mem _ mem))
          (fun n mem => otherIdents n (List.mem_cons_of_mem _ mem)) last otherLast ?_)
        exact String.toList_inj.mp (List.cons.inj tails).2

/-- The names in these paths are identifiers. -/
theorem isIdentifier_of_mem_standard {names : List String} (standard : names ∈ arrayPaths ++ optionalPaths) :
    names ≠ [] ∧ ∀ name ∈ names, IsIdentifier name := by
  have checked : (arrayPaths ++ optionalPaths).all (fun names =>
      !names.isEmpty && names.all fun name => !name.toList.isEmpty && name.toList.all isIdentChar) = true := by
    decide +kernel
  simp only [List.all_eq_true, Bool.and_eq_true, Bool.not_eq_true', List.isEmpty_eq_false_iff] at checked
  exact checked names standard

/-- A path reads like one of the standard paths only if it has the segments of that path. -/
theorem joined_eq_joined_iff {names standard : List String} (nonempty : names ≠ [])
    (idents : ∀ name ∈ names, IsIdentifier name) (isStandard : standard ∈ arrayPaths ++ optionalPaths) :
    joined names = joined standard ↔ names = standard := by
  obtain ⟨standardNonempty, standardIdents⟩ := isIdentifier_of_mem_standard isStandard
  refine ⟨fun same => ?_, fun same => by rw [same]⟩
  exact joined_injective idents standardIdents nonempty standardNonempty same

/-- The reader and the grammar agree on what a path with arguments denotes. -/
theorem ofPath_joined {names : List String} (nonempty : names ≠ [])
    (idents : ∀ name ∈ names, IsIdentifier name) (args : List TypeExpr) :
    ofPath (joined names) args = denoted names args := by
  have isArray : joined names = "Vec" ∨ joined names = "std::vec::Vec" ↔ names ∈ arrayPaths := by
    rw [show "Vec" = joined ["Vec"] by decide, show "std::vec::Vec" = joined ["std", "vec", "Vec"] by decide,
      joined_eq_joined_iff nonempty idents (by decide), joined_eq_joined_iff nonempty idents (by decide)]
    simp [arrayPaths]
  have isOptional : joined names = "Option" ∨ joined names = "std::option::Option" ↔
      names ∈ optionalPaths := by
    rw [show "Option" = joined ["Option"] by decide,
      show "std::option::Option" = joined ["std", "option", "Option"] by decide,
      joined_eq_joined_iff nonempty idents (by decide), joined_eq_joined_iff nonempty idents (by decide)]
    simp [optionalPaths]
  match args with
  | [] => rfl
  | [t] => simp only [ofPath, denoted, isArray, isOptional]
  | _ :: _ :: _ => rfl

/-!
### Taking tokens
-/

/-- Taking a token off the lexemes of a text takes it off the text. -/
theorem eat_sound {ts : Lexemes} {token : Token} {cs : List Char} {r : ts.Rest} (of : ts.Of cs)
    (known : ∀ c, token ≠ .stray c) (taken : ts.eat token = some r) :
    ∃ rest, TokenAt token cs rest ∧ r.val.Of rest := by
  cases ts with
  | stop offset => cases taken
  | token found offset after =>
      rw [Lexemes.eat] at taken
      split at taken
      · rename_i same
        cases taken
        subst same
        exact of.tokenAt known
      · cases taken

/-- A token at the front of a text can be taken off its lexemes. -/
theorem eat_complete {ts : Lexemes} {token : Token} {cs rest : List Char} (of : ts.Of cs)
    (front : TokenAt token cs rest) : ∃ r : ts.Rest, ts.eat token = some r ∧ r.val.Of rest := by
  obtain ⟨offset, after, rfl, ofRest⟩ := of.next front
  exact ⟨_, if_pos rfl, ofRest⟩

/-- A token that is not at the front of a text cannot be taken off its lexemes. -/
theorem eat_eq_none {ts : Lexemes} {token : Token} {cs : List Char} (of : ts.Of cs)
    (known : ∀ c, token ≠ .stray c) (absent : ∀ rest, ¬ TokenAt token cs rest) :
    ts.eat token = none := by
  cases taken : ts.eat token with
  | none => rfl
  | some r =>
      obtain ⟨rest, front, -⟩ := eat_sound of known taken
      exact absurd front (absent rest)

/-- Taking an identifier off the lexemes of a text takes it off the text. -/
theorem eatIdent_sound {ts : Lexemes} {cs : List Char} {name : String} {r : ts.Rest} (of : ts.Of cs)
    (taken : ts.eatIdent = some (name, r)) :
    ∃ rest, TokenAt (.ident name) cs rest ∧ r.val.Of rest := by
  cases ts with
  | stop offset => cases taken
  | token found offset after =>
      cases found with
      | ident other =>
          cases taken
          exact of.tokenAt (by simp)
      | _ => cases taken

/-- An identifier at the front of a text can be taken off its lexemes. -/
theorem eatIdent_complete {ts : Lexemes} {cs rest : List Char} {name : String} (of : ts.Of cs)
    (front : TokenAt (.ident name) cs rest) :
    ∃ r : ts.Rest, ts.eatIdent = some (name, r) ∧ r.val.Of rest := by
  obtain ⟨offset, after, rfl, ofRest⟩ := of.next front
  exact ⟨_, rfl, ofRest⟩

/-- A text has one token at its front. -/
theorem TokenAt.unique {token other : Token} {cs rest rest' : List Char} (front : TokenAt token cs rest)
    (front' : TokenAt other cs rest') : token = other := by
  have of : (lexemesFrom 0 cs).Of cs := ⟨0, rfl⟩
  obtain ⟨_, _, eq, -⟩ := of.next front
  obtain ⟨_, _, eq', -⟩ := of.next front'
  rw [eq] at eq'
  exact (Lexemes.token.inj eq').1

/-!
### Soundness

What is read is a phrase of the grammar. The proofs follow the reader: a path by its segments, and a type,
a named type and a list of arguments together.
-/

/-- The name of an identifier in a text is one. -/
theorem TokenAt.isIdentifier {token : Token} {name : String} {cs rest : List Char}
    (front : TokenAt token cs rest) (named : token = .ident name) : IsIdentifier name := by
  induction front with
  | blank _ _ ih => exact ih
  | symbol spelling => rw [named] at spelling; cases spelling
  | ident isIdent ident _ =>
      rw [isIdent] at named
      cases named
      exact ident

/-- The segments of a path are identifiers, and there is at least one. -/
theorem Derives.path_idents {names : List String} {cs rest : List Char} :
    Derives (.path names) cs rest → names ≠ [] ∧ ∀ name ∈ names, IsIdentifier name
  | .lastSegment front => ⟨by simp, by simpa using front.isIdentifier rfl⟩
  | .segment front _ derived => by
      refine ⟨by simp, fun name mem => ?_⟩
      rcases List.mem_cons.mp mem with rfl | mem
      · exact front.isIdentifier rfl
      · exact derived.path_idents.2 name mem

/-- A path that is read stands at the front of the text. -/
theorem readPath_sound {ts : Lexemes} {cs : List Char} {path : String} {r : ts.Rest} (of : ts.Of cs)
    (read : readPath ts = .ok (path, r)) :
    ∃ names rest, path = joined names ∧ Derives (.path names) cs rest ∧ r.val.Of rest := by
  rw [readPath] at read
  split at read
  · cases read
  · rename_i name after h first
    obtain ⟨ds, front, ofRest⟩ := eatIdent_sound of first
    split at read
    · cases read
      exact ⟨_, ds, (joined_singleton _).symm, .lastSegment front, ofRest⟩
    · rename_i after' h' separated
      obtain ⟨es, between, ofRest'⟩ := eat_sound ofRest (by simp) separated
      split at read
      · cases read
      · rename_i path' after'' h'' readRest
        cases read
        obtain ⟨names, rest, rfl, derived, ofRest''⟩ := readPath_sound ofRest' readRest
        refine ⟨_, rest, ?_, .segment front between derived, ofRest''⟩
        rw [joined_cons derived.path_idents.1]
termination_by ts.size

mutual

/-- A type that is read stands at the front of the text. -/
theorem readType_sound {ts : Lexemes} {cs : List Char} {t : TypeExpr} {r : ts.Rest} (of : ts.Of cs)
    (read : readType ts = .ok (t, r)) : ∃ rest, Derives (.type t) cs rest ∧ r.val.Of rest := by
  rw [readType.eq_def] at read
  -- one case for each first token: `!`, `()`, `$`, `[`, `::`, and all others, which must begin a path
  split at read
  · cases read
    obtain ⟨rest, front, ofRest⟩ := of.tokenAt (by simp)
    exact ⟨rest, .unresolved front, ofRest⟩
  · cases read
    obtain ⟨rest, front, ofRest⟩ := of.tokenAt (by simp)
    exact ⟨rest, .unit front, ofRest⟩
  · obtain ⟨ds, front, ofRest⟩ := of.tokenAt (by simp)
    split at read
    · cases read
    · rename_i name after h taken
      cases read
      obtain ⟨rest, named, ofRest'⟩ := eatIdent_sound ofRest taken
      exact ⟨rest, .param front named, ofRest'⟩
  · obtain ⟨ds, front, ofRest⟩ := of.tokenAt (by simp)
    split at read
    · cases read
    · rename_i element after h readElement
      obtain ⟨es, derived, ofRest'⟩ := readType_sound ofRest readElement
      split at read
      · cases read
      · rename_i after' h' closed
        cases read
        obtain ⟨rest, close, ofRest''⟩ := eat_sound ofRest' (by simp) closed
        exact ⟨rest, .array front derived close, ofRest''⟩
  · obtain ⟨ds, front, ofRest⟩ := of.tokenAt (by simp)
    split at read
    · cases read
    · rename_i t' after h readRest
      cases read
      obtain ⟨names, args, es, rest, rfl, path, arguments, ofRest'⟩ := readNamed_sound ofRest readRest
      exact ⟨rest, .named (.lead front) path arguments, ofRest'⟩
  · obtain ⟨names, args, es, rest, rfl, path, arguments, ofRest⟩ := readNamed_sound of read
    exact ⟨rest, .named .noLead path arguments, ofRest⟩
termination_by (ts.size, 1)
decreasing_by
  all_goals subst_vars
  · exact Prod.Lex.left _ _ (by simp [Lexemes.size])
  · exact Prod.Lex.left _ _ (by simp [Lexemes.size])
  · exact Prod.Lex.right _ (by omega)

/-- A named type that is read stands at the front of the text. -/
theorem readNamed_sound {ts : Lexemes} {cs : List Char} {t : TypeExpr} {r : ts.Rest} (of : ts.Of cs)
    (read : readNamed ts = .ok (t, r)) :
    ∃ names args es rest, t = denoted names args ∧ Derives (.path names) cs es ∧
      Derives (.arguments args) es rest ∧ r.val.Of rest := by
  rw [readNamed] at read
  split at read
  · cases read
  · rename_i path after h readPath
    obtain ⟨names, es, rfl, derived, ofRest⟩ := readPath_sound of readPath
    obtain ⟨nonempty, idents⟩ := derived.path_idents
    split at read
    · cases read
      exact ⟨names, [], es, es, ofPath_joined nonempty idents [], derived, .noArguments, ofRest⟩
    · rename_i after' h' opened
      obtain ⟨fs, front, ofRest'⟩ := eat_sound ofRest (by simp) opened
      split at read
      · cases read
      · rename_i args after'' h'' readArgs
        cases read
        obtain ⟨gs, rest, list, close, ofRest''⟩ := readArgs_sound ofRest' readArgs
        exact ⟨names, args, es, rest, ofPath_joined nonempty idents args, derived,
          .arguments front list close, ofRest''⟩
termination_by (ts.size, 0)

/-- Arguments that are read stand at the front of the text, with a closing bracket behind them. -/
theorem readArgs_sound {ts : Lexemes} {cs : List Char} {args : List TypeExpr} {r : ts.Rest}
    (of : ts.Of cs) (read : readArgs ts = .ok (args, r)) :
    ∃ es rest, Derives (.list args) cs es ∧ TokenAt .closeAngle es rest ∧ r.val.Of rest := by
  rw [readArgs] at read
  split at read
  · cases read
  · rename_i arg after h readArg
    obtain ⟨ds, derived, ofRest⟩ := readType_sound of readArg
    split at read
    · rename_i after' h' separated
      obtain ⟨es, comma, ofRest'⟩ := eat_sound ofRest (by simp) separated
      split at read
      · cases read
      · rename_i args' after'' h'' readRest
        cases read
        obtain ⟨fs, rest, list, close, ofRest''⟩ := readArgs_sound ofRest' readRest
        exact ⟨fs, rest, .consType derived comma list, close, ofRest''⟩
    · split at read
      · rename_i after' h' closed
        cases read
        obtain ⟨rest, close, ofRest'⟩ := eat_sound ofRest (by simp) closed
        exact ⟨ds, rest, .lastType derived, close, ofRest'⟩
      · cases read
termination_by (ts.size, 2)
decreasing_by
  · exact Prod.Lex.right _ (by omega)
  · exact Prod.Lex.left _ _ (by omega)

end

/-!
### Completeness

A phrase at the front of a text is read as a whole if what follows could not belong to it. A path goes on
with a separator and a type also with an opening bracket, so these must not follow; inside of a larger
phrase they never do, because another token follows there.
-/

/-- Whether nothing follows that a type could go on with. -/
def EndsType (rest : List Char) : Prop :=
  ∀ after, ¬ TokenAt .separator rest after ∧ ¬ TokenAt .openAngle rest after

/-- Behind a type another token may follow that no type goes on with. -/
theorem EndsType.ofToken {token : Token} {rest after : List Char} (front : TokenAt token rest after)
    (noSeparator : token ≠ .separator) (noAngle : token ≠ .openAngle) : EndsType rest :=
  fun _ => ⟨fun front' => noSeparator (front.unique front'), fun front' => noAngle (front.unique front')⟩

/-- Behind a type the text may end. -/
theorem EndsType.ofBlanks {rest : List Char} (blank : ∀ c ∈ rest, isBlank c = true) : EndsType rest := by
  have noToken : ∀ token after, ¬ TokenAt token rest after := by
    intro token after front
    have of : (lexemesFrom 0 rest).Of rest := ⟨0, rfl⟩
    obtain ⟨_, stop⟩ := of.ofBlanks blank
    obtain ⟨_, _, next, -⟩ := of.next front
    rw [stop] at next
    cases next
  exact fun after => ⟨noToken _ after, noToken _ after⟩

/-- What the reader makes of a phrase that stands at the front of `cs` with `rest` behind it. -/
def ReadOff : Phrase → List Char → List Char → Prop
  | .lead, cs, rest => cs = rest ∨ TokenAt .separator cs rest
  | .path names, cs, rest =>
    (∃ name after, TokenAt (.ident name) cs after) ∧
      ∀ ts : Lexemes, ts.Of cs → (∀ after, ¬ TokenAt .separator rest after) →
        ∃ r : ts.Rest, readPath ts = .ok (joined names, r) ∧ r.val.Of rest
  | .list types, cs, rest =>
    ∀ ts : Lexemes, ts.Of cs → ∀ after, TokenAt .closeAngle rest after →
      ∃ r : ts.Rest, readArgs ts = .ok (types, r) ∧ r.val.Of after
  | .arguments types, cs, rest =>
    types = [] ∧ cs = rest ∨
      ∃ ds, TokenAt .openAngle cs ds ∧ ∀ ts : Lexemes, ts.Of ds →
        ∃ r : ts.Rest, readArgs ts = .ok (types, r) ∧ r.val.Of rest
  | .type t, cs, rest =>
    ∀ ts : Lexemes, ts.Of cs → EndsType rest → ∃ r : ts.Rest, readType ts = .ok (t, r) ∧ r.val.Of rest

/-- A path with arguments is read as the type that it denotes. -/
theorem readNamed_complete {names : List String} {args : List TypeExpr} {cs es rest : List Char}
    (path : Derives (.path names) cs es) (readPath : ReadOff (.path names) cs es)
    (readArguments : ReadOff (.arguments args) es rest) (ends : EndsType rest) {ts : Lexemes}
    (of : ts.Of cs) :
    ∃ r : ts.Rest, readNamed ts = .ok (denoted names args, r) ∧ r.val.Of rest := by
  obtain ⟨nonempty, idents⟩ := path.path_idents
  rcases readArguments with ⟨rfl, rfl⟩ | ⟨ds, opened, readList⟩
  · obtain ⟨⟨after, h⟩, readEq, ofRest⟩ := readPath.2 ts of fun after => (ends after).1
    have noAngle : after.eat .openAngle = none := eat_eq_none ofRest (by simp) fun x => (ends x).2
    refine ⟨⟨after, h⟩, ?_, ofRest⟩
    rw [readNamed, readEq]
    simp only [noAngle]
    rw [ofPath_joined nonempty idents]
  · have noSeparator : ∀ after, ¬ TokenAt .separator es after := fun after front =>
      absurd (opened.unique front) (by simp)
    obtain ⟨⟨after, h⟩, readEq, ofRest⟩ := readPath.2 ts of noSeparator
    obtain ⟨⟨after', h'⟩, openEq, ofRest'⟩ := eat_complete ofRest opened
    obtain ⟨⟨after'', h''⟩, listEq, ofRest''⟩ := readList after' ofRest'
    refine ⟨⟨after'', Nat.lt_trans h'' (Nat.lt_trans h' h)⟩, ?_, ofRest''⟩
    rw [readNamed, readEq]
    simp only [openEq, listEq]
    rw [ofPath_joined nonempty idents]

/-- A phrase at the front of a text is read as a whole. -/
theorem readOff_of_derives {phrase : Phrase} {cs rest : List Char} (derived : Derives phrase cs rest) :
    ReadOff phrase cs rest := by
  -- by the derivation; `ReadOff` says for each phrase what the reader needs to know of the text behind it
  induction derived with
  | noLead => exact Or.inl rfl
  | lead front => exact Or.inr front
  | lastSegment front =>
      refine ⟨⟨_, _, front⟩, fun ts of ends => ?_⟩
      obtain ⟨⟨after, h⟩, identEq, ofRest⟩ := eatIdent_complete of front
      have noSeparator : after.eat .separator = none := eat_eq_none ofRest (by simp) ends
      refine ⟨⟨after, h⟩, ?_, ofRest⟩
      rw [readPath, identEq]
      simp only [noSeparator]
      rw [joined_singleton]
  | segment front between derived ih =>
      refine ⟨⟨_, _, front⟩, fun ts of ends => ?_⟩
      obtain ⟨⟨after, h⟩, identEq, ofRest⟩ := eatIdent_complete of front
      obtain ⟨⟨after', h'⟩, separatorEq, ofRest'⟩ := eat_complete ofRest between
      obtain ⟨⟨after'', h''⟩, pathEq, ofRest''⟩ := ih.2 after' ofRest' ends
      refine ⟨⟨after'', Nat.lt_trans h'' (Nat.lt_trans h' h)⟩, ?_, ofRest''⟩
      rw [readPath, identEq]
      simp only [separatorEq, pathEq]
      rw [joined_cons derived.path_idents.1]
  | lastType _ ih =>
      intro ts of after close
      obtain ⟨⟨left, h⟩, typeEq, ofRest⟩ := ih ts of (.ofToken close (by simp) (by simp))
      have noComma : left.eat .comma = none :=
        eat_eq_none ofRest (by simp) fun x front => absurd (close.unique front) (by simp)
      obtain ⟨⟨left', h'⟩, closeEq, ofRest'⟩ := eat_complete ofRest close
      refine ⟨⟨left', Nat.lt_trans h' h⟩, ?_, ofRest'⟩
      rw [readArgs, typeEq]
      simp only [noComma, closeEq]
  | consType _ comma _ ihType ihList =>
      intro ts of after close
      obtain ⟨⟨left, h⟩, typeEq, ofRest⟩ := ihType ts of (.ofToken comma (by simp) (by simp))
      obtain ⟨⟨left', h'⟩, commaEq, ofRest'⟩ := eat_complete ofRest comma
      obtain ⟨⟨left'', h''⟩, listEq, ofRest''⟩ := ihList left' ofRest' after close
      refine ⟨⟨left'', Nat.lt_trans h'' (Nat.lt_trans h' h)⟩, ?_, ofRest''⟩
      rw [readArgs, typeEq]
      simp only [commaEq, listEq]
  | noArguments => exact Or.inl ⟨rfl, rfl⟩
  | arguments opened _ close ih => exact Or.inr ⟨_, opened, fun ts of => ih ts of _ close⟩
  | unresolved front =>
      intro ts of _
      obtain ⟨offset, after, rfl, ofRest⟩ := of.next front
      exact ⟨⟨after, Nat.lt_succ_self _⟩, by rw [readType], ofRest⟩
  | unit front =>
      intro ts of _
      obtain ⟨offset, after, rfl, ofRest⟩ := of.next front
      exact ⟨⟨after, Nat.lt_succ_self _⟩, by rw [readType], ofRest⟩
  | param dollar front =>
      intro ts of _
      obtain ⟨offset, after, rfl, ofRest⟩ := of.next dollar
      obtain ⟨⟨after', h⟩, identEq, ofRest'⟩ := eatIdent_complete ofRest front
      refine ⟨⟨after', Nat.lt_succ_of_lt h⟩, ?_, ofRest'⟩
      rw [readType]
      simp only [identEq]
  | array opened _ close ih =>
      intro ts of _
      obtain ⟨offset, after, rfl, ofRest⟩ := of.next opened
      obtain ⟨⟨after', h⟩, typeEq, ofRest'⟩ := ih after ofRest (.ofToken close (by simp) (by simp))
      obtain ⟨⟨after'', h'⟩, closeEq, ofRest''⟩ := eat_complete ofRest' close
      refine ⟨⟨after'', Nat.lt_succ_of_lt (Nat.lt_trans h' h)⟩, ?_, ofRest''⟩
      rw [readType]
      simp only [typeEq, closeEq]
  | named _ path _ ihLead ihPath ihArguments =>
      intro ts of ends
      rcases ihLead with rfl | separator
      · -- without a separator in front, the first token is the identifier of the first segment
        obtain ⟨r, namedEq, ofRest⟩ := readNamed_complete path ihPath ihArguments ends of
        obtain ⟨⟨name, after, front⟩, -⟩ := ihPath
        obtain ⟨offset, left, rfl, -⟩ := of.next front
        exact ⟨r, by rw [readType, namedEq] <;> simp, ofRest⟩
      · obtain ⟨offset, after, rfl, ofRest⟩ := of.next separator
        obtain ⟨⟨after', h⟩, namedEq, ofRest'⟩ :=
          readNamed_complete path ihPath ihArguments ends ofRest
        refine ⟨⟨after', Nat.lt_succ_of_lt h⟩, ?_, ofRest'⟩
        rw [readType]
        simp only [namedEq]

/-!
### Whole texts
-/

/-- A text that is read as a type denotes it. -/
theorem denotesType_of_parse {text : String} {t : TypeExpr} (read : parse text = .ok t) :
    DenotesType text t := by
  have of : (Lexemes.ofText text).Of text.toList := ⟨0, rfl⟩
  rw [parse, readWhole] at read
  split at read
  · rename_i whole
    cases read
    split at whole
    · cases whole
    · rename_i after h typeEq
      obtain ⟨rest, derived, ofRest⟩ := readType_sound of typeEq
      split at whole
      · cases whole
        exact ⟨rest, derived, ofRest.blanks⟩
      · cases whole
  · cases read

/-- A text that denotes a type is read as it. -/
theorem parse_of_denotesType {text : String} {t : TypeExpr} (denotes : DenotesType text t) :
    parse text = .ok t := by
  obtain ⟨rest, derived, blank⟩ := denotes
  have of : (Lexemes.ofText text).Of text.toList := ⟨0, rfl⟩
  obtain ⟨⟨after, h⟩, typeEq, ofRest⟩ := readOff_of_derives derived _ of (.ofBlanks blank)
  obtain ⟨offset, rfl⟩ := ofRest.ofBlanks blank
  rw [parse, readWhole, typeEq]

/-- The reader accepts exactly the texts of the grammar, each as the type that it denotes. -/
theorem parse_eq_ok_iff (text : String) (t : TypeExpr) : parse text = .ok t ↔ DenotesType text t :=
  ⟨denotesType_of_parse, parse_of_denotesType⟩

end RouteScribe.TypeExpr
