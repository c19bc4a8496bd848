/-
Module: RouteScribe.Proofs.TypeText.Demands
Layer: Proofs
Purpose: What the reader of type texts still wants. At every place in a text the reader waits for a stack of demands,
  and the next token either meets the first of them or is refused; nothing else of the text matters. The reader refuses
  a text exactly where a run of this machine stops. Whatever is still wanted can be supplied, and of the refused token
  only its kind matters.
Imports: RouteScribe.TypeExpr.Reader
Trusted boundary: none
Main exports: Demand, Demand.meet, Demand.run, Demand.run_eq_readType, Demand.run_eq_readWhole, Lexemes.LedBy,
  Demand.run_ledBy, Demand.exists_refused, Demand.meet_ident, Demand.fill, Demand.run_fill
Open obligations: none
-/
import RouteScribe.TypeExpr.Reader

namespace RouteScribe.TypeExpr

/-- Something that the reader waits for. -/
inductive Demand where
  | type
  /-- A segment of a path, with all that can follow it. -/
  | segment
  /-- Behind a segment: a separator and a further segment, or arguments, or nothing. -/
  | furtherPath
  /-- The name of a placeholder. -/
  | name
  | closeBracket
  /-- Behind an argument: a comma and further arguments, or the closing bracket. -/
  | furtherArgs
deriving DecidableEq, Repr

namespace Demand

/-!
### The machine
-/

/-- What is wanted behind a token, if the token is not refused. -/
def meet : List Demand → Token → Option (List Demand)
  | .type :: ds, .bang => some ds
  | .type :: ds, .emptyTuple => some ds
  | .type :: ds, .dollar => some (.name :: ds)
  | .type :: ds, .openBracket => some (.type :: .closeBracket :: ds)
  | .type :: ds, .separator => some (.segment :: ds)
  | .type :: ds, .ident _ => some (.furtherPath :: ds)
  | .segment :: ds, .ident _ => some (.furtherPath :: ds)
  | .furtherPath :: ds, .separator => some (.segment :: ds)
  | .furtherPath :: ds, .openAngle => some (.type :: .furtherArgs :: ds)
  | .furtherPath :: ds, token => meet ds token
  | .name :: ds, .ident _ => some ds
  | .closeBracket :: ds, .closeBracket => some ds
  | .furtherArgs :: ds, .comma => some (.type :: .furtherArgs :: ds)
  | .furtherArgs :: ds, .closeAngle => some ds
  | _, _ => none

/-- Whether a text may end: nothing is wanted but what can be left out. -/
def mayEnd (ds : List Demand) : Bool := ds.all (· == .furtherPath)

/-- Where lexemes are refused when all of `ds` is wanted, if they are. -/
def run (ds : List Demand) : Lexemes → Option Nat
  | .stop offset => if mayEnd ds then none else some offset
  | .token token offset rest =>
    match meet ds token with
    | none => some offset
    | some ds' => run ds' rest

variable {ds ds' : List Demand} {ts rest : Lexemes} {token : Token} {offset : Nat}

theorem run_token (met : meet ds token = some ds') : run ds (.token token offset rest) = run ds' rest := by
  rw [run, met]

/-- Where something is wanted that no token meets, the next token is refused, or the end of the text. -/
theorem run_refused (unmet : ∀ token offset rest, ts = .token token offset rest → meet ds token = none)
    (wanted : mayEnd ds = false) : run ds ts = some ts.offset := by
  cases ts with
  | stop offset =>
      rw [run, wanted]
      rfl
  | token token offset rest =>
      rw [run, unmet token offset rest rfl]
      rfl

/-!
### The reader and the machine
-/

/-- Where the text is refused after something has been read, if all of `ds` is wanted behind it. -/
def resumed {α : Type} {ts : Lexemes} (ds : List Demand) : Except Fault (α × ts.Rest) → Option Nat
  | .error fault => some fault.offset
  | .ok (_, rest) => run ds rest.val

theorem resumed_ok {α : Type} (a : α) (r : ts.Rest) : resumed ds (.ok (a, r)) = run ds r.val := rfl

theorem ne_of_eat_eq_none {expected : Token} (absent : ts.eat expected = none) (next : ts = .token token offset rest) :
    token ≠ expected := by
  rintro rfl
  rw [next, Lexemes.eat, if_pos rfl] at absent
  cases absent

theorem eat_eq_some {expected : Token} {h : rest.size < ts.size} (taken : ts.eat expected = some ⟨rest, h⟩) :
    ∃ offset, ts = .token expected offset rest := by
  cases ts with
  | stop offset => cases taken
  | token found offset rest =>
      rw [Lexemes.eat] at taken
      split at taken
      · rename_i same
        cases taken
        exact ⟨offset, by rw [same]⟩
      · cases taken

theorem eatIdent_eq_some {name : String} {h : rest.size < ts.size} (taken : ts.eatIdent = some (name, ⟨rest, h⟩)) :
    ∃ offset, ts = .token (.ident name) offset rest := by
  cases ts with
  | stop offset => cases taken
  | token found offset rest =>
      cases found with
      | ident other =>
          cases taken
          exact ⟨offset, rfl⟩
      | _ => cases taken

theorem run_noIdent {wanted : Demand} (isWanted : wanted = .segment ∨ wanted = .name) (absent : ts.eatIdent = none) :
    run (wanted :: ds) ts = some ts.offset := by
  apply run_refused
  · rintro token offset rest rfl
    cases token with
    | ident name => cases absent
    | _ => rcases isWanted with rfl | rfl <;> rfl
  · rcases isWanted with rfl | rfl <;> rfl

theorem run_unclosed (absent : ts.eat .closeBracket = none) : run (.closeBracket :: ds) ts = some ts.offset := by
  apply run_refused
  · intro token offset rest next
    have other := ne_of_eat_eq_none absent next
    cases token with
    | closeBracket => exact absurd rfl other
    | _ => rfl
  · rfl

theorem run_unended (noComma : ts.eat .comma = none) (noClose : ts.eat .closeAngle = none) :
    run (.furtherArgs :: ds) ts = some ts.offset := by
  apply run_refused
  · intro token offset rest next
    have other := ne_of_eat_eq_none noComma next
    have other' := ne_of_eat_eq_none noClose next
    cases token with
    | comma => exact absurd rfl other
    | closeAngle => exact absurd rfl other'
    | _ => rfl
  · rfl

/-- Behind a segment neither a separator nor arguments have to follow. -/
theorem run_furtherPath (noSeparator : ts.eat .separator = none) (noAngle : ts.eat .openAngle = none) :
    run (.furtherPath :: ds) ts = run ds ts := by
  cases ts with
  | stop offset => rfl
  | token token offset rest =>
      have other := ne_of_eat_eq_none noSeparator rfl
      have other' := ne_of_eat_eq_none noAngle rfl
      have same : meet (.furtherPath :: ds) token = meet ds token := by
        cases token with
        | separator => exact absurd rfl other
        | openAngle => exact absurd rfl other'
        | _ => rfl
      rw [run, run, same]

/-- A path is read as the machine takes it. -/
theorem run_eq_readPath (ds : List Demand) (ts : Lexemes) :
    run (.segment :: ds) ts = resumed (.furtherPath :: ds) (readPath ts) := by
  rw [readPath]
  split
  · rename_i absent
    exact run_noIdent (.inl rfl) absent
  · rename_i name rest h taken
    obtain ⟨offset, rfl⟩ := eatIdent_eq_some taken
    rw [run_token rfl]
    split
    · rfl
    · rename_i after h' separated
      obtain ⟨offset', rfl⟩ := eat_eq_some separated
      rw [run_token rfl, run_eq_readPath ds after]
      cases readPath after <;> rfl
termination_by ts.size
decreasing_by all_goals subst_vars; omega

/-- No separator is left behind a path. -/
theorem noSeparator_of_readPath {ts rest : Lexemes} {path : String} {h : rest.size < ts.size}
    (read : readPath ts = .ok (path, ⟨rest, h⟩)) : rest.eat .separator = none := by
  rw [readPath] at read
  split at read
  · cases read
  · split at read
    · rename_i absent
      cases read
      exact absent
    · split at read
      · cases read
      · rename_i readRest
        cases read
        exact noSeparator_of_readPath readRest
termination_by ts.size

mutual

/-- A type is read as the machine takes it. -/
theorem run_eq_readType (ds : List Demand) (ts : Lexemes) : run (.type :: ds) ts = resumed ds (readType ts) := by
  rw [readType.eq_def]
  -- one case for each first token: `!`, `()`, `$`, `[`, `::`, and all others, which must begin a path
  split
  · rfl
  · rfl
  · rename_i rest
    rw [run_token rfl]
    split
    · rename_i absent
      exact run_noIdent (.inr rfl) absent
    · rename_i taken
      obtain ⟨offset, rfl⟩ := eatIdent_eq_some taken
      rfl
  · rename_i rest
    rw [run_token rfl, run_eq_readType _ rest]
    split
    · rename_i refused
      rw [refused]
      rfl
    · rename_i element after h read
      rw [read, resumed_ok]
      split
      · rename_i unclosed
        exact run_unclosed unclosed
      · rename_i closed
        obtain ⟨offset, rfl⟩ := eat_eq_some closed
        rfl
  · rename_i rest
    rw [run_token rfl, run_eq_readNamed ds rest]
    cases readNamed rest <;> rfl
  · rename_i noBang noTuple noDollar noBracket noSeparator
    rw [← run_eq_readNamed ds ts]
    cases ts with
    | stop offset => rfl
    | token token offset rest =>
        cases token with
        | bang => exact absurd rfl (noBang offset rest)
        | emptyTuple => exact absurd rfl (noTuple offset rest)
        | dollar => exact absurd rfl (noDollar offset rest)
        | openBracket => exact absurd rfl (noBracket offset rest)
        | separator => exact absurd rfl (noSeparator offset rest)
        | _ => rfl
termination_by (ts.size, 1)
decreasing_by
  all_goals subst_vars
  · exact Prod.Lex.left _ _ (by simp [Lexemes.size])
  · exact Prod.Lex.left _ _ (by simp [Lexemes.size])
  · exact Prod.Lex.right _ (by omega)

/-- A path with its arguments is read as the machine takes it. -/
theorem run_eq_readNamed (ds : List Demand) (ts : Lexemes) : run (.segment :: ds) ts = resumed ds (readNamed ts) := by
  rw [run_eq_readPath, readNamed]
  split
  · rename_i refused
    rw [refused]
    rfl
  · rename_i path rest h read
    rw [read, resumed_ok]
    split
    · rename_i noAngle
      exact run_furtherPath (noSeparator_of_readPath read) noAngle
    · rename_i after h' opened
      obtain ⟨offset, rfl⟩ := eat_eq_some opened
      rw [run_token rfl, run_eq_readArgs ds after]
      cases readArgs after <;> rfl
termination_by (ts.size, 0)
decreasing_by exact Prod.Lex.left _ _ (by omega)

/-- Arguments are read as the machine takes them. -/
theorem run_eq_readArgs (ds : List Demand) (ts : Lexemes) :
    run (.type :: .furtherArgs :: ds) ts = resumed ds (readArgs ts) := by
  rw [run_eq_readType, readArgs]
  split
  · rename_i refused
    rw [refused]
    rfl
  · rename_i arg rest h read
    rw [read, resumed_ok]
    split
    · rename_i after h' separated
      obtain ⟨offset, rfl⟩ := eat_eq_some separated
      rw [run_token rfl, run_eq_readArgs ds after]
      cases readArgs after <;> rfl
    · rename_i noComma
      split
      · rename_i after h' closed
        obtain ⟨offset, rfl⟩ := eat_eq_some closed
        rfl
      · rename_i unclosed
        exact run_unended noComma unclosed
termination_by (ts.size, 2)
decreasing_by
  · exact Prod.Lex.right _ (by omega)
  · exact Prod.Lex.left _ _ (by omega)

end

/-- Where a text is refused as a whole, if it is. -/
def refusedAt {α : Type} : Except Fault α → Option Nat
  | .error fault => some fault.offset
  | .ok _ => none

/-- A whole text is refused where the machine refuses it when a type is wanted and nothing else. -/
theorem run_eq_readWhole (ts : Lexemes) : run [.type] ts = refusedAt (readWhole ts) := by
  rw [run_eq_readType, readWhole]
  split
  · rename_i refused
    rw [refused]
    rfl
  · rename_i t rest h read
    rw [read, resumed_ok]
    cases rest <;> rfl

end Demand

/-!
### Tokens in front
-/

/-- `ts.LedBy tokens rest` says that the given tokens come first, wherever they stand, and that `rest` is left behind
    them. -/
inductive Lexemes.LedBy : Lexemes → List Token → Lexemes → Prop where
  | nil {rest : Lexemes} : LedBy rest [] rest
  | cons {token : Token} {offset : Nat} {tokens : List Token} {ts rest : Lexemes} :
      LedBy ts tokens rest → LedBy (.token token offset ts) (token :: tokens) rest

namespace Demand

variable {ds ds' : List Demand} {ts rest : Lexemes} {tokens : List Token} {token : Token} {n : Nat}

/-- What is wanted behind some tokens, if none of them is refused. -/
def meetAll (ds : List Demand) (tokens : List Token) : Option (List Demand) := tokens.foldlM meet ds

/-- Of the tokens that are taken, it does not matter where they stand or what follows. -/
theorem run_ledBy (led : ts.LedBy tokens rest) (met : meetAll ds tokens = some ds') : run ds ts = run ds' rest := by
  induction led generalizing ds with
  | nil =>
      cases met
      rfl
  | cons _ ih =>
      rw [meetAll, List.foldlM_cons] at met
      obtain ⟨next, isNext, met⟩ := Option.bind_eq_some_iff.mp met
      rw [run_token isNext]
      exact ih met

/-- A run that refuses a text has taken all tokens in front of the place. -/
theorem exists_refused (refused : run ds ts = some n) :
    ∃ tokens rest ds', ts.LedBy tokens rest ∧ meetAll ds tokens = some ds' ∧ rest.offset = n ∧
      ∀ token offset after, rest = .token token offset after → meet ds' token = none := by
  induction ts generalizing ds with
  | stop offset =>
      rw [run] at refused
      split at refused
      · cases refused
      · cases refused
        exact ⟨[], _, ds, .nil, rfl, rfl, nofun⟩
  | token token offset ts ih =>
      rw [run] at refused
      split at refused
      · rename_i unmet
        cases refused
        refine ⟨[], _, ds, .nil, rfl, rfl, fun token offset after next => ?_⟩
        cases next
        exact unmet
      · rename_i next met
        obtain ⟨tokens, rest, ds', led, metAll, place, unmet⟩ := ih refused
        refine ⟨token :: tokens, rest, ds', .cons led, ?_, place, unmet⟩
        rw [meetAll, List.foldlM_cons, met]
        exact metAll

/-- Of an identifier the name does not matter. -/
theorem meet_ident (ds : List Demand) (name name' : String) : meet ds (.ident name) = meet ds (.ident name') := by
  induction ds with
  | nil => rfl
  | cons d ds ih =>
      cases d with
      | furtherPath => exact ih
      | _ => rfl

/-!
### Supplying what is wanted
-/

/-- Tokens that meet all demands: a name for whatever has one, and the closing brackets. -/
def fill : List Demand → List Token
  | [] => []
  | .type :: ds => .ident "a" :: fill ds
  | .segment :: ds => .ident "a" :: fill ds
  | .furtherPath :: ds => fill ds
  | .name :: ds => .ident "a" :: fill ds
  | .closeBracket :: ds => .closeBracket :: fill ds
  | .furtherArgs :: ds => .closeAngle :: fill ds

theorem mem_fill (ds : List Demand) :
    ∀ token ∈ fill ds, token = .ident "a" ∨ token = .closeBracket ∨ token = .closeAngle := by
  induction ds with
  | nil => exact nofun
  | cons d ds ih =>
      cases d with
      | furtherPath => exact ih
      | closeBracket => exact List.forall_mem_cons.mpr ⟨.inr (.inl rfl), ih⟩
      | furtherArgs => exact List.forall_mem_cons.mpr ⟨.inr (.inr rfl), ih⟩
      | type | segment | name => exact List.forall_mem_cons.mpr ⟨.inl rfl, ih⟩

/-- Such tokens never go on with a path, so nothing more is wanted behind a segment. -/
theorem run_furtherPath_fill (led : ts.LedBy (fill ds) (.stop n)) : run (.furtherPath :: ds) ts = run ds ts := by
  have other {expected : Token} (notFilled : expected ∉ [.ident "a", .closeBracket, .closeAngle]) :
      ts.eat expected = none := by
    generalize isFill : fill ds = tokens at led
    cases led with
    | nil => rfl
    | cons _ =>
        refine if_neg fun same => notFilled ?_
        have filled := mem_fill ds _ (isFill ▸ List.mem_cons_self)
        simpa [← same] using filled
  exact run_furtherPath (other (by simp)) (other (by simp))

/-- Whatever is wanted can be supplied. -/
theorem run_fill (led : ts.LedBy (fill ds) (.stop n)) : run ds ts = none := by
  induction ds generalizing ts with
  | nil =>
      cases led
      rfl
  | cons d ds ih =>
      cases d with
      | furtherPath =>
          rw [fill] at led
          rw [run_furtherPath_fill led, ih led]
      | type | segment =>
          cases led with
          | cons led => rw [run_token rfl, run_furtherPath_fill led, ih led]
      | name | closeBracket | furtherArgs =>
          cases led with
          | cons led => rw [run_token rfl, ih led]

end Demand

end RouteScribe.TypeExpr
