/-
Module: RouteScribe.Proofs.TypeText.Lexing
Layer: Proofs
Purpose: The lexemes of a text are its tokens. A token stands at the front of a text exactly if it is the first
  lexeme, and what is left of the text gives the lexemes behind it. Offsets play no part here: lexemes
  belong to a text wherever it starts.
Imports: RouteScribe.Proofs.TypeText.Grammar
Trusted boundary: none
Main exports: Lexemes.Of, Lexemes.Of.next, Lexemes.Of.tokenAt, isIdentChar_of_isBlank
Open obligations: none
-/
import RouteScribe.Proofs.TypeText.Grammar

namespace RouteScribe.TypeExpr

open RouteScribe.Text

/-!
### Character classes

No character is both white space and part of an identifier, so skipping white space never cuts into an
identifier.
-/

/-- The code points of white space. -/
def blankPoints : List Nat :=
  [0x9, 0xA, 0xB, 0xC, 0xD, 0x20, 0x85, 0xA0, 0x1680, 0x2000, 0x2001, 0x2002, 0x2003, 0x2004, 0x2005,
    0x2006, 0x2007, 0x2008, 0x2009, 0x200A, 0x2028, 0x2029, 0x202F, 0x205F, 0x3000]

/-- White space is one of finitely many characters. -/
theorem mem_blankPoints {c : Char} (blank : isBlank c = true) : c.toNat ∈ blankPoints := by
  simp [isBlank, whiteSpace, CodeSet.contains, CodeSet.inside] at blank
  simp only [blankPoints, List.mem_cons, List.not_mem_nil, or_false]
  omega

/-- White space is no part of an identifier. -/
theorem isIdentChar_of_isBlank {c : Char} (blank : isBlank c = true) : isIdentChar c = false := by
  have point := mem_blankPoints blank
  have noLetter : ∀ n ∈ blankPoints, CodeSet.inside lettersAndNumbers.flips n = false := by
    decide +kernel
  have noUnderscore : c ≠ '_' := by
    rintro rfl
    revert point
    decide
  simp [isIdentChar, isLetterOrNumber, CodeSet.contains, noLetter _ point, noUnderscore]

/-- A character of an identifier is no white space. -/
theorem isBlank_of_isIdentChar {c : Char} (part : isIdentChar c = true) : isBlank c = false := by
  cases blank : isBlank c with
  | false => rfl
  | true => rw [isIdentChar_of_isBlank blank] at part; cases part

/-!
### The lexemes of a text
-/

/-- Whether lexemes are those of a text, which may start at any offset. -/
def Lexemes.Of (ts : Lexemes) (cs : List Char) : Prop := ∃ offset, ts = lexemesFrom offset cs

/-- A character that starts a token of its own spells it, unless it is a stray one. -/
theorem spelling_tokenOfChar {c : Char} (known : ∀ d, tokenOfChar c ≠ .stray d) :
    (tokenOfChar c).spelling? = some [c] := by
  revert known
  unfold tokenOfChar
  split
  all_goals first
    | exact fun _ => rfl
    | exact fun known => absurd rfl (known _)

/-- The lexemes of a text that starts with neither half of a pair. -/
theorem lexemesFrom_cons {offset : Nat} {c : Char} {cs : List Char} (noParen : c ≠ '(')
    (noColon : c ≠ ':') :
    lexemesFrom offset (c :: cs) =
      if isBlank c then lexemesFrom (offset + c.utf8Size) cs
      else if isIdentChar c then
        .token (.ident (String.ofList (c :: cs.takeWhile isIdentChar))) offset
          (lexemesFrom (offset + byteCount (c :: cs.takeWhile isIdentChar)) (cs.dropWhile isIdentChar))
      else .token (tokenOfChar c) offset (lexemesFrom (offset + c.utf8Size) cs) := by
  rw [lexemesFrom]
  · rintro ds rfl
    exact absurd rfl noParen
  · rintro ds rfl
    exact absurd rfl noColon

namespace Lexemes.Of

/-- White space in front of a text does not change its lexemes. -/
theorem ofBlank {ts : Lexemes} {c : Char} {cs : List Char} (of : ts.Of (c :: cs))
    (blank : isBlank c = true) : ts.Of cs := by
  obtain ⟨offset, rfl⟩ := of
  have noParen : c ≠ '(' := by rintro rfl; revert blank; decide
  have noColon : c ≠ ':' := by rintro rfl; revert blank; decide
  rw [lexemesFrom_cons noParen noColon, if_pos blank]
  exact ⟨_, rfl⟩

/-- A text of white space has no lexeme. -/
theorem ofBlanks {ts : Lexemes} {cs : List Char} (of : ts.Of cs) (blank : ∀ c ∈ cs, isBlank c = true) :
    ∃ offset, ts = .stop offset := by
  induction cs with
  | nil =>
      obtain ⟨offset, rfl⟩ := of
      exact ⟨offset, by rw [lexemesFrom]⟩
  | cons c cs ih =>
      exact ih (of.ofBlank (blank c (by simp))) fun d mem => blank d (List.mem_cons_of_mem _ mem)

/-- A text without any lexeme is white space. -/
theorem blanks {offset : Nat} {cs : List Char} (of : (Lexemes.stop offset).Of cs) :
    ∀ c ∈ cs, isBlank c = true := by
  obtain ⟨start, eq⟩ := of
  fun_induction lexemesFrom start cs with
  | case1 => simp
  | case2 => cases eq
  | case3 => cases eq
  | case4 start c cs _ _ blank ih =>
      intro d mem
      rcases List.mem_cons.mp mem with rfl | mem
      · exact blank
      · exact ih eq d mem
  | case5 => cases eq
  | case6 => cases eq

/-- An identifier in front of a text is its first lexeme. -/
theorem ofIdent {ts : Lexemes} {name : String} {rest : List Char} (of : ts.Of (name.toList ++ rest))
    (ident : IsIdentifier name) (ends : ∀ c ∈ rest.head?, isIdentChar c = false) :
    ∃ offset after, ts = .token (.ident name) offset after ∧ after.Of rest := by
  obtain ⟨offset, rfl⟩ := of
  obtain ⟨nonempty, parts⟩ := ident
  obtain ⟨c, cs, chars⟩ := List.exists_cons_of_ne_nil nonempty
  rw [chars] at parts
  have part : isIdentChar c = true := parts c (by simp)
  have tail : ∀ d ∈ cs, isIdentChar d = true := fun d mem => parts d (List.mem_cons_of_mem _ mem)
  have noParen : c ≠ '(' := by rintro rfl; revert part; decide
  have noColon : c ≠ ':' := by rintro rfl; revert part; decide
  have stop : rest.takeWhile isIdentChar = [] ∧ rest.dropWhile isIdentChar = rest := by
    cases rest with
    | nil => simp
    | cons d ds => simp [ends d rfl]
  have taken : (cs ++ rest).takeWhile isIdentChar = cs := by
    rw [List.takeWhile_append_of_pos tail, stop.1, List.append_nil]
  have left : (cs ++ rest).dropWhile isIdentChar = rest := by
    rw [List.dropWhile_append_of_pos tail, stop.2]
  have whole : String.ofList (c :: cs) = name := by rw [← chars, String.ofList_toList]
  rw [chars, List.cons_append, lexemesFrom_cons noParen noColon, isBlank_of_isIdentChar part, part,
    taken, left, whole]
  exact ⟨_, _, rfl, _, rfl⟩

/-- A token with a fixed spelling in front of a text is its first lexeme. -/
theorem ofSymbol {ts : Lexemes} {token : Token} {spelled rest : List Char}
    (of : ts.Of (spelled ++ rest)) (spelling : token.spelling? = some spelled) :
    ∃ offset after, ts = .token token offset after ∧ after.Of rest := by
  obtain ⟨offset, rfl⟩ := of
  cases token with
  | emptyTuple =>
      cases spelling
      exact ⟨_, _, by rw [List.cons_append, List.cons_append, List.nil_append, lexemesFrom], _, rfl⟩
  | separator =>
      cases spelling
      exact ⟨_, _, by rw [List.cons_append, List.cons_append, List.nil_append, lexemesFrom], _, rfl⟩
  | ident name => cases spelling
  | stray c => cases spelling
  | _ =>
      cases spelling
      rw [List.cons_append, List.nil_append, lexemesFrom_cons (by decide) (by decide),
        if_neg (by decide), if_neg (by decide)]
      exact ⟨_, _, rfl, _, rfl⟩

/-- A token at the front of a text is its first lexeme. -/
theorem next {ts : Lexemes} {token : Token} {cs rest : List Char} (of : ts.Of cs)
    (front : TokenAt token cs rest) :
    ∃ offset after, ts = .token token offset after ∧ after.Of rest := by
  induction front with
  | blank blank _ ih => exact ih (of.ofBlank blank)
  | symbol spelling => exact of.ofSymbol spelling
  | ident isIdent ident ends =>
      subst isIdent
      exact of.ofIdent ident ends

/-- The first lexeme of a text stands at its front, unless it is a stray character. -/
theorem tokenAt {token : Token} {offset : Nat} {after : Lexemes} {cs : List Char}
    (of : (Lexemes.token token offset after).Of cs) (known : ∀ c, token ≠ .stray c) :
    ∃ rest, TokenAt token cs rest ∧ after.Of rest := by
  obtain ⟨start, eq⟩ := of
  fun_induction lexemesFrom start cs with
  | case1 => cases eq
  | case2 start cs =>
      cases eq
      exact ⟨cs, show TokenAt _ (['(', ')'] ++ cs) cs from .symbol rfl, _, rfl⟩
  | case3 start cs =>
      cases eq
      exact ⟨cs, show TokenAt _ ([':', ':'] ++ cs) cs from .symbol rfl, _, rfl⟩
  | case4 start c cs _ _ blank ih =>
      obtain ⟨rest, front, of⟩ := ih eq
      exact ⟨rest, .blank blank front, of⟩
  | case5 start c cs _ _ _ part name =>
      cases eq
      have chars : (String.ofList name).toList = name := String.toList_ofList
      have split : c :: cs = (String.ofList name).toList ++ cs.dropWhile isIdentChar := by
        rw [chars, List.cons_append, List.takeWhile_append_dropWhile]
      have ident : IsIdentifier (String.ofList name) := by
        refine ⟨by simp [name], fun d mem => ?_⟩
        rw [chars] at mem
        rcases List.mem_cons.mp mem with rfl | mem
        · exact part
        · exact List.all_eq_true.mp List.all_takeWhile d mem
      refine ⟨cs.dropWhile isIdentChar, ?_, _, rfl⟩
      rw [split]
      refine .ident rfl ident fun d mem => ?_
      have ends := List.head?_dropWhile_not isIdentChar cs
      rw [Option.mem_def.mp mem] at ends
      exact ends
  | case6 start c cs _ _ _ _ =>
      cases eq
      exact ⟨cs, show TokenAt _ ([c] ++ cs) cs from .symbol (spelling_tokenOfChar known), _, rfl⟩

end Lexemes.Of

end RouteScribe.TypeExpr
