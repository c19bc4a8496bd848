/-
Module: RouteScribe.Proofs.TypeText.Refusals
Layer: Proofs
Purpose: A text that is no type is refused at the right place. What stands in front of the place can be extended to the
  text of a type, and with the character at the place it cannot, unless that is half of a pair. The tokens in front of
  a place stay the same when the text behind it is replaced, as long as the replacement does not go on with the last
  token.
Imports: Mathlib, RouteScribe.Proofs.TypeText.Demands, RouteScribe.Proofs.TypeText.Lexing
Trusted boundary: human-reviewed spec
Main exports: Viable, Replaces, lexemesFrom_replaces, exists_ledBy, parse_refused_in_place
Open obligations: none
-/
import Mathlib
import RouteScribe.Proofs.TypeText.Demands
import RouteScribe.Proofs.TypeText.Lexing

namespace RouteScribe.TypeExpr

open RouteScribe.Text

/-- Whether a text can be extended to one that is read as a type. -/
def Viable (front : String) : Prop := ∃ behind t, parse (front ++ behind) = .ok t

variable {cs front behind behind' : List Char} {offset n : Nat} {token : Token} {tokens : List Token}
  {ts rest : Lexemes}

/-!
### Bytes
-/

theorem byteCount_append (cs ds : List Char) : byteCount (cs ++ ds) = byteCount cs + byteCount ds := by
  induction cs with
  | nil => rw [List.nil_append, byteCount, Nat.zero_add]
  | cons c cs ih => rw [List.cons_append, byteCount, byteCount, ih, Nat.add_assoc]

/-- Bytes are counted as in the text itself. -/
theorem utf8ByteSize_eq (cs : List Char) : (String.ofList cs).utf8ByteSize = byteCount cs := by
  induction cs with
  | nil => rfl
  | cons c cs ih => rw [String.ofList_cons, String.utf8ByteSize_append, String.utf8ByteSize_singleton, ih, byteCount]

/-!
### Replacing what stands behind a token
-/

/-- Neither white space nor an identifier begins with half of a pair. -/
theorem ne_half_of_isBlank {c : Char} (blank : isBlank c = true) : c ≠ '(' ∧ c ≠ ':' := by
  constructor <;> (rintro rfl; revert blank; decide)

theorem ne_half_of_isIdentChar {c : Char} (part : isIdentChar c = true) : c ≠ '(' ∧ c ≠ ':' := by
  constructor <;> (rintro rfl; revert part; decide)

theorem head?_dropWhile (part : Char → Bool) (cs : List Char) : ∀ c ∈ (cs.dropWhile part).head?, part c = false := by
  intro c mem
  have ends := List.head?_dropWhile_not part cs
  rwa [Option.mem_def.mp mem] at ends

/-- Whether a text can stand behind a token in place of another one: it begins with the same character or with white
    space, or there is nothing of it. -/
def Replaces (behind' behind : List Char) : Prop :=
  behind'.head? = behind.head? ∨ ∀ c ∈ behind'.head?, isBlank c = true

theorem Replaces.append (replaces : Replaces behind' behind) (front : List Char) :
    Replaces (front ++ behind') (front ++ behind) := by
  cases front with
  | nil => exact replaces
  | cons c front => exact .inl rfl

/-- If no character of a kind without white space comes first, a replacement does not begin with one either. -/
theorem Replaces.head {part : Char → Bool} (replaces : Replaces behind' behind)
    (noBlank : ∀ c, isBlank c = true → part c = false) (ends : ∀ c ∈ behind.head?, part c = false) :
    ∀ c ∈ behind'.head?, part c = false := by
  intro c mem
  rcases replaces with same | blank
  · exact ends c (same ▸ mem)
  · exact noBlank c (blank c mem)

theorem Replaces.not_cons {c : Char} (replaces : Replaces behind' behind) (noBlank : isBlank c = false)
    (other : ∀ ds, behind ≠ c :: ds) (ds : List Char) : behind' ≠ c :: ds := by
  rintro rfl
  rcases replaces with same | blank
  · obtain ⟨ds', isCons⟩ := List.head?_eq_some_iff.mp same.symm
    exact other ds' isCons
  · rw [blank c rfl] at noBlank
    cases noBlank

/-- The first lexeme of a text has a front of its own, and does not change if what is behind that is replaced. -/
theorem lexemesFrom_replaces (first : lexemesFrom offset cs = .token token n ts) :
    ∃ front behind, cs = front ++ behind ∧ ts = lexemesFrom (offset + byteCount front) behind ∧
      ∀ behind', Replaces behind' behind →
        lexemesFrom offset (front ++ behind') = .token token n (lexemesFrom (offset + byteCount front) behind') := by
  fun_induction lexemesFrom offset cs with
  | case1 => cases first
  | case2 offset cs =>
      cases first
      refine ⟨['(', ')'], cs, rfl, rfl, fun behind' _ => ?_⟩
      rw [List.cons_append, List.cons_append, List.nil_append, lexemesFrom]
      rfl
  | case3 offset cs =>
      cases first
      refine ⟨[':', ':'], cs, rfl, rfl, fun behind' _ => ?_⟩
      rw [List.cons_append, List.cons_append, List.nil_append, lexemesFrom]
      rfl
  | case4 offset c cs _ _ blank ih =>
      obtain ⟨front, behind, rfl, rfl, replaced⟩ := ih first
      obtain ⟨noParen, noColon⟩ := ne_half_of_isBlank blank
      refine ⟨c :: front, behind, rfl, by rw [byteCount, Nat.add_assoc], fun behind' replaces => ?_⟩
      rw [List.cons_append, lexemesFrom_cons noParen noColon, if_pos blank, replaced behind' replaces, byteCount,
        Nat.add_assoc]
  | case5 offset c cs _ _ noBlank part name =>
      cases first
      obtain ⟨noParen, noColon⟩ := ne_half_of_isIdentChar part
      refine ⟨name, cs.dropWhile isIdentChar, ?_, rfl, fun behind' replaces => ?_⟩
      · rw [List.cons_append, List.takeWhile_append_dropWhile]
      · have ends := replaces.head (fun _ => isIdentChar_of_isBlank) (head?_dropWhile isIdentChar cs)
        have tail : ∀ d ∈ cs.takeWhile isIdentChar, isIdentChar d = true := List.all_eq_true.mp List.all_takeWhile
        have stop : behind'.takeWhile isIdentChar = [] ∧ behind'.dropWhile isIdentChar = behind' := by
          cases behind' with
          | nil => simp
          | cons d ds => simp [ends d rfl]
        rw [List.cons_append, lexemesFrom_cons noParen noColon, if_neg noBlank, if_pos part,
          List.takeWhile_append_of_pos tail, List.dropWhile_append_of_pos tail, stop.1, stop.2, List.append_nil]
  | case6 offset c cs noTuple noSeparator noBlank noPart =>
      cases first
      refine ⟨[c], cs, rfl, rfl, fun behind' replaces => ?_⟩
      rw [List.cons_append, List.nil_append, lexemesFrom, if_neg noBlank, if_neg noPart]
      · rfl
      · rintro ds rfl
        exact replaces.not_cons (by decide) (fun ds => noTuple ds rfl) ds
      · rintro ds rfl
        exact replaces.not_cons (by decide) (fun ds => noSeparator ds rfl) ds

/-!
### Places between tokens
-/

theorem lexemesFrom_blanks (blank : ∀ c ∈ front, isBlank c = true) (behind : List Char) (offset : Nat) :
    lexemesFrom offset (front ++ behind) = lexemesFrom (offset + byteCount front) behind := by
  induction front generalizing offset with
  | nil => rfl
  | cons c front ih =>
      obtain ⟨first, blank⟩ := List.forall_mem_cons.mp blank
      obtain ⟨noParen, noColon⟩ := ne_half_of_isBlank first
      rw [List.cons_append, lexemesFrom_cons noParen noColon, if_pos first, ih blank, byteCount, Nat.add_assoc]

/-- The first lexeme starts where a text does that begins with no white space. -/
theorem offset_lexemesFrom (noBlank : ∀ c ∈ cs.head?, isBlank c = false) : (lexemesFrom offset cs).offset = offset := by
  fun_cases lexemesFrom offset cs with
  | case1 => rfl
  | case2 => rfl
  | case3 => rfl
  | case4 c cs _ _ blank =>
      rw [noBlank c rfl] at blank
      cases blank
  | case5 => rfl
  | case6 => rfl

/-- Some tokens of a text have a front of their own, with the white space behind them, and stay the same if what is
    behind that is replaced. -/
theorem exists_ledBy (led : (lexemesFrom offset cs).LedBy tokens rest) :
    ∃ front behind, cs = front ++ behind ∧ (∀ c ∈ behind.head?, isBlank c = false) ∧
      rest = lexemesFrom (offset + byteCount front) behind ∧
      ∀ behind', Replaces behind' behind →
        (lexemesFrom offset (front ++ behind')).LedBy tokens (lexemesFrom (offset + byteCount front) behind') := by
  generalize isText : lexemesFrom offset cs = ts at led
  induction led generalizing offset cs with
  | nil =>
      have blank : ∀ c ∈ cs.takeWhile isBlank, isBlank c = true := List.all_eq_true.mp List.all_takeWhile
      refine ⟨cs.takeWhile isBlank, cs.dropWhile isBlank, List.takeWhile_append_dropWhile.symm,
        head?_dropWhile isBlank cs, ?_, ?_⟩
      · rw [← lexemesFrom_blanks blank, List.takeWhile_append_dropWhile, isText]
      · intro behind' _
        rw [lexemesFrom_blanks blank]
        exact .nil
  | cons _ ih =>
      obtain ⟨front, behind, rfl, isRest, replaced⟩ := lexemesFrom_replaces isText
      obtain ⟨front', behind, rfl, noBlank, isLast, ledBy⟩ := ih isRest.symm
      refine ⟨front ++ front', behind, (List.append_assoc _ _ _).symm, noBlank, ?_, fun behind' replaces => ?_⟩
      · rw [isLast, byteCount_append, Nat.add_assoc]
      · rw [List.append_assoc, replaced _ (replaces.append front'), byteCount_append, ← Nat.add_assoc]
        exact .cons (ledBy behind' replaces)

/-!
### Extending a text
-/

/-- Names and closing brackets can be written one after the other, with white space in front of each. -/
theorem exists_written
    (each : ∀ token ∈ tokens, token = .ident "a" ∨ token = .closeBracket ∨ token = .closeAngle) :
    ∃ text : List Char, (∀ c ∈ text.head?, isBlank c = true) ∧
      ∀ ts : Lexemes, ts.Of text → ∃ n, ts.LedBy tokens (.stop n) := by
  induction tokens with
  | nil =>
      refine ⟨[], nofun, fun ts of => ?_⟩
      obtain ⟨n, rfl⟩ := of.ofBlanks (by simp)
      exact ⟨n, .nil⟩
  | cons token tokens ih =>
      obtain ⟨isFirst, each⟩ := List.forall_mem_cons.mp each
      obtain ⟨text, blank, written⟩ := ih each
      have space : isBlank ' ' = true := by decide
      obtain ⟨chars, front⟩ : ∃ chars, TokenAt token (' ' :: (chars ++ text)) text := by
        rcases isFirst with rfl | rfl | rfl
        · have part : isIdentChar 'a' = true := by decide +kernel
          have ident : IsIdentifier "a" := ⟨by simp, by simpa using part⟩
          exact ⟨_, .blank space (.ident rfl ident fun c mem => isIdentChar_of_isBlank (blank c mem))⟩
        · exact ⟨[']'], .blank space (.symbol rfl)⟩
        · exact ⟨['>'], .blank space (.symbol rfl)⟩
      refine ⟨' ' :: (chars ++ text), ?_, fun ts of => ?_⟩
      · rintro c ⟨⟩
        exact space
      · obtain ⟨offset, after, rfl, ofText⟩ := of.next front
        obtain ⟨n, led⟩ := written after ofText
        exact ⟨n, .cons led⟩

/-- If the token that begins with a character is refused, so is the one that begins with it in another text, unless the
    character is half of a pair. -/
theorem run_refused_again {ds : List Demand} {c : Char} (noBlank : isBlank c = false) (noParen : c ≠ '(')
    (noColon : c ≠ ':')
    (unmet : ∀ token n after, lexemesFrom offset (c :: cs) = .token token n after → Demand.meet ds token = none)
    (behind : List Char) : Demand.run ds (lexemesFrom offset (c :: behind)) = some offset := by
  have noBlank : ¬ isBlank c = true := by simp [noBlank]
  rw [lexemesFrom_cons noParen noColon, if_neg noBlank] at unmet ⊢
  by_cases part : isIdentChar c = true
  · rw [if_pos part] at unmet ⊢
    have refused := unmet _ _ _ rfl
    rw [Demand.run, Demand.meet_ident, refused]
  · rw [if_neg part] at unmet ⊢
    rw [Demand.run, unmet _ _ _ rfl]

/-!
### Whole texts
-/

/-- The machine takes a text as a whole exactly if the text is read as a type. -/
theorem run_ofText_eq_none_iff (s : String) :
    Demand.run [.type] (Lexemes.ofText s) = none ↔ ∃ t, parse s = .ok t := by
  rw [Demand.run_eq_readWhole, parse]
  cases readWhole (Lexemes.ofText s) with
  | error fault => simp [Demand.refusedAt]
  | ok t => simp [Demand.refusedAt]

theorem run_ofText_of_refused {s : String} {e : ParseError} (refused : parse s = .error e) :
    Demand.run [.type] (Lexemes.ofText s) = some e.fault.offset := by
  rw [parse] at refused
  rw [Demand.run_eq_readWhole]
  split at refused
  · cases refused
  · rename_i isFault
    cases refused
    rw [isFault]
    rfl

/-- A text that is no type is refused at the right place. The place is between two characters of the text or at one of
    its ends. What is in front of it can be extended to the text of a type. With the character at the place it cannot,
    unless the character is `(` or `:` and so can be half of a pair. -/
theorem parse_refused_in_place {s : String} {e : ParseError} (refused : parse s = .error e) :
    (String.Pos.Raw.mk e.fault.offset).IsValid s ∧
      ∃ front behind, s = front ++ behind ∧ front.utf8ByteSize = e.fault.offset ∧ Viable front ∧
        ∀ c ∈ behind.toList.head?, c ≠ '(' → c ≠ ':' → ¬ Viable (front.push c) := by
  obtain ⟨tokens, rest, ds, led, met, place, unmet⟩ := Demand.exists_refused (run_ofText_of_refused refused)
  obtain ⟨front, behind, isText, noBlank, isRest, replaced⟩ := exists_ledBy led
  have isString : s = String.ofList front ++ String.ofList behind := by
    rw [← String.ofList_append, ← isText, String.ofList_toList]
  have bytes : (String.ofList front).utf8ByteSize = e.fault.offset := by
    rw [utf8ByteSize_eq, ← place, isRest, offset_lexemesFrom noBlank, Nat.zero_add]
  -- with another text behind the place, the machine comes to the place as before
  have run (behind' : List Char) (replaces : Replaces behind' behind) :
      Demand.run [.type] (Lexemes.ofText (String.ofList front ++ String.ofList behind')) =
        Demand.run ds (lexemesFrom (0 + byteCount front) behind') := by
    rw [Lexemes.ofText, ← String.ofList_append, String.toList_ofList]
    exact Demand.run_ledBy (replaced behind' replaces) met
  refine ⟨?_, String.ofList front, String.ofList behind, isString, bytes, ?_, ?_⟩
  · rw [String.Pos.Raw.isValid_iff_exists_append]
    exact ⟨_, _, isString, by rw [String.rawEndPos, bytes]⟩
  · obtain ⟨text, blank, written⟩ := exists_written (Demand.mem_fill ds)
    obtain ⟨n, filled⟩ := written (lexemesFrom (0 + byteCount front) text) ⟨_, rfl⟩
    obtain ⟨t, read⟩ := (run_ofText_eq_none_iff _).mp ((run text (.inr blank)).trans (Demand.run_fill filled))
    exact ⟨String.ofList text, t, read⟩
  · rintro c first noParen noColon ⟨more, t, read⟩
    rw [String.toList_ofList] at first
    obtain ⟨behind, rfl⟩ := List.head?_eq_some_iff.mp first
    have again := run (c :: more.toList) (.inl rfl)
    have same : (String.ofList front).push c ++ more = String.ofList front ++ String.ofList (c :: more.toList) := by
      rw [← String.toList_inj]
      simp
    have refusedAgain := run_refused_again (noBlank c rfl) noParen noColon
      (fun token n after next => unmet token n after (isRest.trans next)) more.toList
    rw [refusedAgain, ← same, (run_ofText_eq_none_iff _).mpr ⟨t, read⟩] at again
    cases again

/-- In a text with letters of several bytes, the second name in brackets is refused, at its first byte. -/
theorem parse_refused_in_place_umlaut :
    parse "Map<é, [ü ñ]>" = .error ⟨"Map<é, [ü ñ]>", ⟨.closeBracket, 12⟩⟩ ∧
      ∃ front behind, "Map<é, [ü ñ]>" = front ++ behind ∧ front.utf8ByteSize = 12 ∧ Viable front ∧
        ∀ c ∈ behind.toList.head?, c ≠ '(' → c ≠ ':' → ¬ Viable (front.push c) := by
  have refused : parse "Map<é, [ü ñ]>" = .error ⟨"Map<é, [ü ñ]>", ⟨.closeBracket, 12⟩⟩ := by cbv
  exact ⟨refused, (parse_refused_in_place refused).2⟩

end RouteScribe.TypeExpr
