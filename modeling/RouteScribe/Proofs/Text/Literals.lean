/-
Module: RouteScribe.Proofs.Text.Literals
Layer: Proofs
Purpose: String literals and their values. A literal is read character by character from its first quotation mark to
  the next one that stands for itself, so a text starts with one literal at most, and that has one value.
  Quoted text is a literal, and its value is the text that was quoted, whatever characters it has.
Imports: Mathlib.Tactic, RouteScribe.Proofs.Text.Words, RouteScribe.Text.Quoted
Trusted boundary: human-reviewed spec
Main exports: Text.StandsFor, Text.ReadsBody, Text.ReadsLiteral, Text.ReadsLiteral.unique, Text.readsLiteral_quote
Open obligations: none
-/
import Mathlib.Tactic
import RouteScribe.Proofs.Text.Words
import RouteScribe.Text.Quoted

namespace RouteScribe.Text

/-!
### The specification
-/

/-- The letters that may stand behind a backslash, with what they stand for. -/
def letterEscapes : List (Char × Char) :=
  [('0', '\x00'), ('t', '\t'), ('n', '\n'), ('r', '\r'), ('"', '"'), ('\'', '\''), ('\\', '\\')]

/-- The hexadecimal digits in their order. -/
def hexDigits : List Char := "0123456789abcdef".toList

/-- The number of a row of hexadecimal digits. -/
def hexNumber (digits : List Char) : Nat := digits.foldl (fun n d => n * 16 + hexDigits.idxOf d.toLower) 0

/-- `StandsFor piece c` says that `piece`, inside a string literal, stands for the character `c`. -/
inductive StandsFor : List Char → Char → Prop where
  | plain {c : Char} : c ≠ '"' → c ≠ '\\' → c ≠ '\r' → StandsFor [c] c
  | letter {letter c : Char} : (letter, c) ∈ letterEscapes → StandsFor ['\\', letter] c
  | codePoint {digits : List Char} {c : Char} : digits ≠ [] → digits.length ≤ 6 →
      (∀ d ∈ digits, d.toLower ∈ hexDigits) → hexNumber digits = c.toNat →
        StandsFor ('\\' :: 'u' :: '\x7b' :: (digits ++ ['\x7d'])) c

/-- `ReadsBody text value rest` says that `text` is what stands behind the first quotation mark of a literal with that
    value, and that `rest` is what stands behind the last one. -/
inductive ReadsBody : List Char → List Char → List Char → Prop where
  | close {rest : List Char} : ReadsBody ('"' :: rest) [] rest
  | char {piece text value rest : List Char} {c : Char} :
      StandsFor piece c → ReadsBody text value rest → ReadsBody (piece ++ text) (c :: value) rest

/-- `ReadsLiteral text value rest` says that `text` starts with a literal of that value, behind which `rest` stands. -/
def ReadsLiteral (text value rest : List Char) : Prop := ∃ body, text = '"' :: body ∧ ReadsBody body value rest

/-!
### One value
-/

namespace StandsFor

variable {piece piece' text text' : List Char} {c c' : Char}

theorem isWord_digits {digits : List Char} (areDigits : ∀ d ∈ digits, d.toLower ∈ hexDigits) :
    IsWord ['\x7d'] digits := by
  intro d mem isBrace
  rw [List.mem_singleton.mp isBrace] at mem
  exact absurd (areDigits _ mem) (by decide)

/-- The digits of a code point end at the first brace. -/
theorem digits_inj {digits digits' : List Char} (areDigits : ∀ d ∈ digits, d.toLower ∈ hexDigits)
    (areDigits' : ∀ d ∈ digits', d.toLower ∈ hexDigits) (same : digits ++ '\x7d' :: text = digits' ++ '\x7d' :: text') :
    digits = digits' ∧ text = text' := by
  have brace : '\x7d' ∈ ['\x7d'] := List.mem_singleton_self _
  obtain ⟨digitsEq, -, behind⟩ := (isWord_digits areDigits).cons_inj (isWord_digits areDigits') brace brace same
  exact ⟨digitsEq, behind⟩

theorem letter_ne {letter : Char} (mem : (letter, c) ∈ letterEscapes) : letter ≠ 'u' := by
  rintro rfl
  simp [letterEscapes] at mem

theorem letter_unique {letter : Char} (mem : (letter, c) ∈ letterEscapes) (mem' : (letter, c') ∈ letterEscapes) :
    c = c' := by
  have unique : ∀ e ∈ letterEscapes, ∀ e' ∈ letterEscapes, e.1 = e'.1 → e.2 = e'.2 := by decide
  exact unique _ mem _ mem' rfl

/-- No piece is the start of another one, and each stands for one character. -/
theorem unique (stands : StandsFor piece c) (stands' : StandsFor piece' c')
    (same : piece ++ text = piece' ++ text') : c = c' ∧ text = text' := by
  cases stands with
  | plain _ notEscape _ =>
      cases stands' with
      | plain _ _ _ => exact List.cons.inj same
      | letter _ => exact absurd (List.cons.inj same).1 notEscape
      | codePoint _ _ _ _ => exact absurd (List.cons.inj same).1 notEscape
  | letter mem =>
      cases stands' with
      | plain _ notEscape _ => exact absurd (List.cons.inj same).1.symm notEscape
      | letter mem' =>
          obtain ⟨rfl, rest⟩ := List.cons.inj (List.cons.inj same).2
          exact ⟨letter_unique mem mem', rest⟩
      | codePoint _ _ _ _ => exact absurd (List.cons.inj (List.cons.inj same).2).1 (letter_ne mem)
  | codePoint _ _ areDigits number =>
      cases stands' with
      | plain _ notEscape _ => exact absurd (List.cons.inj same).1.symm notEscape
      | letter mem' => exact absurd (List.cons.inj (List.cons.inj same).2).1.symm (letter_ne mem')
      | codePoint _ _ areDigits' number' =>
          simp only [List.cons_append, List.cons.injEq, true_and, List.append_assoc, List.nil_append] at same
          obtain ⟨rfl, rest⟩ := digits_inj areDigits areDigits' same
          exact ⟨Char.toNat_inj.mp (number.symm.trans number'), rest⟩

/-- No piece starts with a quotation mark. -/
theorem head_ne (stands : StandsFor piece c) : piece ++ text ≠ '"' :: text' := by
  intro same
  cases stands with
  | plain notQuote _ _ => exact notQuote (List.cons.inj same).1
  | letter _ => exact absurd (List.cons.inj same).1 (by decide)
  | codePoint _ _ _ _ => exact absurd (List.cons.inj same).1 (by decide)

end StandsFor

variable {text value value' rest rest' : List Char}

theorem ReadsBody.unique (reads : ReadsBody text value rest) (reads' : ReadsBody text value' rest') :
    value = value' ∧ rest = rest' := by
  induction reads generalizing value' with
  | close =>
      generalize start : '"' :: _ = text at reads'
      cases reads' with
      | close => exact ⟨rfl, (List.cons.inj start).2⟩
      | char stands _ => exact absurd start.symm stands.head_ne
  | @char piece text value rest c stands _ ih =>
      generalize start : piece ++ text = whole at reads'
      cases reads' with
      | close => exact absurd start stands.head_ne
      | char stands' reads' =>
          obtain ⟨rfl, rfl⟩ := stands.unique stands' start
          obtain ⟨rfl, rfl⟩ := ih reads'
          exact ⟨rfl, rfl⟩

/-- A text starts with one literal at most, and the literal has one value. -/
theorem ReadsLiteral.unique (reads : ReadsLiteral text value rest) (reads' : ReadsLiteral text value' rest') :
    value = value' ∧ rest = rest' := by
  obtain ⟨body, rfl, reads⟩ := reads
  obtain ⟨body', same, reads'⟩ := reads'
  cases same
  exact reads.unique reads'

/-!
### Quoted text
-/

theorem hexNumber_concat (digits : List Char) (d : Char) :
    hexNumber (digits ++ [d]) = hexNumber digits * 16 + hexDigits.idxOf d.toLower := by
  rw [hexNumber, List.foldl_append, ← hexNumber]
  rfl

theorem idxOf_digitChar : ∀ d < 16, hexDigits.idxOf (Nat.digitChar d).toLower = d := by decide

/-- The digits of a number are digits of that number. -/
theorem hexNumber_toDigits (n : Nat) :
    (∀ d ∈ Nat.toDigits 16 n, d.toLower ∈ hexDigits) ∧ hexNumber (Nat.toDigits 16 n) = n := by
  have isDigit : ∀ d < 16, (Nat.digitChar d).toLower ∈ hexDigits := by decide
  induction n using Nat.strongRecOn with
  | ind n ih =>
      rw [Nat.toDigits_eq_if (by decide)]
      split
      · rename_i small
        refine ⟨List.forall_mem_singleton.mpr (isDigit n small), ?_⟩
        rw [hexNumber, List.foldl_cons, List.foldl_nil, idxOf_digitChar n small, Nat.zero_mul, Nat.zero_add]
      · rename_i large
        obtain ⟨areDigits, number⟩ := ih (n / 16) (by omega)
        have last : n % 16 < 16 := Nat.mod_lt _ (by decide)
        refine ⟨List.forall_mem_append.mpr ⟨areDigits, List.forall_mem_singleton.mpr (isDigit _ last)⟩, ?_⟩
        rw [hexNumber_concat, number, idxOf_digitChar _ last]
        exact Nat.div_add_mod' n 16

theorem standsFor_byCodePoint (c : Char) : StandsFor (Quoted.byCodePoint c) c := by
  obtain ⟨areDigits, number⟩ := hexNumber_toDigits c.toNat
  refine .codePoint ?_ ?_ areDigits number
  · exact List.ne_nil_of_length_pos Nat.length_toDigits_pos
  · apply Nat.toDigits_length 16 c.toNat 6 (by decide)
    have valid : c.val.toNat.isValidChar := c.valid
    rcases valid with low | ⟨-, high⟩
    · exact Nat.lt_trans low (by decide)
    · exact Nat.lt_trans high (by decide)

/-- Every character is written by a piece that stands for it. -/
theorem standsFor_escape (c : Char) : StandsFor (Quoted.escape c) c := by
  rw [Quoted.escape]
  split_ifs with null tab lineFeed carriageReturn quotationMark backslash visible
  · rw [null]
    exact .letter (by decide)
  · rw [tab]
    exact .letter (by decide)
  · rw [lineFeed]
    exact .letter (by decide)
  · rw [carriageReturn]
    exact .letter (by decide)
  · rw [quotationMark]
    exact .letter (by decide)
  · rw [backslash]
    exact .letter (by decide)
  · exact .plain quotationMark backslash carriageReturn
  · exact standsFor_byCodePoint c

/-- Quoted text is a literal, and its value is the text. -/
theorem readsLiteral_quote (s : String) (rest : List Char) :
    ReadsLiteral ((quote s).toList ++ rest) s.toList rest := by
  have body (cs : List Char) : ReadsBody (Quoted.encode cs ++ '"' :: rest) cs rest := by
    induction cs with
    | nil => exact .close
    | cons c cs ih =>
        rw [Quoted.encode, List.flatMap_cons, List.append_assoc]
        exact .char (standsFor_escape c) ih
  refine ⟨_, ?_, body s.toList⟩
  simp [quote]

end RouteScribe.Text
