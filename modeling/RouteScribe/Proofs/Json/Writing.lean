/-
Module: RouteScribe.Proofs.Json.Writing
Layer: Proofs
Purpose: Values that are written are read again. Every character of a text is escaped into pieces that stand for
  it, the digits of an integer of 64 bits are gathered to that integer, and lists and objects are read again
  if their parts are. A value is written without space, so what stands behind it is the end of the text, a
  comma or a closing bracket; an integer needs this to end where its digits end.
Imports: RouteScribe.Decimal.Word, RouteScribe.Json.Value, RouteScribe.Proofs.Json.Reading
Trusted boundary: none
Main exports: ReadsChars.quoted, Numeral.scan_toDigits, EndsValue, Value.ReadAs, Items.ReadFrom, Members.ReadFrom
Open obligations: none
-/
import RouteScribe.Decimal.Word
import RouteScribe.Json.Value
import RouteScribe.Proofs.Json.Reading

namespace RouteScribe.Json

/-!
### Texts
-/

/-- The reader takes these characters, in whatever way they are written, off the text behind a quotation mark. -/
def ReadsChars (cs chars rest : List Char) : Prop :=
  ∃ pieces, ReadsText cs pieces rest ∧ pieces.chars = .ok chars ∧ pieces.skip = none

namespace ReadsChars

theorem close {cs : List Char} : ReadsChars ('"' :: cs) [] cs := ⟨.close, .close, rfl, rfl⟩

/-- A control character is written by the two lower ones of its four hexadecimal digits. -/
theorem hexNumber?_hexDigit :
    ∀ n < 0x20, hexNumber? '0' '0' (hexDigit (n / 16)) (hexDigit n) = some n := by
  decide

theorem control {c : Char} {cs chars rest : List Char} (isControl : c.toNat < 0x20)
    (reads : ReadsChars cs chars rest) :
    ReadsChars ('\\' :: 'u' :: '0' :: '0' :: hexDigit (c.toNat / 16) :: hexDigit c.toNat :: cs)
      (c :: chars) rest := by
  obtain ⟨pieces, reads, same, skipped⟩ := reads
  refine ⟨.unit c.toNat pieces, .unit (hexNumber?_hexDigit _ isControl) reads, ?_, skipped⟩
  have notTrailing : Pieces.isTrailing c.toNat = false := by
    simp only [Pieces.isTrailing, Bool.and_eq_false_iff, decide_eq_false_iff_not]
    omega
  have notLeading : Pieces.isLeading c.toNat = false := by
    simp only [Pieces.isLeading, Bool.and_eq_false_iff, decide_eq_false_iff_not]
    omega
  rw [Pieces.chars.eq_def]
  simp only [notTrailing, notLeading, same, Char.ofNat_toNat, Bool.false_eq_true, if_false]
  rfl

theorem escaped {letter c : Char} {cs chars rest : List Char} (stands : escapedChar? letter = some c)
    (reads : ReadsChars cs chars rest) : ReadsChars ('\\' :: letter :: cs) (c :: chars) rest := by
  obtain ⟨pieces, reads, same, skipped⟩ := reads
  refine ⟨.char c pieces, .escaped stands reads, ?_, skipped⟩
  rw [Pieces.chars, same]
  rfl

theorem plain {c : Char} {cs chars rest : List Char} (isPlain : ReadsText.IsPlain c)
    (reads : ReadsChars cs chars rest) : ReadsChars (c :: cs) (c :: chars) rest := by
  obtain ⟨pieces, reads, same, skipped⟩ := reads
  refine ⟨.char c pieces, .char isPlain reads, ?_, skipped⟩
  rw [Pieces.chars, same]
  rfl

/-- The characters that are escaped by a letter of their own, with the letter. -/
def letters : List (Char × Char) :=
  [('"', '"'), ('\\', '\\'), ('\n', 'n'), ('\r', 'r'), ('\t', 't'), ('\x08', 'b'), ('\x0c', 'f')]

theorem escape_of_mem :
    ∀ entry ∈ letters, escapedChar? entry.2 = some entry.1 ∧ Json.escape entry.1 = ['\\', entry.2] := by
  decide

theorem escape_of_notMem {c : Char} (notLettered : c ∉ letters.map Prod.fst) :
    Json.escape c =
      if c.toNat < 0x20 then ['\\', 'u', '0', '0', hexDigit (c.toNat / 16), hexDigit c.toNat] else [c] := by
  simp only [letters, List.map_cons, List.map_nil, List.mem_cons, List.not_mem_nil, or_false, not_or]
    at notLettered
  obtain ⟨h₁, h₂, h₃, h₄, h₅, h₆, h₇⟩ := notLettered
  rw [Json.escape, if_neg h₁, if_neg h₂, if_neg h₃, if_neg h₄, if_neg h₅, if_neg h₆, if_neg h₇]

/-- A character is read again, whichever of its written forms was chosen. -/
theorem escape {c : Char} {cs chars rest : List Char} (reads : ReadsChars cs chars rest) :
    ReadsChars (Json.escape c ++ cs) (c :: chars) rest := by
  by_cases isLettered : c ∈ letters.map Prod.fst
  · obtain ⟨entry, mem, rfl⟩ := List.mem_map.mp isLettered
    obtain ⟨stands, same⟩ := escape_of_mem entry mem
    rw [same]
    exact reads.escaped stands
  · rw [escape_of_notMem isLettered]
    split
    · rename_i isControl
      exact reads.control isControl
    · rename_i noControl
      have noQuote : c ≠ '"' := fun isQuote => isLettered (isQuote ▸ by decide)
      have noBackslash : c ≠ '\\' := fun isBackslash => isLettered (isBackslash ▸ by decide)
      exact reads.plain ⟨noQuote, noBackslash, noControl⟩

/-- A text in quotation marks is read again up to the second one of them. -/
theorem flatMap_escape (chars rest : List Char) :
    ReadsChars (chars.flatMap Json.escape ++ '"' :: rest) chars rest := by
  induction chars with
  | nil => exact close
  | cons c chars ih =>
      rw [List.flatMap_cons, List.append_assoc]
      exact ih.escape

end ReadsChars

theorem toList_quoted (s : String) : (quoted s).toList = '"' :: (s.toList.flatMap escape ++ ['"']) := by
  rw [quoted, String.toList_ofList]

/-- The pieces of a text in quotation marks. -/
theorem exists_pieces_quoted (s : String) (rest : List Char) :
    ∃ pieces : Pieces, ReadsText (s.toList.flatMap escape ++ '"' :: rest) pieces rest ∧
      pieces.lexeme = ⟨.ok s, none⟩ := by
  obtain ⟨pieces, reads, same, skipped⟩ := ReadsChars.flatMap_escape s.toList rest
  refine ⟨pieces, reads, ?_⟩
  rw [Pieces.lexeme, Pieces.text, same, skipped]
  simp [Except.map]

/-!
### Integers
-/

/-- What may stand behind a value that is written: nothing, a comma or a closing bracket. -/
inductive EndsValue : List Char → Prop where
  | end : EndsValue []
  | comma (rest : List Char) : EndsValue (',' :: rest)
  | bracket (rest : List Char) : EndsValue (']' :: rest)
  | brace (rest : List Char) : EndsValue ('\x7d' :: rest)

namespace EndsValue

variable {rest : List Char}

theorem takeWhile_isDigit (ends : EndsValue rest) : rest.takeWhile Char.isDigit = [] := by
  cases ends <;> rfl

theorem scanFraction (ends : EndsValue rest) : scanFraction rest = .ok [] := by
  cases ends <;> rfl

theorem scanExponent (ends : EndsValue rest) : scanExponent rest = .ok none := by
  cases ends <;> rfl

theorem scanWhole_zero (ends : EndsValue rest) : Numeral.scanWhole ('0' :: rest) = .ok ['0'] := by
  cases ends <;> rfl

end EndsValue

namespace Numeral

/-- Only zero is written with a leading zero. -/
theorem ne_zero_of_mem_head?_toDigits {n : Nat} (positive : 0 < n) :
    '0' ∉ (Nat.toDigits 10 n).head? := by
  induction n using Nat.strongRecOn with
  | ind n ih =>
      rw [Nat.toDigits_eq_if (by decide)]
      split
      · rename_i small
        have digits : ∀ n < 10, 0 < n → '0' ∉ ([Nat.digitChar n] : List Char).head? := by decide
        exact digits n small positive
      · rename_i large
        have first := ih (n / 10) (by omega) (by omega)
        cases digits : Nat.toDigits 10 (n / 10) with
        | nil => exact absurd digits Nat.toDigits_ne_nil
        | cons c cs => simpa [digits] using first

theorem isDigit_of_mem_toDigits {n : Nat} {c : Char} (mem : c ∈ Nat.toDigits 10 n) : c.isDigit :=
  Nat.isDigit_of_mem_toDigits (by decide) (by decide) mem

theorem takeWhile_toDigits (n : Nat) {rest : List Char} (ends : EndsValue rest) :
    (Nat.toDigits 10 n ++ rest).takeWhile Char.isDigit = Nat.toDigits 10 n := by
  rw [List.takeWhile_append_of_pos fun c => isDigit_of_mem_toDigits, ends.takeWhile_isDigit, List.append_nil]

theorem scanWhole_toDigits (n : Nat) {rest : List Char} (ends : EndsValue rest) :
    scanWhole (Nat.toDigits 10 n ++ rest) = .ok (Nat.toDigits 10 n) := by
  have taken := takeWhile_toDigits n ends
  rcases Nat.eq_zero_or_pos n with rfl | positive
  · exact ends.scanWhole_zero
  · have noZero := ne_zero_of_mem_head?_toDigits positive
    cases digits : Nat.toDigits 10 n with
    | nil => exact absurd digits Nat.toDigits_ne_nil
    | cons c cs =>
        rw [digits] at noZero taken
        rw [List.cons_append] at taken ⊢
        rw [scanWhole]
        · rw [taken]
        · rintro _ _ same
          rw [(List.cons.inj same).1] at noZero
          exact noZero rfl

/-- The digits of a number in front of the end of a value are a numeral without fraction and exponent. -/
theorem scan_toDigits (negative : Bool) (n : Nat) {rest : List Char} (ends : EndsValue rest) :
    scan negative (Nat.toDigits 10 n ++ rest) = .ok ⟨negative, Nat.toDigits 10 n, [], none⟩ := by
  rw [scan, scanWhole_toDigits n ends]
  simp only [bind, Except.bind, pure, Except.pure, List.drop_left, ends.scanFraction, fractionWidth,
    List.isEmpty_nil, if_true, List.drop_zero, ends.scanExponent]

/-- One more digit is gathered if the number still fits. -/
theorem gather_concat {s m : Nat} {cs : List Char} {c : Char} (gathered : gather s cs = (m, 0))
    (fits : m * 10 + digitValue c < Nat.pow 2 64) : gather s (cs ++ [c]) = (m * 10 + digitValue c, 0) := by
  induction cs generalizing s with
  | nil =>
      obtain ⟨rfl, -⟩ := Prod.mk.inj gathered
      simp only [List.nil_append, gather, if_pos fits]
  | cons d ds ih =>
      rw [gather] at gathered
      rw [List.cons_append, gather]
      split at gathered
      · rename_i next
        rw [if_pos next]
        exact ih gathered
      · cases gathered

theorem digitValue_digitChar : ∀ d < 10, digitValue (Nat.digitChar d) = d := by decide

/-- The digits of a number that fits a word are gathered to that number, with no digit left over. -/
theorem gather_toDigits {n : Nat} (fits : n < Nat.pow 2 64) : gather 0 (Nat.toDigits 10 n) = (n, 0) := by
  induction n using Nat.strongRecOn with
  | ind n ih =>
      rw [Nat.toDigits_eq_if (by decide)]
      split
      · rename_i small
        rw [gather, digitValue_digitChar n small]
        simp only [Nat.zero_mul, Nat.zero_add, if_pos fits, gather]
      · rename_i large
        -- the last digit is gathered behind those of the number without it
        have last : n / 10 * 10 + digitValue (Nat.digitChar (n % 10)) = n := by
          rw [digitValue_digitChar _ (Nat.mod_lt _ (by decide))]
          exact Nat.div_add_mod' n 10
        have front : gather 0 (Nat.toDigits 10 (n / 10)) = (n / 10, 0) :=
          ih (n / 10) (by omega) (Nat.lt_of_le_of_lt (Nat.div_le_self n 10) fits)
        rw [gather_concat front (by rwa [last]), last]

theorem value_toDigits {n : Nat} (negative : Bool) (fits : n < Nat.pow 2 64) :
    value ⟨negative, Nat.toDigits 10 n, [], none⟩ = .ok (integer negative n) := by
  simp [value, gather_toDigits fits]

theorem width_toDigits (negative : Bool) (n : Nat) :
    width ⟨negative, Nat.toDigits 10 n, [], none⟩ = (Nat.toDigits 10 n).length := by
  simp [width, fractionWidth]

end Numeral

namespace ReadsValue

/-- A natural number that fits a word is read again. -/
theorem natural {level n : Nat} {rest : List Char} (fits : n < Nat.pow 2 64) (ends : EndsValue rest) :
    ReadsValue level (Nat.toDigits 10 n ++ rest) (.number ⟨.ok (.int n), none⟩) rest := by
  have scanned := Numeral.scan_toDigits false n ends
  have read := Numeral.value_toDigits false fits
  have wide := Numeral.width_toDigits false n
  cases digits : Nat.toDigits 10 n with
  | nil => exact absurd digits Nat.toDigits_ne_nil
  | cons c cs =>
      have isDigit : c.isDigit := Numeral.isDigit_of_mem_toDigits (n := n) (by simp [digits])
      rw [digits] at scanned read wide
      have reads := @number level c (cs ++ rest) _ isDigit scanned
      rw [read, wide] at reads
      simpa [Numeral.integer] using reads

/-- A negative number that fits a word with a sign is read again. -/
theorem negated {level n : Nat} {rest : List Char} (positive : 0 < n) (fits : n ≤ Nat.pow 2 63)
    (ends : EndsValue rest) :
    ReadsValue level ('-' :: (Nat.toDigits 10 n ++ rest)) (.number ⟨.ok (.int (-(n : Int))), none⟩) rest := by
  have isInteger : Numeral.integer true n = .int (-(n : Int)) := by
    rw [Numeral.integer, if_neg (by decide), if_neg (by omega)]
  have reads := @negative level _ _ (Numeral.scan_toDigits true n ends)
  rw [Numeral.value_toDigits true (Nat.lt_of_le_of_lt fits (by decide)), Numeral.width_toDigits, isInteger,
    List.drop_left] at reads
  exact reads

end ReadsValue

/-!
### Values
-/

/-- Whether a text starts like a value: neither with space nor with the bracket that closes a list. -/
def StartsValue (cs : List Char) : Prop := ∃ c tail, cs = c :: tail ∧ isSpace c = false ∧ c ≠ ']'

/-- The value, as it is written inside `level` lists and objects, is read as the node. -/
structure Value.ReadAs (level : Nat) (value : Value) (node : Node) : Prop where
  starts : StartsValue value.compact.toList
  reads {rest : List Char} : EndsValue rest → ReadsValue level (value.compact.toList ++ rest) node rest

/-- The values, as they are written in a list, are read as the items. -/
inductive Items.ReadFrom (level : Nat) : List Value → Items → Prop where
  | nil : ReadFrom level [] .close
  | cons {value : Value} {node : Node} {values : List Value} {items : Items} :
      value.ReadAs level node → ReadFrom level values items →
        ReadFrom level (value :: values) (.item node items)

/-- The members, as they are written in an object, are read as the others. -/
inductive Members.ReadFrom (level : Nat) : List (String × Value) → Members → Prop where
  | nil : ReadFrom level [] .close
  | cons {key : String} {value : Value} {node : Node} {values : List (String × Value)}
      {members : Members} :
      value.ReadAs level node → ReadFrom level values members →
        ReadFrom level ((key, value) :: values) (.member ⟨.ok key, none⟩ node members)

/-- Behind a value in a list stands a comma or the closing bracket. -/
theorem EndsValue.ofItems (values : List Value) (rest : List Char) :
    EndsValue ((Value.itemsText values).toList ++ ']' :: rest) := by
  cases values with
  | nil => exact .bracket rest
  | cons => simpa [Value.itemsText] using EndsValue.comma _

/-- Behind a value in an object stands a comma or the closing brace. -/
theorem EndsValue.ofMembers (values : List (String × Value)) (rest : List Char) :
    EndsValue ((Value.membersText values).toList ++ '\x7d' :: rest) := by
  cases values with
  | nil => exact .brace rest
  | cons => simpa [Value.membersText] using EndsValue.comma _

namespace Value.ReadAs

variable {level : Nat} {value : Value} {node : Node} {rest : List Char}

/-- An item of a list with those behind it. -/
theorem item {values : List Value} {items : Items} (first : value.ReadAs level node)
    (others : ReadsItems level false ((itemsText values).toList ++ ']' :: rest) items rest) :
    ReadsItem level (value.compact.toList ++ ((itemsText values).toList ++ ']' :: rest)) (.item node items)
      rest :=
  ReadsItems.item (first.reads (.ofItems values rest)) others

/-- A member of an object with those behind it. -/
theorem member {values : List (String × Value)} {members : Members} (key : String)
    (first : value.ReadAs level node)
    (others : ReadsMembers level false ((membersText values).toList ++ '\x7d' :: rest) members rest) :
    ReadsMember level
      ('"' :: (key.toList.flatMap escape ++ '"' :: ':' ::
        (value.compact.toList ++ ((membersText values).toList ++ '\x7d' :: rest))))
      (.member ⟨.ok key, none⟩ node members) rest := by
  obtain ⟨pieces, readsKey, isKey⟩ := exists_pieces_quoted key
    (':' :: (value.compact.toList ++ ((membersText values).toList ++ '\x7d' :: rest)))
  rw [← isKey]
  exact ReadsMembers.member readsKey (first.reads (.ofMembers values rest)) others

end Value.ReadAs

theorem Items.ReadFrom.rest {level : Nat} {values : List Value} {items : Items}
    (readFrom : Items.ReadFrom level values items) (rest : List Char) :
    ReadsItems level false ((Value.itemsText values).toList ++ ']' :: rest) items rest := by
  induction readFrom with
  | nil => exact .close
  | cons first _ ih =>
      have item := first.item ih
      obtain ⟨c, tail, starts, noSpace, noClose⟩ := first.starts
      rw [starts] at item
      simpa [Value.itemsText, starts] using ReadsItems.next noSpace noClose item

/-- The text of a list is a bracket in front of what is read as its items. -/
theorem Items.ReadFrom.list {level : Nat} {values : List Value} {items : Items}
    (readFrom : Items.ReadFrom level values items) :
    ∃ cs, (Value.list values).compact.toList = '[' :: cs ∧
      ∀ rest, ReadsItems level true (cs ++ rest) items rest := by
  cases readFrom with
  | nil => exact ⟨[']'], rfl, fun _ => .close⟩
  | @cons value node values items first others =>
      refine ⟨value.compact.toList ++ ((Value.itemsText values).toList ++ [']']), ?_, fun rest => ?_⟩
      · simp [Value.compact]
      · have item := first.item (others.rest rest)
        obtain ⟨c, tail, starts, noSpace, noClose⟩ := first.starts
        rw [starts] at item
        simpa [starts] using ReadsItems.first noSpace noClose item

theorem Members.ReadFrom.rest {level : Nat} {values : List (String × Value)} {members : Members}
    (readFrom : Members.ReadFrom level values members) (rest : List Char) :
    ReadsMembers level false ((Value.membersText values).toList ++ '\x7d' :: rest) members rest := by
  induction readFrom with
  | nil => exact .close
  | @cons key _ _ _ _ first _ ih =>
      have member := first.member key ih
      simpa [Value.membersText, toList_quoted] using ReadsMembers.next (by decide) (by decide) member

namespace Value.ReadAs

variable {level : Nat}

theorem null : Value.null.ReadAs level .null where
  starts := ⟨'n', _, rfl, by decide, by decide⟩
  reads _ := .nullWord

theorem bool (b : Bool) : (Value.bool b).ReadAs level (.bool b) := by
  cases b with
  | false => exact ⟨⟨'f', _, rfl, by decide, by decide⟩, fun _ => .falseWord⟩
  | true => exact ⟨⟨'t', _, rfl, by decide, by decide⟩, fun _ => .trueWord⟩

theorem text (s : String) : (Value.text s).ReadAs level (.text ⟨.ok s, none⟩) := by
  have written : (Value.text s).compact.toList = '"' :: (s.toList.flatMap escape ++ ['"']) := by
    rw [compact, toList_quoted]
  refine ⟨⟨'"', _, written, by decide, by decide⟩, fun {rest} _ => ?_⟩
  obtain ⟨pieces, reads, isText⟩ := exists_pieces_quoted s rest
  rw [written, ← isText, List.cons_append, List.append_assoc]
  exact .text reads

/-- An integer that fits a word with a sign is read again. -/
theorem int {i : Int} (fits : Word.isSigned i) : (Value.int i).ReadAs level (.number ⟨.ok (.int i), none⟩) := by
  simp only [Word.isSigned, Bool.and_eq_true, decide_eq_true_eq] at fits
  cases i with
  | ofNat n =>
      rw [Int.ofNat_eq_natCast] at fits
      have written : (Value.int (Int.ofNat n)).compact.toList = Nat.toDigits 10 n := by
        rw [compact, show toString (Int.ofNat n) = toString n from rfl, Nat.toString_eq_ofList_toDigits,
          String.toList_ofList]
      refine ⟨?_, fun ends => ?_⟩
      · rw [written]
        cases digits : Nat.toDigits 10 n with
        | nil => exact absurd digits Nat.toDigits_ne_nil
        | cons c cs =>
            have isDigit : c.isDigit := Numeral.isDigit_of_mem_toDigits (n := n) (by simp [digits])
            exact ⟨c, cs, rfl, isSpace_of_isDigit isDigit, ne_of_isDigit isDigit (by decide)⟩
      · rw [written]
        have wordBound : Nat.pow 2 64 = 18446744073709551616 := rfl
        exact .natural (by omega) ends
  | negSucc n =>
      have written : (Value.int (Int.negSucc n)).compact.toList = '-' :: Nat.toDigits 10 (n + 1) := by
        rw [compact, show toString (Int.negSucc n) = "-" ++ toString (n + 1) from rfl,
          Nat.toString_eq_ofList_toDigits, String.toList_append]
        simp
      refine ⟨⟨'-', _, written, by decide, by decide⟩, fun ends => ?_⟩
      rw [written]
      have halfBound : Nat.pow 2 63 = 9223372036854775808 := rfl
      exact .negated (Nat.succ_pos n) (by omega) ends

theorem list {values : List Value} {items : Items} (readFrom : Items.ReadFrom (level + 1) values items) :
    (Value.list values).ReadAs level (.list (level + 1) items) := by
  obtain ⟨cs, written, reads⟩ := readFrom.list
  refine ⟨⟨'[', cs, written, by decide, by decide⟩, fun {rest} _ => ?_⟩
  rw [written]
  exact .list (reads rest)

theorem object {values : List (String × Value)} {members : Members}
    (readFrom : Members.ReadFrom (level + 1) values members) :
    (Value.object values).ReadAs level (.object (level + 1) members) := by
  cases readFrom with
  | nil => exact ⟨⟨'\x7b', _, rfl, by decide, by decide⟩, fun _ => .object .close⟩
  | @cons key value node values members first others =>
      have written : (Value.object ((key, value) :: values)).compact.toList =
          '\x7b' :: '"' :: (key.toList.flatMap escape ++ '"' :: ':' ::
            (value.compact.toList ++ ((membersText values).toList ++ ['\x7d']))) := by
        simp [compact, toList_quoted]
      refine ⟨⟨'\x7b', _, written, by decide, by decide⟩, fun {rest} _ => ?_⟩
      rw [written]
      apply ReadsValue.object
      simpa using ReadsMembers.first (by decide) (by decide) (first.member key (others.rest rest))

end Value.ReadAs

end RouteScribe.Json
