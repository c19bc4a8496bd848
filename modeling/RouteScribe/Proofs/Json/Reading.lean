/-
Module: RouteScribe.Proofs.Json.Reading
Layer: Proofs
Purpose: How values are taken off the front of a JSON text without space, but for space in front of a list. The
  reader carries along that what it leaves is shorter; here only what it leaves counts, and each form of a
  value has a rule of its own.
Imports: RouteScribe.Json.Document
Trusted boundary: none
Main exports: ReadsText, ReadsValue, ReadsItems, ReadsMembers, Document.ofText_of_readsValue
Open obligations: none
-/
import RouteScribe.Json.Document

namespace RouteScribe.Json

/-- The reader takes these pieces off the text behind a quotation mark and leaves `rest`. -/
structure ReadsText (cs : List Char) (pieces : Pieces) (rest : List Char) : Prop where
  notLonger : rest.length ≤ cs.length
  scanned : scanPieces cs = (pieces, .ok ⟨rest, notLonger⟩)

/-- The reader takes a value off the text and leaves `rest`. -/
structure ReadsValue (level : Nat) (cs : List Char) (value : Node) (rest : List Char) : Prop where
  shorter : rest.length < cs.length
  read : readValue level cs = (value, .ok ⟨rest, shorter⟩)

/-- The reader takes the items of a list off the text and leaves `rest`. -/
structure ReadsItems (level : Nat) (first : Bool) (cs : List Char) (items : Items) (rest : List Char) :
    Prop where
  shorter : rest.length < cs.length
  read : readItems level first cs = (items, .ok ⟨rest, shorter⟩)

/-- The reader takes an item of a list and those behind it off the text. -/
structure ReadsItem (level : Nat) (cs : List Char) (items : Items) (rest : List Char) : Prop where
  shorter : rest.length < cs.length
  read : readItem level cs = (items, .ok ⟨rest, shorter⟩)

/-- The reader takes the members of an object off the text and leaves `rest`. -/
structure ReadsMembers (level : Nat) (first : Bool) (cs : List Char) (members : Members)
    (rest : List Char) : Prop where
  shorter : rest.length < cs.length
  read : readMembers level first cs = (members, .ok ⟨rest, shorter⟩)

/-- The reader takes a member of an object and those behind it off the text. -/
structure ReadsMember (level : Nat) (cs : List Char) (members : Members) (rest : List Char) : Prop where
  shorter : rest.length < cs.length
  read : readMember level cs = (members, .ok ⟨rest, shorter⟩)

/-- A text that does not start with space is the same without the space at its start. -/
theorem dropWhile_isSpace_cons {c d : Char} {cs tail : List Char} (noSpace : isSpace c = false)
    (found : (c :: cs).dropWhile isSpace = d :: tail) : d = c ∧ tail = cs := by
  rw [List.dropWhile_cons, noSpace] at found
  obtain ⟨rfl, rfl⟩ := List.cons.inj found
  exact ⟨rfl, rfl⟩

theorem dropWhile_isSpace_ne_nil {c : Char} {cs : List Char} (noSpace : isSpace c = false) :
    (c :: cs).dropWhile isSpace ≠ [] := by
  rw [List.dropWhile_cons, noSpace]
  simp

/-!
### Texts
-/

namespace ReadsText

theorem close {cs : List Char} : ReadsText ('"' :: cs) .close cs := ⟨_, by rw [scanPieces]⟩

/-- Whether a character stands for itself in a text: it is neither the quotation mark nor the backslash nor
    a control character. -/
def IsPlain (c : Char) : Prop := c ≠ '"' ∧ c ≠ '\\' ∧ ¬ c.toNat < 0x20

instance : DecidablePred IsPlain := fun _ => inferInstanceAs (Decidable (_ ∧ _))

theorem char {c : Char} {cs rest : List Char} {pieces : Pieces} (plain : IsPlain c)
    (reads : ReadsText cs pieces rest) : ReadsText (c :: cs) (.char c pieces) rest := by
  obtain ⟨h, eq⟩ := reads
  obtain ⟨noQuote, noBackslash, noControl⟩ := plain
  refine ⟨Nat.le_succ_of_le h, ?_⟩
  rw [scanPieces, if_neg noControl, eq]
  · rfl
  all_goals simp_all

theorem escaped {letter c : Char} {cs rest : List Char} {pieces : Pieces}
    (stands : escapedChar? letter = some c) (reads : ReadsText cs pieces rest) :
    ReadsText ('\\' :: letter :: cs) (.char c pieces) rest := by
  obtain ⟨h, eq⟩ := reads
  refine ⟨Nat.le_add_right_of_le (Nat.le_succ_of_le h), ?_⟩
  rw [scanPieces, stands, eq]
  · rfl
  · rintro rfl
    cases stands

theorem unit {a b c d : Char} {code : Nat} {cs rest : List Char} {pieces : Pieces}
    (number : hexNumber? a b c d = some code) (reads : ReadsText cs pieces rest) :
    ReadsText ('\\' :: 'u' :: a :: b :: c :: d :: cs) (.unit code pieces) rest := by
  obtain ⟨h, eq⟩ := reads
  refine ⟨by simp only [List.length_cons]; omega, ?_⟩
  rw [scanPieces, number, eq]
  rfl

end ReadsText

/-!
### Values
-/

/-- A digit is none of the characters that are no digits. -/
theorem ne_of_isDigit {c d : Char} (digit : c.isDigit) (noDigit : d.isDigit = false) : c ≠ d := by
  rintro rfl
  rw [digit] at noDigit
  cases noDigit

theorem isSpace_of_isDigit {c : Char} (digit : c.isDigit) : isSpace c = false := by
  have isOther {d : Char} (noDigit : d.isDigit = false) : (c == d) = false :=
    beq_false_of_ne (ne_of_isDigit digit noDigit)
  rw [isSpace, isOther (by decide), isOther (by decide), isOther (by decide), isOther (by decide)]
  rfl

namespace ReadsValue

theorem text {level : Nat} {cs rest : List Char} {pieces : Pieces} (reads : ReadsText cs pieces rest) :
    ReadsValue level ('"' :: cs) (.text pieces.lexeme) rest := by
  obtain ⟨h, eq⟩ := reads
  refine ⟨Nat.lt_succ_of_le h, ?_⟩
  rw [readValue]
  split
  · rename_i none
    exact absurd none (dropWhile_isSpace_ne_nil (by decide))
  · rename_i c tail found
    obtain ⟨rfl, rfl⟩ := dropWhile_isSpace_cons (by decide) found
    simp [eq, Rest.ofTail]

/-- A list may stand behind space. -/
theorem spacedList {level : Nat} {space cs rest : List Char} {items : Items}
    (blank : ∀ c ∈ space, isSpace c) (reads : ReadsItems (level + 1) true cs items rest) :
    ReadsValue level (space ++ '[' :: cs) (.list (level + 1) items) rest := by
  obtain ⟨h, eq⟩ := reads
  have behind : (space ++ '[' :: cs).dropWhile isSpace = '[' :: cs := by
    rw [List.dropWhile_append_of_pos blank]
    rfl
  refine ⟨by simp only [List.length_append, List.length_cons]; omega, ?_⟩
  rw [readValue]
  split
  · rename_i none
    rw [behind] at none
    cases none
  · rename_i c tail found
    rw [behind] at found
    obtain ⟨rfl, rfl⟩ := List.cons.inj found
    simp [eq, Rest.ofRest]

theorem list {level : Nat} {cs rest : List Char} {items : Items}
    (reads : ReadsItems (level + 1) true cs items rest) :
    ReadsValue level ('[' :: cs) (.list (level + 1) items) rest :=
  @spacedList level [] cs rest items (by simp) reads

theorem object {level : Nat} {cs rest : List Char} {members : Members}
    (reads : ReadsMembers (level + 1) true cs members rest) :
    ReadsValue level ('\x7b' :: cs) (.object (level + 1) members) rest := by
  obtain ⟨h, eq⟩ := reads
  refine ⟨Nat.lt_succ_of_lt h, ?_⟩
  rw [readValue]
  split
  · rename_i none
    exact absurd none (dropWhile_isSpace_ne_nil (by decide))
  · rename_i c tail found
    obtain ⟨rfl, rfl⟩ := dropWhile_isSpace_cons (by decide) found
    simp [eq, Rest.ofRest]

theorem nullWord {level : Nat} {rest : List Char} :
    ReadsValue level ('n' :: 'u' :: 'l' :: 'l' :: rest) .null rest := by
  refine ⟨by simp only [List.length_cons]; omega, ?_⟩
  rw [readValue]
  split
  · rename_i none
    exact absurd none (dropWhile_isSpace_ne_nil (by decide))
  · rename_i c tail found
    obtain ⟨rfl, rfl⟩ := dropWhile_isSpace_cons (by decide) found
    simp [wordValue, wordFault?, Rest.ofDrop]

theorem trueWord {level : Nat} {rest : List Char} :
    ReadsValue level ('t' :: 'r' :: 'u' :: 'e' :: rest) (.bool true) rest := by
  refine ⟨by simp only [List.length_cons]; omega, ?_⟩
  rw [readValue]
  split
  · rename_i none
    exact absurd none (dropWhile_isSpace_ne_nil (by decide))
  · rename_i c tail found
    obtain ⟨rfl, rfl⟩ := dropWhile_isSpace_cons (by decide) found
    simp [wordValue, wordFault?, Rest.ofDrop]

theorem falseWord {level : Nat} {rest : List Char} :
    ReadsValue level ('f' :: 'a' :: 'l' :: 's' :: 'e' :: rest) (.bool false) rest := by
  refine ⟨by simp only [List.length_cons]; omega, ?_⟩
  rw [readValue]
  split
  · rename_i none
    exact absurd none (dropWhile_isSpace_ne_nil (by decide))
  · rename_i c tail found
    obtain ⟨rfl, rfl⟩ := dropWhile_isSpace_cons (by decide) found
    simp [wordValue, wordFault?, Rest.ofDrop]

/-- A numeral without a sign. -/
theorem number {level : Nat} {c : Char} {cs : List Char} {numeral : Numeral} (digit : c.isDigit)
    (scanned : Numeral.scan false (c :: cs) = .ok numeral) :
    ReadsValue level (c :: cs) (.number ⟨numeral.value, none⟩) (cs.drop (numeral.width - 1)) := by
  refine ⟨by simp only [List.length_cons, List.length_drop]; omega, ?_⟩
  rw [readValue]
  split
  · rename_i none
    exact absurd none (dropWhile_isSpace_ne_nil (isSpace_of_isDigit digit))
  · rename_i d tail found
    obtain ⟨rfl, rfl⟩ := dropWhile_isSpace_cons (isSpace_of_isDigit digit) found
    have isOther {e : Char} (noDigit : e.isDigit = false) : d ≠ e := ne_of_isDigit digit noDigit
    rw [if_neg (isOther (by decide)), if_neg (isOther (by decide)), if_neg (isOther (by decide)),
      if_neg (isOther (by decide)), if_neg (isOther (by decide)), if_neg (isOther (by decide)),
      if_neg (isOther (by decide)), if_pos digit, scanned]
    rfl

/-- A numeral behind a minus sign. -/
theorem negative {level : Nat} {cs : List Char} {numeral : Numeral}
    (scanned : Numeral.scan true cs = .ok numeral) :
    ReadsValue level ('-' :: cs) (.number ⟨numeral.value, none⟩) (cs.drop numeral.width) := by
  refine ⟨by simp only [List.length_cons, List.length_drop]; omega, ?_⟩
  rw [readValue]
  split
  · rename_i none
    exact absurd none (dropWhile_isSpace_ne_nil (by decide))
  · rename_i c tail found
    obtain ⟨rfl, rfl⟩ := dropWhile_isSpace_cons (by decide) found
    simp [scanned, numberValue, Rest.ofDrop]

end ReadsValue

/-!
### Lists
-/

namespace ReadsItems

theorem close {level : Nat} {first : Bool} {cs : List Char} :
    ReadsItems level first (']' :: cs) .close cs := by
  refine ⟨Nat.lt_succ_self _, ?_⟩
  rw [readItems]
  split
  · rename_i none
    exact absurd none (dropWhile_isSpace_ne_nil (by decide))
  · rename_i c tail found
    obtain ⟨rfl, rfl⟩ := dropWhile_isSpace_cons (by decide) found
    simp

theorem item {level : Nat} {cs rest rest' : List Char} {value : Node} {items : Items}
    (reads : ReadsValue level cs value rest) (readsRest : ReadsItems level false rest items rest') :
    ReadsItem level cs (.item value items) rest' := by
  obtain ⟨h, eq⟩ := reads
  obtain ⟨h', eq'⟩ := readsRest
  refine ⟨Nat.lt_trans h' h, ?_⟩
  rw [readItem, eq]
  simp [eq', Rest.ofRest]

theorem first {level : Nat} {c : Char} {cs rest : List Char} {items : Items} (noSpace : isSpace c = false)
    (noClose : c ≠ ']') (reads : ReadsItem level (c :: cs) items rest) :
    ReadsItems level true (c :: cs) items rest := by
  obtain ⟨h, eq⟩ := reads
  refine ⟨h, ?_⟩
  rw [readItems]
  split
  · rename_i none
    exact absurd none (dropWhile_isSpace_ne_nil noSpace)
  · rename_i d tail found
    obtain ⟨rfl, rfl⟩ := dropWhile_isSpace_cons noSpace found
    simp [noClose, eq]

theorem next {level : Nat} {c : Char} {cs rest : List Char} {items : Items} (noSpace : isSpace c = false)
    (noClose : c ≠ ']') (reads : ReadsItem level (c :: cs) items rest) :
    ReadsItems level false (',' :: c :: cs) items rest := by
  obtain ⟨h, eq⟩ := reads
  refine ⟨Nat.lt_succ_of_lt h, ?_⟩
  rw [readItems]
  split
  · rename_i none
    exact absurd none (dropWhile_isSpace_ne_nil (by decide))
  · rename_i d tail found
    obtain ⟨rfl, rfl⟩ := dropWhile_isSpace_cons (by decide) found
    simp [noSpace, noClose, eq, Rest.ofRest]

end ReadsItems

/-!
### Objects
-/

namespace ReadsMembers

theorem close {level : Nat} {first : Bool} {cs : List Char} :
    ReadsMembers level first ('\x7d' :: cs) .close cs := by
  refine ⟨Nat.lt_succ_self _, ?_⟩
  rw [readMembers]
  split
  · rename_i none
    exact absurd none (dropWhile_isSpace_ne_nil (by decide))
  · rename_i c tail found
    obtain ⟨rfl, rfl⟩ := dropWhile_isSpace_cons (by decide) found
    simp

theorem member {level : Nat} {cs rest rest' rest'' : List Char} {key : Pieces} {value : Node}
    {members : Members} (readsKey : ReadsText cs key (':' :: rest))
    (reads : ReadsValue level rest value rest') (readsRest : ReadsMembers level false rest' members rest'') :
    ReadsMember level ('"' :: cs) (.member key.lexeme value members) rest'' := by
  obtain ⟨h, eq⟩ := readsKey
  obtain ⟨h', eq'⟩ := reads
  obtain ⟨h'', eq''⟩ := readsRest
  refine ⟨by simp at h ⊢; omega, ?_⟩
  rw [readMember]
  split
  · rename_i none
    exact absurd none (dropWhile_isSpace_ne_nil (by decide))
  · rename_i c tail found
    obtain ⟨rfl, rfl⟩ := dropWhile_isSpace_cons (by decide) found
    simp only [eq, if_true]
    split
    · rename_i none
      exact absurd none (dropWhile_isSpace_ne_nil (by decide))
    · rename_i c tail' found'
      obtain ⟨rfl, rfl⟩ := dropWhile_isSpace_cons (by decide) found'
      simp [eq', eq'', Rest.ofRest]

theorem first {level : Nat} {c : Char} {cs rest : List Char} {members : Members}
    (noSpace : isSpace c = false) (noClose : c ≠ '\x7d') (reads : ReadsMember level (c :: cs) members rest) :
    ReadsMembers level true (c :: cs) members rest := by
  obtain ⟨h, eq⟩ := reads
  refine ⟨h, ?_⟩
  rw [readMembers]
  split
  · rename_i none
    exact absurd none (dropWhile_isSpace_ne_nil noSpace)
  · rename_i d tail found
    obtain ⟨rfl, rfl⟩ := dropWhile_isSpace_cons noSpace found
    simp [noClose, eq]

theorem next {level : Nat} {c : Char} {cs rest : List Char} {members : Members}
    (noSpace : isSpace c = false) (noClose : c ≠ '\x7d') (reads : ReadsMember level (c :: cs) members rest) :
    ReadsMembers level false (',' :: c :: cs) members rest := by
  obtain ⟨h, eq⟩ := reads
  refine ⟨Nat.lt_succ_of_lt h, ?_⟩
  rw [readMembers]
  split
  · rename_i none
    exact absurd none (dropWhile_isSpace_ne_nil (by decide))
  · rename_i d tail found
    obtain ⟨rfl, rfl⟩ := dropWhile_isSpace_cons (by decide) found
    simp [noSpace, noClose, eq, Rest.ofRest]

end ReadsMembers

/-- The document of a text that is one value. -/
theorem Document.ofText_of_readsValue {text : String} {value : Node} (reads : ReadsValue 0 text.toList value []) :
    Document.ofText text = ⟨value, none⟩ := by
  obtain ⟨h, eq⟩ := reads
  rw [Document.ofText, eq]
  rfl

end RouteScribe.Json
