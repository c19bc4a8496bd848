/-
Module: RouteScribe.Proofs.Declarations.AttributeText
Layer: Proofs
Purpose: Attributes are written without loss. Behind an argument stands a comma or a closing bracket; no value imitates
  it, as a text that has such characters is quoted and a list is closed by a bracket of its own. So a text that
  starts with an argument starts with no other one, and two attributes with the same text are the same.
Imports: Mathlib, RouteScribe.Proofs.Dump.KeptLiterals, RouteScribe.Proofs.Text.Literals, RouteScribe.Text.Letters
Trusted boundary: human-reviewed spec
Main exports: Attribute.IsName, Attribute.IsPlain, Attribute.ReadsOnce, Attribute.listed_inj, Literal.readsOnce_chars,
  Attribute.readsOnce_argument, Attribute.same_text_iff
Open obligations: none
-/
import Mathlib
import RouteScribe.Proofs.Dump.KeptLiterals
import RouteScribe.Proofs.Text.Literals
import RouteScribe.Text.Letters

namespace RouteScribe

/-!
### The specification
-/

namespace Attribute

/-- The characters of the names of attributes and of their arguments. -/
def isNameChar (c : Char) : Bool := Text.isIdentChar c || c == ':'

/-- Whether a name is made of letters, numbers, underscores and colons only. -/
def IsName (name : String) : Prop := name.toList.all isNameChar = true

instance (name : String) : Decidable (IsName name) := inferInstanceAs (Decidable (_ = true))

/-- Whether the names of an attribute are plain ones and no floating-point number is among its values. -/
structure IsPlain (a : Attribute) : Prop where
  name : IsName a.name
  named : ∀ arg ∈ a.named, IsName arg.name
  noFloat : a.hasFloat = false

instance : DecidablePred IsPlain := fun a =>
  decidable_of_iff (IsName a.name ∧ (∀ arg ∈ a.named, IsName arg.name) ∧ a.hasFloat = false)
    ⟨fun ⟨name, named, noFloat⟩ => ⟨name, named, noFloat⟩, fun ⟨name, named, noFloat⟩ => ⟨name, named, noFloat⟩⟩

/-!
### Arguments in a row
-/

/-- The characters that end an argument. -/
def ends : List Char := [',', ')', ']']

/-- The characters that end a name, or a value that is not quoted. -/
def stops : List Char := [' ', '"', '(', '['] ++ ends

theorem mem_stops_of_mem_ends {c : Char} (mem : c ∈ ends) : c ∈ stops := List.mem_append_right _ mem

theorem IsName.isWord {name : String} (isName : IsName name) : Text.IsWord stops name.toList :=
  .of_all isName (by decide +kernel)

/-- Whether a text may stand behind an argument. -/
def EndsArgument (rest : List Char) : Prop := ∃ c ∈ ends, ∃ behind, rest = c :: behind

/-- `ReadsOnce text ok x` says that no other text can be taken for that of `x`: what stands in front of the end of an
    argument was written for `x` only. -/
def ReadsOnce {α : Type} (text : α → List Char) (ok : α → Prop) (x : α) : Prop :=
  ∀ y rest rest', ok y → EndsArgument rest → EndsArgument rest' → text x ++ rest = text y ++ rest' →
    x = y ∧ rest = rest'

/-- The texts of items behind a first one, each behind a comma. -/
def further {α : Type} (text : α → List Char) (xs : List α) : List Char := xs.flatMap fun x => ',' :: ' ' :: text x

/-- The texts of the items of a list. -/
def listed {α : Type} (text : α → List Char) : List α → List Char
  | [] => []
  | x :: xs => text x ++ further text xs

section

variable {α : Type} {text : α → List Char} {ok : α → Prop} {xs ys : List α} {close : Char} {rest rest' : List Char}

theorem further_cons (text : α → List Char) (x : α) (xs : List α) :
    further text (x :: xs) = ',' :: ' ' :: listed text (x :: xs) := by
  rw [further, List.flatMap_cons]
  rfl

theorem endsArgument_further (closes : close ∈ ends) : EndsArgument (further text xs ++ close :: rest) := by
  cases xs with
  | nil => exact ⟨close, closes, rest, rfl⟩
  | cons x xs => exact ⟨',', List.mem_cons_self, _, rfl⟩

/-- Items behind a first one are read one by one, up to the bracket. -/
theorem further_inj (closes : close ∈ ends) (noComma : close ≠ ',') (once : ∀ x ∈ xs, ReadsOnce text ok x)
    (oks : ∀ y ∈ ys, ok y) (same : further text xs ++ close :: rest = further text ys ++ close :: rest') :
    xs = ys ∧ rest = rest' := by
  induction xs generalizing ys with
  | nil =>
      cases ys with
      | nil => exact ⟨rfl, (List.cons.inj same).2⟩
      | cons y ys => exact absurd (List.cons.inj same).1 noComma
  | cons x xs ih =>
      cases ys with
      | nil => exact absurd (List.cons.inj same).1.symm noComma
      | cons y ys =>
          obtain ⟨first, others⟩ := List.forall_mem_cons.mp once
          obtain ⟨okFirst, okOthers⟩ := List.forall_mem_cons.mp oks
          simp only [further_cons, listed, List.cons_append, List.append_assoc, List.cons.injEq, true_and] at same
          obtain ⟨rfl, behind⟩ := first _ _ _ okFirst (endsArgument_further closes) (endsArgument_further closes) same
          obtain ⟨rfl, rest⟩ := ih others okOthers behind
          exact ⟨rfl, rest⟩

/-- The items of a list are read one by one, up to the bracket, if none starts as if it were at its end. -/
theorem listed_inj (closes : close ∈ ends) (noComma : close ≠ ',')
    (starts : ∀ x rest, ok x → ¬ EndsArgument (text x ++ rest)) (once : ∀ x ∈ xs, ReadsOnce text ok x)
    (oks : ∀ x ∈ xs, ok x) (oks' : ∀ y ∈ ys, ok y)
    (same : listed text xs ++ close :: rest = listed text ys ++ close :: rest') : xs = ys ∧ rest = rest' := by
  have closed {rest : List Char} : EndsArgument (close :: rest) := ⟨close, closes, rest, rfl⟩
  cases xs with
  | nil =>
      cases ys with
      | nil => exact ⟨rfl, (List.cons.inj same).2⟩
      | cons y ys =>
          rw [listed, listed, List.nil_append, List.append_assoc] at same
          exact absurd (same ▸ closed) (starts y _ (oks' y List.mem_cons_self))
  | cons x xs =>
      cases ys with
      | nil =>
          rw [listed, listed, List.nil_append, List.append_assoc] at same
          exact absurd (same ▸ closed) (starts x _ (oks x List.mem_cons_self))
      | cons y ys =>
          -- behind a comma, both lists are items behind a first one
          apply further_inj closes noComma once oks'
          rw [further_cons, further_cons, List.cons_append, List.cons_append, same, List.cons_append, List.cons_append]

end

end Attribute

/-!
### Literals
-/

namespace Literal

open Attribute (EndsArgument ReadsOnce further further_cons listed stops ends listed_inj mem_stops_of_mem_ends)

/-- The characters of a value as it is written. -/
def chars (l : Literal) : List Char := l.written.toList

/-- The values that are written as one word. -/
def isWord : Literal → Bool
  | .bool _ => true
  | .int _ => true
  | _ => false

theorem mem_toString_int {i : Int} {c : Char} (mem : c ∈ (toString i).toList) : (c == '-' || c.isDigit) = true := by
  have isDigit {n : Nat} (mem : c ∈ n.repr.toList) : (c == '-' || c.isDigit) = true := by
    rw [Nat.toList_repr] at mem
    rw [Nat.isDigit_of_mem_toDigits (by decide) (by decide) mem, Bool.or_true]
  rw [Int.toString_eq_repr, Int.repr_eq_if] at mem
  split at mem
  · exact isDigit mem
  · rw [String.toList_append] at mem
    rcases List.mem_append.mp mem with sign | digit
    · rw [List.mem_singleton.mp sign]
      rfl
    · exact isDigit digit

variable {l l' : Literal} {rest rest' : List Char}

theorem isWord_chars (word : l.isWord = true) : Text.IsWord stops l.chars := by
  cases l with
  | bool b =>
      rw [chars, written]
      have lower : (boolText b).toList.all Char.isLower = true := by cases b <;> decide
      exact .of_all lower (by decide)
  | int i =>
      rw [chars, written]
      exact .of_all (List.all_eq_true.mpr fun c => mem_toString_int) (by decide)
  | _ => cases word

theorem chars_ne_nil (word : l.isWord = true) : l.chars ≠ [] := by
  cases l with
  | bool b =>
      rw [chars, written]
      cases b <;> decide
  | int i =>
      rw [chars, written, Int.toString_eq_repr, Int.repr_eq_if]
      split
      · rw [Nat.toList_repr]
        exact Nat.toDigits_ne_nil
      · rw [String.toList_append]
        exact List.append_ne_nil_of_left_ne_nil (by decide) _
  | _ => cases word

/-- No truth value is written as an integer is. -/
theorem boolText_ne (b : Bool) (i : Int) : boolText b ≠ toString i := by
  intro same
  have letter : 'e' ∈ (boolText b).toList := by cases b <;> decide
  rw [same] at letter
  exact absurd (mem_toString_int letter) (by decide)

theorem chars_inj_of_isWord (word : l.isWord = true) (word' : l'.isWord = true) (same : l.chars = l'.chars) :
    l = l' := by
  have same := String.toList_inj.mp same
  cases l with
  | bool b =>
      cases l' with
      | bool b' =>
          have apart : ∀ b b', boolText b = boolText b' → b = b' := by decide
          rw [apart b b' same]
      | int i => exact absurd same (boolText_ne b i)
      | _ => cases word'
  | int i =>
      cases l' with
      | bool b => exact absurd same.symm (boolText_ne b i)
      | int i' =>
          simp only [written, Int.toString_eq_repr] at same
          rw [Int.repr_injective same]
      | _ => cases word'
  | _ => cases word

/-- A list is written in brackets. -/
theorem chars_list (items : List Literal) :
    chars (.list items) = '[' :: (listed chars items ++ [']']) := by
  have others (items : List Literal) : (writtenRest items).toList = further chars items := by
    induction items with
    | nil => rfl
    | cons item items ih => simp [writtenRest, further_cons, listed, chars, ih]
  cases items with
  | nil => rfl
  | cons item items => simp [chars, written, listed, others]

/-- The other values start with a quotation mark or a bracket, so neither with a name nor as if at their end. -/
theorem opens_chars (notWord : l.isWord = false) (noFloat : l.hasFloat = false) :
    ∃ c behind, l.chars = c :: behind ∧ c ∈ stops ∧ c ∉ ends ∧ c ≠ ' ' := by
  cases l with
  | bool b => cases notWord
  | int i => cases notWord
  | float f => cases noFloat
  | text s =>
      obtain ⟨body, isBody, -⟩ := Text.readsLiteral_quote s []
      rw [List.append_nil] at isBody
      exact ⟨'"', body, isBody, by decide⟩
  | list items => exact ⟨'[', _, chars_list items, by decide⟩

theorem not_endsArgument_chars (noFloat : l.hasFloat = false) : ¬ EndsArgument (l.chars ++ rest) := by
  rintro ⟨c, closes, behind, same⟩
  cases word : l.isWord with
  | true =>
      obtain ⟨first, others, isText⟩ := List.exists_cons_of_ne_nil (chars_ne_nil word)
      have notStop := isWord_chars word
      rw [isText] at notStop same
      rw [← (List.cons.inj same).1] at closes
      exact notStop first List.mem_cons_self (mem_stops_of_mem_ends closes)
  | false =>
      obtain ⟨first, others, isText, -, notEnd, -⟩ := opens_chars word noFloat
      rw [isText] at same
      exact notEnd ((List.cons.inj same).1 ▸ closes)

/-- A word is read up to what ends it, and no other value starts with a word. -/
theorem unique_of_isWord (word : l.isWord = true) (noFloat : l'.hasFloat = false) (isEnd : EndsArgument rest)
    (isEnd' : EndsArgument rest') (same : l.chars ++ rest = l'.chars ++ rest') :
    l = l' ∧ rest = rest' := by
  obtain ⟨c, closes, behind, rfl⟩ := isEnd
  have stop := mem_stops_of_mem_ends closes
  cases word' : l'.isWord with
  | true =>
      obtain ⟨c', closes', behind', rfl⟩ := isEnd'
      have stop' := mem_stops_of_mem_ends closes'
      obtain ⟨sameText, rfl, rfl⟩ := (isWord_chars word).cons_inj (isWord_chars word') stop stop' same
      exact ⟨chars_inj_of_isWord word word' sameText, rfl⟩
  | false =>
      obtain ⟨first, others, isText, stop', -, -⟩ := opens_chars word' noFloat
      rw [isText] at same
      exact absurd ((isWord_chars word).cons_inj .nil stop stop' same).1 (chars_ne_nil word)

/-- A text is read off the literal that is written for it, whatever stands behind that. -/
theorem text_unique {s s' : String} (same : chars (.text s) ++ rest = chars (.text s') ++ rest') :
    s = s' ∧ rest = rest' := by
  have reads := Text.readsLiteral_quote s rest
  rw [show (Text.quote s).toList ++ rest = (Text.quote s').toList ++ rest' from same] at reads
  obtain ⟨value, behind⟩ := reads.unique (Text.readsLiteral_quote s' rest')
  exact ⟨String.toList_inj.mp value, behind⟩

/-- No text is written as a list is. -/
theorem text_ne_list (s : String) (items : List Literal) :
    chars (.text s) ++ rest ≠ chars (.list items) ++ rest' := by
  intro same
  obtain ⟨body, isBody, -⟩ := Text.readsLiteral_quote s rest
  rw [chars, written, isBody, chars_list] at same
  exact absurd (List.cons.inj same).1 (by decide)

theorem forall_of_anyFloat {items : List Literal} (noFloat : anyFloat items = false) :
    ∀ l ∈ items, l.hasFloat = false := by
  induction items with
  | nil => nofun
  | cons item items ih =>
      obtain ⟨first, others⟩ := Bool.or_eq_false_iff.mp noFloat
      exact List.forall_mem_cons.mpr ⟨first, ih others⟩

mutual

/-- A value without floating-point numbers is read in one way, -/
theorem readsOnce_chars (l : Literal) (noFloat : l.hasFloat = false) :
    ReadsOnce chars (fun l => l.hasFloat = false) l := by
  intro l' rest rest' noFloat' isEnd isEnd' same
  cases word : l.isWord with
  | true => exact unique_of_isWord word noFloat' isEnd isEnd' same
  | false =>
      cases word' : l'.isWord with
      | true =>
          obtain ⟨rfl, rfl⟩ := unique_of_isWord word' noFloat isEnd' isEnd same.symm
          exact ⟨rfl, rfl⟩
      | false =>
          cases l with
          | bool b => cases word
          | int i => cases word
          | float f => cases noFloat
          | text s =>
              cases l' with
              | bool b => cases word'
              | int i => cases word'
              | float f => cases noFloat'
              | text s' =>
                  obtain ⟨rfl, rfl⟩ := text_unique same
                  exact ⟨rfl, rfl⟩
              | list items => exact absurd same (text_ne_list s items)
          | list items =>
              cases l' with
              | bool b => cases word'
              | int i => cases word'
              | float f => cases noFloat'
              | text s => exact absurd same.symm (text_ne_list s items)
              | list items' =>
                  have once := readsOnce_items items noFloat
                  rw [chars_list, chars_list, List.cons_append, List.cons_append, List.append_assoc,
                    List.append_assoc] at same
                  obtain ⟨rfl, behind⟩ := listed_inj (by decide) (by decide) (fun _ _ => not_endsArgument_chars) once
                    (forall_of_anyFloat noFloat) (forall_of_anyFloat noFloat') (List.cons.inj same).2
                  exact ⟨rfl, behind⟩

/-- and so are the items of a list. -/
theorem readsOnce_items (items : List Literal) (noFloat : anyFloat items = false) :
    ∀ l ∈ items, ReadsOnce chars (fun l => l.hasFloat = false) l := by
  cases items with
  | nil => nofun
  | cons item items =>
      obtain ⟨first, others⟩ := Bool.or_eq_false_iff.mp noFloat
      exact List.forall_mem_cons.mpr ⟨readsOnce_chars item first, readsOnce_items items others⟩

end

end Literal

/-!
### Attributes
-/

namespace Attribute

open Literal (chars readsOnce_chars not_endsArgument_chars isWord_chars opens_chars)

/-- The characters of an argument as it is written. -/
def argumentChars : Literal ⊕ NamedLiteral → List Char
  | .inl value => value.chars
  | .inr arg => arg.name.toList ++ ' ' :: '=' :: ' ' :: arg.value.chars

/-- Whether an argument has a plain name, if it has one, and holds no floating-point number. -/
def IsPlainArgument : Literal ⊕ NamedLiteral → Prop
  | .inl value => value.hasFloat = false
  | .inr arg => IsName arg.name ∧ arg.value.hasFloat = false

/-- The arguments of an attribute in the order in which they are written. -/
def arguments (a : Attribute) : List (Literal ⊕ NamedLiteral) := a.args.map .inl ++ a.named.map .inr

variable {a b : Attribute} {rest rest' : List Char}

theorem not_endsArgument_argument (x : Literal ⊕ NamedLiteral) (rest : List Char) (plain : IsPlainArgument x) :
    ¬ EndsArgument (argumentChars x ++ rest) := by
  cases x with
  | inl value => exact not_endsArgument_chars plain
  | inr arg =>
      rintro ⟨c, closes, behind, same⟩
      rw [argumentChars, List.append_assoc] at same
      obtain ⟨-, rfl, -⟩ :=
        plain.1.isWord.cons_inj .nil (by decide) (mem_stops_of_mem_ends closes) same
      exact absurd closes (by decide)

/-- No argument by position is written as one with a name is: a blank stands behind the name. -/
theorem argumentChars_inl_ne_inr {value : Literal} {arg : NamedLiteral} (noFloat : value.hasFloat = false)
    (isName : IsName arg.name) (isEnd : EndsArgument rest) :
    argumentChars (.inl value) ++ rest ≠ argumentChars (.inr arg) ++ rest' := by
  intro same
  rw [argumentChars, argumentChars, List.append_assoc] at same
  cases word : value.isWord with
  | true =>
      obtain ⟨c, closes, behind, rfl⟩ := isEnd
      obtain ⟨-, rfl, -⟩ :=
        (isWord_chars word).cons_inj isName.isWord (mem_stops_of_mem_ends closes) (by decide) same
      exact absurd closes (by decide)
  | false =>
      obtain ⟨first, others, isText, stop, -, noBlank⟩ := opens_chars word noFloat
      rw [isText] at same
      exact noBlank (Text.IsWord.nil.cons_inj isName.isWord stop (by decide) same).2.1

theorem readsOnce_argument {x : Literal ⊕ NamedLiteral} (plain : IsPlainArgument x) :
    ReadsOnce argumentChars IsPlainArgument x := by
  intro y rest rest' plain' isEnd isEnd' same
  cases x with
  | inl value =>
      cases y with
      | inl value' =>
          obtain ⟨rfl, rfl⟩ := readsOnce_chars value plain value' rest rest' plain' isEnd isEnd' same
          exact ⟨rfl, rfl⟩
      | inr arg => exact absurd same (argumentChars_inl_ne_inr plain plain'.1 isEnd)
  | inr arg =>
      cases y with
      | inl value => exact absurd same.symm (argumentChars_inl_ne_inr plain' plain.1 isEnd')
      | inr arg' =>
          obtain ⟨name, value⟩ := arg
          obtain ⟨name', value'⟩ := arg'
          rw [argumentChars, argumentChars, List.append_assoc, List.append_assoc] at same
          obtain ⟨sameName, -, behind⟩ := plain.1.isWord.cons_inj plain'.1.isWord (by decide) (by decide) same
          have sameValue := (List.cons.inj (List.cons.inj behind).2).2
          obtain ⟨rfl, rfl⟩ := readsOnce_chars value plain.2 value' rest rest' plain'.2 isEnd isEnd' sameValue
          obtain rfl : name = name' := String.toList_inj.mp sameName
          exact ⟨rfl, rfl⟩

/-- The arguments that are written are those by position and those with a name. -/
theorem eq_of_arguments (sameName : a.name = b.name) (same : a.arguments = b.arguments) : a = b := by
  have args (a : Attribute) : a.arguments.filterMap Sum.getLeft? = a.args := by
    simp [arguments, List.filterMap_map, Function.comp_def]
  have named (a : Attribute) : a.arguments.filterMap Sum.getRight? = a.named := by
    simp [arguments, List.filterMap_map, Function.comp_def]
  have sameArgs : a.args = b.args := by rw [← args a, same, args b]
  have sameNamed : a.named = b.named := by rw [← named a, same, named b]
  cases a
  cases b
  cases sameName
  cases sameArgs
  cases sameNamed
  rfl

theorem IsPlain.arguments (plain : a.IsPlain) : ∀ x ∈ a.arguments, IsPlainArgument x := by
  obtain ⟨noArg, noNamed⟩ := Bool.or_eq_false_iff.mp plain.noFloat
  intro x mem
  rcases List.mem_append.mp mem with positional | named
  · obtain ⟨value, isArg, rfl⟩ := List.mem_map.mp positional
    exact Bool.eq_false_iff.mpr (List.any_eq_false.mp noArg value isArg)
  · obtain ⟨arg, isArg, rfl⟩ := List.mem_map.mp named
    exact ⟨plain.named arg isArg, Bool.eq_false_iff.mpr (List.any_eq_false.mp noNamed arg isArg)⟩

/-- What stands behind the name of an attribute. -/
def behindName : List (Literal ⊕ NamedLiteral) → List Char
  | [] => [']']
  | xs => '(' :: (listed argumentChars xs ++ [')', ']'])

theorem listed_eq_intercalate {α : Type} (text : α → List Char) (xs : List α) :
    listed text xs = [',', ' '].intercalate (xs.map text) := by
  cases xs with
  | nil => rfl
  | cons x xs =>
      induction xs generalizing x with
      | nil => simp [listed, further]
      | cons y xs ih =>
          rw [List.map_cons, List.map_cons, List.intercalate_cons_cons, ← List.map_cons, ← ih y, listed, further_cons]
          simp

theorem toList_text (a : Attribute) : a.text.toList = '#' :: '[' :: (a.name.toList ++ behindName a.arguments) := by
  have texts : a.writtenArgs.map String.toList = a.arguments.map argumentChars := by
    simp [writtenArgs, arguments, argumentChars, Function.comp_def, Literal.chars]
  have joined : (", ".intercalate a.writtenArgs).toList = listed argumentChars a.arguments := by
    rw [String.toList_intercalate, texts, listed_eq_intercalate]
    rfl
  cases isArgs : a.arguments with
  | nil =>
      rw [isArgs, List.map_nil, List.map_eq_nil_iff] at texts
      rw [text, texts]
      simp [behindName]
  | cons x xs =>
      have some : a.writtenArgs ≠ [] := by
        intro none
        rw [isArgs, none] at texts
        cases texts
      rw [isArgs] at joined
      rw [text]
      split
      · exact absurd ‹_› some
      · simp [behindName, joined]

theorem behindName_opens (xs : List (Literal ⊕ NamedLiteral)) :
    ∃ c behind, behindName xs = c :: behind ∧ c ∈ stops := by
  cases xs with
  | nil => exact ⟨']', [], rfl, by decide⟩
  | cons x xs => exact ⟨'(', _, rfl, by decide⟩

theorem behindName_inj {xs ys : List (Literal ⊕ NamedLiteral)} (plain : ∀ x ∈ xs, IsPlainArgument x)
    (plain' : ∀ y ∈ ys, IsPlainArgument y) (same : behindName xs = behindName ys) : xs = ys := by
  cases xs with
  | nil =>
      cases ys with
      | nil => rfl
      | cons y ys => exact absurd (List.cons.inj same).1 (by decide)
  | cons x xs =>
      cases ys with
      | nil => exact absurd (List.cons.inj same).1 (by decide)
      | cons y ys =>
          have once : ∀ z ∈ x :: xs, ReadsOnce argumentChars IsPlainArgument z :=
            fun z mem => readsOnce_argument (plain z mem)
          have items := (List.cons.inj same).2
          exact (listed_inj (by decide) (by decide) not_endsArgument_argument once plain plain' items).1

/-- Two attributes with plain names and without floating-point numbers are written in the same way only if they are
    the same: in their names, in their values by position and in those with a name, each in order. -/
theorem same_text_iff (plain : a.IsPlain) (plain' : b.IsPlain) : a.text = b.text ↔ a = b := by
  constructor
  · intro same
    obtain ⟨c, behind, isBehind, stop⟩ := behindName_opens a.arguments
    obtain ⟨c', behind', isBehind', stop'⟩ := behindName_opens b.arguments
    have chars : a.text.toList = b.text.toList := by rw [same]
    rw [toList_text, toList_text, isBehind, isBehind'] at chars
    have names := (List.cons.inj (List.cons.inj chars).2).2
    obtain ⟨sameName, sameStop, sameBehind⟩ :=
      plain.name.isWord.cons_inj plain'.name.isWord stop stop' names
    apply eq_of_arguments (String.toList_inj.mp sameName)
    apply behindName_inj plain.arguments plain'.arguments
    rw [isBehind, isBehind', sameStop, sameBehind]
  · rintro rfl
    rfl

/-- A value with a comma is not taken for two values, nor a text in a list for a longer list. -/
theorem same_text_iff_comma :
    let one : Attribute := ⟨"Doc", [.list [.text "a\", \"b"], .int (-1)], [⟨"key", .bool true⟩]⟩
    let two : Attribute := ⟨"Doc", [.list [.text "a", .text "b"], .int (-1)], [⟨"key", .bool true⟩]⟩
    one.IsPlain ∧ two.IsPlain ∧ one.text ≠ two.text := by
  intro one two
  have plain : one.IsPlain := by decide +kernel
  have plain' : two.IsPlain := by decide +kernel
  exact ⟨plain, plain', fun same => absurd ((same_text_iff plain plain').mp same) (by decide)⟩

end Attribute

end RouteScribe
