/-
Module: RouteScribe.Proofs.Settings.ListTexts
Layer: Proofs
Purpose: A list of settings can be given as a single text, in which its items stand with commas between them, and means
  what the list means. The items are read in their order, each under its own number, up to the first one that does
  not spell what is wanted.
Imports: Mathlib.Data.List.Forall2, Mathlib.Tactic.MkIffOfInductiveProp, RouteScribe.Proofs.Text.Parts,
  RouteScribe.Proofs.Text.Trimming, RouteScribe.Settings.Setting
Trusted boundary: human-reviewed spec
Main exports: Setting.ElementType, Setting.IsItem, Setting.Lists, Setting.ListOutcome, Setting.list_as_text
Open obligations: none
-/
import Mathlib.Data.List.Forall2
import Mathlib.Tactic.MkIffOfInductiveProp
import RouteScribe.Proofs.Text.Parts
import RouteScribe.Proofs.Text.Trimming
import RouteScribe.Settings.Setting

namespace RouteScribe.Setting

/-!
### The specification
-/

/-- What the items of a list are wanted as. -/
inductive ElementType where
  | text
  | bool
  | list (items : ElementType)

namespace ElementType

/-- The values of items. -/
def Value : ElementType → Type
  | text => String
  | bool => Bool
  | list items => List items.Value

/-- How a setting is read as such an item. -/
def reader : (type : ElementType) → Reader type.Value
  | text => readText
  | bool => readBool
  | list items => readList items.reader

/-- `type.Spells x value` says that the item `x` spells `value`. An item that is wanted as a list spells the list of
    itself alone. -/
def Spells : (type : ElementType) → String → type.Value → Prop
  | text, x, value => value = x
  | bool, x, value =>
      value = true ∧ Text.lowerText x ∈ ["true", "1", "yes"] ∨
        value = false ∧ Text.lowerText x ∈ ["false", "0", "no"]
  | list items, x, value => ∃ only, items.Spells x only ∧ value = [only]

/-- Under which key an item is read in the end: a list of one item reads this one as its first. -/
def innermostKey : ElementType → String → String
  | text, key => key
  | bool, key => key
  | list items, key => items.innermostKey (key ++ "[0]")

end ElementType

/-- Whether a text can be an item of a list: it is not empty, has no comma, and has no white space around it. -/
@[mk_iff]
structure IsItem (x : String) : Prop where
  nonempty : x ≠ ""
  noComma : ',' ∉ x.toList
  start : ∀ c ∈ x.toList.head?, Text.isBlank c = false
  finish : ∀ c ∈ x.toList.getLast?, Text.isBlank c = false

instance : DecidablePred IsItem := fun x =>
  decidable_of_iff (x ≠ "" ∧ ',' ∉ x.toList ∧ x.toList.head?.all (! Text.isBlank ·) = true ∧
      x.toList.getLast?.all (! Text.isBlank ·) = true) (by simp [isItem_iff, Option.all_eq_true])

/-- `Parts xs parts` says that `parts` are the items `xs` with any white space around them, and any number of blank
    parts besides. -/
inductive Parts : List String → List String → Prop where
  | nil : Parts [] []
  | blank {xs parts : List String} {part : String} :
      Text.isBlankText part = true → Parts xs parts → Parts xs (part :: parts)
  | item {xs parts : List String} {before x behind : String} :
      Text.isBlankText before = true → Text.isBlankText behind = true → Parts xs parts →
        Parts (x :: xs) ((before ++ x ++ behind) :: parts)

/-- Whether a text lists some items, with commas between its parts. -/
def Lists (s : String) (xs : List String) : Prop := ∃ parts, Parts xs parts ∧ s = ",".intercalate parts

/-- `ListOutcome type key xs result` says what a list of the items `xs` is read as under a key. -/
inductive ListOutcome (type : ElementType) (key : String) (xs : List String) :
    Except SettingFault (List type.Value) → Prop where
  /-- Every item spells its value. -/
  | values {vs : List type.Value} : List.Forall₂ type.Spells xs vs → ListOutcome type key xs (.ok vs)
  /-- Some item is the first that spells nothing, and the fault has its number. -/
  | offender {before behind : List String} {x : String} :
      xs = before ++ x :: behind → (∀ y ∈ before, ∃ value, type.Spells y value) → (∀ value, ¬ type.Spells x value) →
        ListOutcome type key xs
          (.error (.mismatch (type.innermostKey (key ++ "[" ++ toString before.length ++ "]")) "bool"))

/-!
### The parts of a text
-/

variable {s x : String} {xs parts : List String} {type : ElementType} {key : String}

theorem noComma_of_isBlankText {part : String} (blank : Text.isBlankText part = true) : ',' ∉ part.toList := by
  intro comma
  exact absurd (List.all_eq_true.mp blank ',' comma) (by decide)

theorem trim_eq_empty {part : String} (blank : Text.isBlankText part = true) : Text.trim part = "" := by
  have nothing : Text.dropStart Text.isBlank part.toList = [] :=
    List.dropWhile_eq_nil_iff.mpr (List.all_eq_true.mp blank)
  rw [Text.trim, nothing]
  rfl

theorem IsItem.trim_eq {before behind : String} (isItem : IsItem x) (blank : Text.isBlankText before = true)
    (blank' : Text.isBlankText behind = true) : Text.trim (before ++ x ++ behind) = x := by
  have whole := Text.trim_padded (List.all_eq_true.mp blank) (List.all_eq_true.mp blank') isItem.start isItem.finish
  rwa [String.ofList_append, String.ofList_append, String.ofList_toList, String.ofList_toList,
    String.ofList_toList] at whole

theorem Parts.noComma (listed : Parts xs parts) (items : ∀ x ∈ xs, IsItem x) : ∀ part ∈ parts, ',' ∉ part.toList := by
  induction listed with
  | nil => exact List.forall_mem_nil _
  | blank blank _ ih => exact List.forall_mem_cons.mpr ⟨noComma_of_isBlankText blank, ih items⟩
  | item blank blank' _ ih =>
      obtain ⟨isItem, items⟩ := List.forall_mem_cons.mp items
      refine List.forall_mem_cons.mpr ⟨?_, ih items⟩
      simp only [String.toList_append, List.mem_append, not_or]
      exact ⟨⟨noComma_of_isBlankText blank, isItem.noComma⟩, noComma_of_isBlankText blank'⟩

/-- Trimming the parts, and leaving out those of which nothing is left, gives the items. -/
theorem Parts.trimmed (listed : Parts xs parts) (items : ∀ x ∈ xs, IsItem x) :
    (parts.map Text.trim).filter (fun item => !item.isEmpty) = xs := by
  induction listed with
  | nil => rfl
  | blank blank _ ih =>
      rw [List.map_cons, trim_eq_empty blank, List.filter_cons_of_neg (by decide), ih items]
  | item blank blank' _ ih =>
      obtain ⟨isItem, items⟩ := List.forall_mem_cons.mp items
      rw [List.map_cons, isItem.trim_eq blank blank', List.filter_cons_of_pos (by simpa using isItem.nonempty),
        ih items]

/-- A text has the items that it lists. -/
theorem itemsOfText_eq (items : ∀ x ∈ xs, IsItem x) (lists : Lists s xs) : itemsOfText s = xs := by
  obtain ⟨parts, listed, rfl⟩ := lists
  cases parts with
  | nil =>
      -- no parts at all make up the text that is empty, which has a single part
      cases listed
      decide
  | cons part parts =>
      have cut : Text.parts ',' (",".intercalate (part :: parts)) = part :: parts :=
        Text.parts_intercalate (listed.noComma items) (List.cons_ne_nil part parts)
      rw [itemsOfText, cut, listed.trimmed items]

theorem lists_self (x : String) : Lists x [x] := by
  have listed : Parts [x] ["" ++ x ++ ""] := .item rfl rfl .nil
  exact ⟨[x], by simpa using listed, by simp⟩

/-!
### Reading the items
-/

theorem boolOfText?_eq_some {value : Bool} (spells : ElementType.bool.Spells x value) :
    boolOfText? x = some value := by
  rw [boolOfText?]
  obtain ⟨rfl, yes⟩ | ⟨rfl, no⟩ := spells
  · rw [if_pos (List.contains_iff_mem.mpr yes)]
  · have notYes : ¬ ["true", "1", "yes"].contains (Text.lowerText x) = true := by
      generalize Text.lowerText x = word at no
      simp only [List.mem_cons, List.not_mem_nil, or_false] at no
      rcases no with rfl | rfl | rfl <;> decide
    rw [if_neg notYes, if_pos (List.contains_iff_mem.mpr no)]

theorem spells_of_boolOfText? {value : Bool} (read : boolOfText? x = some value) :
    ElementType.bool.Spells x value := by
  rw [boolOfText?] at read
  split at read
  case isTrue yes => exact .inl ⟨(Option.some.inj read).symm, List.contains_iff_mem.mp yes⟩
  case isFalse =>
      split at read
      case isTrue no => exact .inr ⟨(Option.some.inj read).symm, List.contains_iff_mem.mp no⟩
      case isFalse => exact absurd read (Option.some_ne_none value).symm

/-- An item is read as the value that it spells, and is at fault if it spells none. -/
theorem IsItem.reader_text (isItem : IsItem x) (type : ElementType) (key : String) :
    (∃ value, type.reader key (.text x) = .ok value ∧ type.Spells x value) ∨
      type.reader key (.text x) = .error (.mismatch (type.innermostKey key) "bool") ∧
        ∀ value, ¬ type.Spells x value := by
  induction type generalizing key with
  | text => exact .inl ⟨x, rfl, rfl⟩
  | bool =>
      rw [ElementType.reader, readBool]
      cases read : boolOfText? x with
      | some value => exact .inl ⟨value, rfl, spells_of_boolOfText? read⟩
      | none =>
          refine .inr ⟨rfl, fun value spells => ?_⟩
          exact absurd (read.symm.trans (boolOfText?_eq_some spells)) (Option.some_ne_none value).symm
  | list items ih =>
      have alone : itemsOfText x = [x] := itemsOfText_eq (List.forall_mem_singleton.mpr isItem) (lists_self x)
      have first : key ++ "[" ++ toString 0 ++ "]" = key ++ "[0]" := by
        rw [String.append_assoc, String.append_assoc]
        rfl
      rw [ElementType.reader, readList, alone, List.map_singleton, readItems, first]
      rcases ih (key ++ "[0]") with ⟨value, read, spells⟩ | ⟨fault, none⟩
      · rw [read]
        exact .inl ⟨[value], rfl, value, spells, rfl⟩
      · rw [fault]
        refine .inr ⟨rfl, ?_⟩
        rintro _ ⟨value, spells, -⟩
        exact none value spells

/-- What the items are read as, from some number on. -/
theorem readItems_text (items : ∀ x ∈ xs, IsItem x) (type : ElementType) (key : String) (n : Nat) :
    (∃ vs, readItems type.reader key n (xs.map .text) = .ok vs ∧ List.Forall₂ type.Spells xs vs) ∨
      ∃ before x behind, xs = before ++ x :: behind ∧ (∀ y ∈ before, ∃ value, type.Spells y value) ∧
        (∀ value, ¬ type.Spells x value) ∧
        readItems type.reader key n (xs.map .text) =
          .error (.mismatch (type.innermostKey (key ++ "[" ++ toString (n + before.length) ++ "]")) "bool") := by
  induction xs generalizing n with
  | nil => exact .inl ⟨[], rfl, .nil⟩
  | cons x xs ih =>
      obtain ⟨isItem, items⟩ := List.forall_mem_cons.mp items
      rw [List.map_cons, readItems]
      rcases isItem.reader_text type (key ++ "[" ++ toString n ++ "]") with ⟨value, read, spells⟩ | ⟨fault, none⟩
      · rw [read]
        rcases ih items (n + 1) with ⟨vs, rest, spell⟩ | ⟨before, y, behind, rfl, earlier, none, fault⟩
        · exact .inl ⟨value :: vs, by rw [rest]; rfl, .cons spells spell⟩
        · refine .inr ⟨x :: before, y, behind, rfl, List.forall_mem_cons.mpr ⟨⟨value, spells⟩, earlier⟩, none, ?_⟩
          rw [fault, List.length_cons, Nat.add_comm before.length 1, ← Nat.add_assoc]
          rfl
      · rw [fault]
        exact .inr ⟨[], x, xs, rfl, List.forall_mem_nil _, none, rfl⟩

theorem ofValues_text (xs : List String) : ofValues (xs.map .text) = xs.map .text := by
  induction xs with
  | nil => rfl
  | cons x xs ih => rw [List.map_cons, ofValues, ih, ofValue, List.map_cons]

/-- A list that is given as a single text means what the list of its items means, for items that are wanted as texts,
    as truth values or as lists of these: the values of all items in their order, or the fault of the first item that
    spells none, with its number. -/
theorem list_as_text (type : ElementType) (key : String) (items : ∀ x ∈ xs, IsItem x) (lists : Lists s xs) :
    readList type.reader key (.text s) = readList type.reader key (ofValue (.list (xs.map .text))) ∧
      ListOutcome type key xs (readList type.reader key (.text s)) := by
  have asText : readList type.reader key (.text s) = readItems type.reader key 0 (xs.map .text) := by
    rw [readList, itemsOfText_eq items lists]
  have asList : readList type.reader key (ofValue (.list (xs.map .text))) =
      readItems type.reader key 0 (xs.map .text) := by
    rw [ofValue, ofValues_text, readList]
  refine ⟨asText.trans asList.symm, ?_⟩
  rw [asText]
  rcases readItems_text items type key 0 with ⟨vs, read, spell⟩ | ⟨before, x, behind, split, earlier, none, fault⟩
  · rw [read]
    exact .values spell
  · rw [fault, Nat.zero_add]
    exact .offender split earlier none

/-- The text ` yes,,maybe ,no` lists three items, the second of which is no truth value. -/
theorem list_as_text_maybe :
    (∀ x ∈ ["yes", "maybe", "no"], IsItem x) ∧ Lists " yes,,maybe ,no" ["yes", "maybe", "no"] ∧
      readList (ElementType.list .bool).reader "k" (.text " yes,,maybe ,no") =
        .error (.mismatch "k[1][0]" "bool") := by
  have items : ∀ x ∈ ["yes", "maybe", "no"], IsItem x := by decide
  have listed : Parts ["yes", "maybe", "no"] [" " ++ "yes" ++ "", "", "" ++ "maybe" ++ " ", "" ++ "no" ++ ""] :=
    .item rfl rfl (.blank rfl (.item rfl rfl (.item rfl rfl .nil)))
  have lists : Lists " yes,,maybe ,no" ["yes", "maybe", "no"] := ⟨_, listed, by decide⟩
  refine ⟨items, lists, (list_as_text (.list .bool) "k" items lists).1.trans ?_⟩
  rfl

end RouteScribe.Setting
