/-
Module: RouteScribe.Proofs.Json.Levels
Layer: Proofs
Purpose: In the tree of a text every list and every object knows how deep it stands.
Imports: RouteScribe.Json.Document
Trusted boundary: none
Main exports: Node.At, Node.Holds, Node.At.holds, Document.root_at
Open obligations: none
-/
import RouteScribe.Json.Document

namespace RouteScribe.Json

mutual

/-- Whether the lists and objects of a value that stands inside `level` others carry the level that they have. -/
def Node.At (level : Nat) : Node → Prop
  | .list itemLevel items => itemLevel = level + 1 ∧ items.At (level + 1)
  | .object memberLevel members => memberLevel = level + 1 ∧ members.At (level + 1)
  | _ => True

/-- Whether the items of a list stand inside `level` lists and objects. -/
def Items.At (level : Nat) : Items → Prop
  | .item value rest => value.At level ∧ rest.At level
  | _ => True

/-- Whether the values in an object stand inside `level` lists and objects. -/
def Members.At (level : Nat) : Members → Prop
  | .member _ value rest => value.At level ∧ rest.At level
  | _ => True

end

/-!
### Parts
-/

/-- Whether something holds of every item. -/
def Items.All (P : Node → Prop) : Items → Prop
  | .item value rest => P value ∧ rest.All P
  | _ => True

/-- Whether something holds of the value of every member. -/
def Members.All (P : Node → Prop) : Members → Prop
  | .member _ value rest => P value ∧ rest.All P
  | _ => True

/-- Whether something holds of the values that stand directly in a list or an object. -/
def Node.Holds (P : Node → Prop) : Node → Prop
  | .list _ items => items.All P
  | .object _ members => members.All P
  | _ => True

variable {P : Node → Prop}

theorem Items.all_of_forall (all : ∀ node, P node) (items : Items) : items.All P := by
  match items with
  | .item value rest => exact ⟨all value, all_of_forall all rest⟩
  | .close | .broken _ => trivial

theorem Members.all_of_forall (all : ∀ node, P node) (members : Members) : members.All P := by
  match members with
  | .member _ value rest => exact ⟨all value, all_of_forall all rest⟩
  | .close | .broken _ | .cutOff => trivial

theorem Node.holds_of_forall (all : ∀ node, P node) (node : Node) : node.Holds P := by
  cases node with
  | list _ items => exact items.all_of_forall all
  | object _ members => exact members.all_of_forall all
  | _ => trivial

theorem Items.At.all {level : Nat} {items : Items} (isAt : items.At level) : items.All (Node.At level) := by
  match items with
  | .item value rest =>
      rw [Items.At] at isAt
      exact ⟨isAt.1, isAt.2.all⟩
  | .close | .broken _ => trivial

theorem Members.At.all {level : Nat} {members : Members} (isAt : members.At level) :
    members.All (Node.At level) := by
  match members with
  | .member _ value rest =>
      rw [Members.At] at isAt
      exact ⟨isAt.1, isAt.2.all⟩
  | .close | .broken _ | .cutOff => trivial

/-- What stands directly in a value stands one level deeper. -/
theorem Node.At.holds {level : Nat} {node : Node} (isAt : node.At level) : node.Holds (Node.At (level + 1)) := by
  cases node with
  | list _ items =>
      rw [Node.At] at isAt
      exact isAt.2.all
  | object _ members =>
      rw [Node.At] at isAt
      exact isAt.2.all
  | _ => trivial

/-!
### The tree of a text
-/

/-- Whether the readers give the parts of a text the levels that they have. -/
structure ReadsAt (cs : List Char) : Prop where
  value (level : Nat) : (readValue level cs).1.At level
  items (level : Nat) (first : Bool) : (readItems level first cs).1.At level
  members (level : Nat) (first : Bool) : (readMembers level first cs).1.At level

theorem at_wordValue {level : Nat} {cs tail : List Char} (shorter : tail.length < cs.length)
    (letters : List Char) {value : Node} (isAt : value.At level) :
    (wordValue shorter letters value).1.At level := by
  rw [wordValue]
  split
  · trivial
  · exact isAt

theorem at_numberValue {level : Nat} {cs tail : List Char} (shorter : tail.length < cs.length)
    (scanned : Except Break Numeral) : (numberValue shorter scanned).1.At level := by
  cases scanned <;> trivial

section

variable {cs : List Char} (shorter : ∀ tail : List Char, tail.length < cs.length → ReadsAt tail)
include shorter

theorem at_readValue (level : Nat) : (readValue level cs).1.At level := by
  rw [readValue]
  split
  · trivial
  · rename_i c tail found
    have inner := shorter tail (length_behind found)
    dsimp only
    split
    · trivial
    split
    · exact ⟨rfl, inner.items (level + 1) true⟩
    split
    · exact ⟨rfl, inner.members (level + 1) true⟩
    split
    · exact at_wordValue _ _ trivial
    split
    · exact at_wordValue _ _ trivial
    split
    · exact at_wordValue _ _ trivial
    split
    · exact at_numberValue _ _
    split
    · split
      · exact at_numberValue _ _
      · trivial
    · trivial

theorem at_readItem (level : Nat) : (readItem level cs).1.At level := by
  have first := at_readValue shorter level
  rw [readItem]
  split
  · rename_i read
    rw [read] at first
    exact ⟨first, trivial⟩
  · rename_i value tail isShorter read
    rw [read] at first
    exact ⟨first, (shorter tail isShorter).items level false⟩

theorem at_readItems (level : Nat) (first : Bool) : (readItems level first cs).1.At level := by
  rw [readItems]
  split
  · trivial
  · rename_i c tail found
    have isShorter := length_behind found
    dsimp only
    split
    · trivial
    split
    · exact at_readItem shorter level
    split
    · split
      · exact ⟨trivial, trivial⟩
      split
      · trivial
      · exact at_readItem (fun rest h => shorter rest (Nat.lt_trans h isShorter)) level
    · trivial

theorem at_readMember (level : Nat) : (readMember level cs).1.At level := by
  rw [readMember]
  split
  · trivial
  · rename_i c tail found
    have isShorter := length_behind found
    dsimp only
    split
    · split
      · exact ⟨trivial, trivial⟩
      · rename_i behind notLonger scanned
        split
        · exact ⟨trivial, trivial⟩
        · rename_i d tail' found'
          have isShorter' := length_behind found'
          split
          · have value := (shorter tail' (by omega)).value level
            split
            · rename_i read
              rw [read] at value
              exact ⟨value, trivial⟩
            · rename_i node tail'' isShorter'' read
              rw [read] at value
              exact ⟨value, (shorter tail'' (by omega)).members level false⟩
          · exact ⟨trivial, trivial⟩
    · trivial

theorem at_readMembers (level : Nat) (first : Bool) : (readMembers level first cs).1.At level := by
  rw [readMembers]
  split
  · trivial
  · rename_i c tail found
    have isShorter := length_behind found
    dsimp only
    split
    · trivial
    split
    · exact at_readMember shorter level
    split
    · split
      · trivial
      split
      · trivial
      · exact at_readMember (fun rest h => shorter rest (Nat.lt_trans h isShorter)) level
    · trivial

end

theorem readsAt (cs : List Char) : ReadsAt cs := by
  -- a reader hands its text to another one at most twice before it goes on with a shorter one
  have shorter (tail : List Char) (isShorter : tail.length < cs.length) : ReadsAt tail := readsAt tail
  exact ⟨at_readValue shorter, at_readItems shorter, at_readMembers shorter⟩
termination_by cs.length

/-- The value of a text stands inside nothing. -/
theorem Document.root_at (text : String) : (Document.ofText text).root.At 0 := by
  have isAt := (readsAt text.toList).value 0
  rw [Document.ofText]
  split
  · rename_i read
    rwa [read] at isAt
  · rename_i read
    rwa [read] at isAt

end RouteScribe.Json
