/-
Module: RouteScribe.TypeSet
Layer: Reachability
Purpose: Sets of types. Two types are the same member when their canonical texts are equal, and the members
  are listed in the order of these texts.
Imports: RouteScribe.TypeExpr
Trusted boundary: human-reviewed spec
Main exports: TypeSet, TypeSet.contains, TypeSet.insert, TypeSet.names
Open obligations: none
-/
import RouteScribe.TypeExpr

namespace RouteScribe

/-- A set of types, as the list of its members in the strict order of their texts. -/
structure TypeSet where
  members : List TypeExpr
  ordered : members.Pairwise (·.text < ·.text)
deriving Repr

namespace TypeSet

/-- The set without members. -/
def empty : TypeSet := ⟨[], .nil⟩

instance : Inhabited TypeSet := ⟨empty⟩

/-- Whether a type is a member. -/
def contains (s : TypeSet) (t : TypeExpr) : Bool := s.members.any (·.text == t.text)

/-- Put a type into its place in an ordered list, unless the list has a type of the same text. -/
def insertInto (t : TypeExpr) : List TypeExpr → List TypeExpr
  | [] => [t]
  | u :: us =>
    if t.text = u.text then u :: us
    else if t.text < u.text then t :: u :: us
    else u :: insertInto t us

/-- The members after an insertion are the old ones and possibly the new one. -/
theorem mem_of_mem_insertInto {t u : TypeExpr} {us : List TypeExpr} (h : u ∈ insertInto t us) :
    u = t ∨ u ∈ us := by
  induction us with
  | nil => simpa [insertInto] using h
  | cons v vs ih =>
    rw [insertInto] at h
    split at h
    · exact Or.inr h
    · split at h
      · simpa using h
      · rcases List.mem_cons.mp h with rfl | h'
        · simp
        · rcases ih h' with rfl | old
          · exact Or.inl rfl
          · exact Or.inr (List.mem_cons_of_mem _ old)

/-- An insertion takes no member away. -/
theorem mem_insertInto_of_mem {t u : TypeExpr} {us : List TypeExpr} (mem : u ∈ us) : u ∈ insertInto t us := by
  induction us with
  | nil => cases mem
  | cons v vs ih =>
    rw [insertInto]
    split
    · exact mem
    · split
      · exact List.mem_cons_of_mem _ mem
      · rcases List.mem_cons.mp mem with rfl | mem
        · exact List.mem_cons_self
        · exact List.mem_cons_of_mem _ (ih mem)

/-- Insertion keeps the order. -/
theorem ordered_insertInto {t : TypeExpr} {us : List TypeExpr}
    (h : us.Pairwise (·.text < ·.text)) : (insertInto t us).Pairwise (·.text < ·.text) := by
  induction us with
  | nil => simp [insertInto]
  | cons v vs ih =>
    obtain ⟨below, rest⟩ := List.pairwise_cons.mp h
    rw [insertInto]
    split
    · exact h
    · rename_i differ
      split
      · rename_i less
        refine List.pairwise_cons.mpr ⟨fun w hw => ?_, h⟩
        rcases List.mem_cons.mp hw with rfl | hw'
        · exact less
        · exact String.lt_trans less (below w hw')
      · rename_i notLess
        refine List.pairwise_cons.mpr ⟨fun w hw => ?_, ih rest⟩
        rcases mem_of_mem_insertInto hw with rfl | old
        · exact Classical.byContradiction fun notGreater =>
            differ (String.le_antisymm notGreater notLess)
        · exact below w old

/-- The set with one more member. -/
def insert (s : TypeSet) (t : TypeExpr) : TypeSet :=
  ⟨insertInto t s.members, ordered_insertInto s.ordered⟩

/-- After an insertion a set contains the types of the new text and those it contained before. -/
theorem contains_insert (s : TypeSet) (t u : TypeExpr) :
    (s.insert t).contains u = (t.text == u.text || s.contains u) := by
  obtain ⟨members, ordered⟩ := s
  simp only [contains, insert]
  clear ordered
  induction members with
  | nil => simp [insertInto]
  | cons v vs ih =>
    rw [insertInto]
    split
    · rename_i same
      simp [same]
    · split
      · simp
      · rw [List.any_cons, ih, List.any_cons, Bool.or_left_comm]

/-- The texts of the members, in order. -/
def names (s : TypeSet) : List String := s.members.map (·.text)

/-- The number of members. -/
def size (s : TypeSet) : Nat := s.members.length

/-- Whether the set has no member. -/
def isEmpty (s : TypeSet) : Bool := s.members.isEmpty

end TypeSet

end RouteScribe
