/-
Module: RouteScribe.Proofs.TypeText.Canonical
Layer: Proofs
Purpose: The canonical text of a type identifies it. The types that texts denote are described by their form
  alone; the canonical text of each of them denotes it again, whatever the text looked like that it was read
  from. So sets of types that were read, which compare texts, compare types.
Imports: Mathlib.Tactic, RouteScribe.Proofs.TypeText.Reading, RouteScribe.TypeSet
Trusted boundary: none
Main exports: Writable, writable_iff, Writable.derives_text, Writable.parse_text, Writable.text_inj,
  TypeSet.contains_iff, TypeSet.mem_insert, canonical_text
Open obligations: none
-/
import Mathlib.Tactic
import RouteScribe.Proofs.TypeText.Reading
import RouteScribe.TypeSet

namespace RouteScribe

namespace TypeExpr

open RouteScribe.Text

/-!
### The types that can be written

Not every type has a text: a path must be made of identifiers, and the paths of the array and of the
optional type with one argument stand for other forms.
-/

/-- The types that some text denotes. -/
inductive Writable : TypeExpr → Prop where
  | unresolved : Writable .unresolved
  | unit : Writable .unit
  | param {name : String} : IsIdentifier name → Writable (.param name)
  | array {t : TypeExpr} : Writable t → Writable (.array t)
  | optional {t : TypeExpr} : Writable t → Writable (.optional t)
  | named {segments : List String} {args : List TypeExpr} :
      segments ≠ [] → (∀ segment ∈ segments, IsIdentifier segment) →
        denoted segments args = .named (joined segments) args →
        (∀ arg ∈ args, Writable arg) → Writable (.named (joined segments) args)

theorem Writable.of_mem_args {path : String} {args : List TypeExpr} {arg : TypeExpr}
    (writable : Writable (.named path args)) (mem : arg ∈ args) : Writable arg := by
  cases writable with
  | unit => cases mem
  | named _ _ _ each => exact each arg mem

/-- What a path with arguments denotes can be written if the arguments can. -/
theorem Writable.denoted {segments : List String} {args : List TypeExpr} (nonempty : segments ≠ [])
    (idents : ∀ segment ∈ segments, IsIdentifier segment) (writable : ∀ arg ∈ args, Writable arg) :
    Writable (denoted segments args) := by
  have plain (eq : TypeExpr.denoted segments args = .named (joined segments) args) :
      Writable (TypeExpr.denoted segments args) := by
    rw [eq]
    exact .named nonempty idents eq writable
  match args with
  | [] => exact plain rfl
  | _ :: _ :: _ => exact plain rfl
  | [t] =>
      by_cases isArray : segments ∈ arrayPaths
      · rw [TypeExpr.denoted, if_pos isArray]
        exact .array (writable t (by simp))
      · by_cases isOptional : segments ∈ optionalPaths
        · rw [TypeExpr.denoted, if_neg isArray, if_pos isOptional]
          exact .optional (writable t (by simp))
        · exact plain (by rw [TypeExpr.denoted, if_neg isArray, if_neg isOptional])

/-- The types in a phrase. -/
def Phrase.types : Phrase → List TypeExpr
  | .lead => []
  | .path _ => []
  | .list types => types
  | .arguments types => types
  | .type t => [t]

/-- The types in a phrase that stands in a text can be written. -/
theorem Derives.writable {phrase : Phrase} {cs rest : List Char} (derived : Derives phrase cs rest) :
    ∀ t ∈ phrase.types, Writable t := by
  induction derived with
  | noLead => simp [Phrase.types]
  | lead _ => simp [Phrase.types]
  | lastSegment _ => simp [Phrase.types]
  | segment _ _ _ _ => simp [Phrase.types]
  | lastType _ ih => exact ih
  | consType _ _ _ ihType ihList =>
      intro t mem
      rcases List.mem_cons.mp mem with rfl | mem
      · exact ihType t (by simp [Phrase.types])
      · exact ihList t mem
  | noArguments => simp [Phrase.types]
  | arguments _ _ _ ih => exact ih
  | unresolved _ => simpa [Phrase.types] using Writable.unresolved
  | unit _ => simpa [Phrase.types] using Writable.unit
  | param _ front => simpa [Phrase.types] using Writable.param (front.isIdentifier rfl)
  | array _ _ _ ih => simpa [Phrase.types] using Writable.array (ih _ (by simp [Phrase.types]))
  | named _ path _ _ _ ihArguments =>
      obtain ⟨nonempty, idents⟩ := path.path_idents
      simpa [Phrase.types] using Writable.denoted nonempty idents ihArguments

/-!
### Canonical texts denote their types

The text of a type is followed by nothing, by a comma or by a closing bracket, so a name at its end is not
longer than it was. Only the blank behind a comma is white space.
-/

/-- White space may stand in front of a type. -/
theorem Derives.blank_type {t : TypeExpr} {c : Char} {cs rest : List Char} (blank : isBlank c = true) :
    Derives (.type t) cs rest → Derives (.type t) (c :: cs) rest := by
  intro derived
  cases derived with
  | unresolved front => exact .unresolved (.blank blank front)
  | unit front => exact .unit (.blank blank front)
  | param dollar front => exact .param (.blank blank dollar) front
  | array opened element close => exact .array (.blank blank opened) element close
  | named lead path behind =>
      cases lead with
      | lead front => exact .named (.lead (.blank blank front)) path behind
      | noLead =>
          cases path with
          | lastSegment front => exact .named .noLead (.lastSegment (.blank blank front)) behind
          | segment front between names =>
              exact .named .noLead (.segment (.blank blank front) between names) behind

/-- White space may stand in front of a list of types. -/
theorem Derives.blank_list {types : List TypeExpr} {c : Char} {cs rest : List Char}
    (blank : isBlank c = true) : Derives (.list types) cs rest → Derives (.list types) (c :: cs) rest
  | .lastType derived => .lastType (derived.blank_type blank)
  | .consType derived comma list => .consType (derived.blank_type blank) comma list

/-- Whether what follows is no part of an identifier. -/
def EndsName (rest : List Char) : Prop := ∀ c ∈ rest.head?, isIdentChar c = false

/-- The text of a path is a phrase of its segments. -/
theorem derives_path {segments : List String} {rest : List Char} (nonempty : segments ≠ [])
    (idents : ∀ segment ∈ segments, IsIdentifier segment) (ends : EndsName rest) :
    Derives (.path segments) ((joined segments).toList ++ rest) rest := by
  induction segments with
  | nil => exact absurd rfl nonempty
  | cons name names ih =>
      have ident := idents name (by simp)
      by_cases last : names = []
      · subst last
        rw [joined_singleton]
        exact .lastSegment (.ident rfl ident ends)
      · have behind := ih last fun n mem => idents n (List.mem_cons_of_mem _ mem)
        have chars : (joined (name :: names)).toList ++ rest =
            name.toList ++ ([':', ':'] ++ ((joined names).toList ++ rest)) := by
          rw [toList_joined_cons last]
          simp
        rw [chars]
        refine .segment (.ident rfl ident ?_) (.symbol rfl) behind
        intro c mem
        cases mem
        decide

/-- The texts of arguments are a phrase of their list, if the text of each is a phrase of it. -/
theorem derives_list {arg : TypeExpr} {args : List TypeExpr} {rest : List Char}
    (derives : ∀ t ∈ arg :: args, ∀ rest, EndsName rest → Derives (.type t) (t.text.toList ++ rest) rest)
    (ends : EndsName rest) :
    Derives (.list (arg :: args)) (arg.text.toList ++ ((argsText args).toList ++ rest)) rest := by
  induction args generalizing arg with
  | nil => exact .lastType (derives arg (by simp) rest ends)
  | cons next args ih =>
      have behind := ih fun t mem => derives t (List.mem_cons_of_mem _ mem)
      have chars : (argsText (next :: args)).toList ++ rest =
          [','] ++ ' ' :: (next.text.toList ++ ((argsText args).toList ++ rest)) := by
        simp [argsText]
      rw [chars]
      refine .consType (derives arg (by simp) _ ?_) (.symbol rfl) (behind.blank_list (by decide))
      intro c mem
      cases mem
      decide

/-- The canonical text of a type that can be written is a phrase of it. -/
theorem Writable.derives_text {t : TypeExpr} (writable : Writable t) :
    ∀ rest, EndsName rest → Derives (.type t) (t.text.toList ++ rest) rest := by
  -- a bracket, whatever stands behind it, ends a name
  have bracket (rest : List Char) : EndsName ('<' :: rest) ∧ EndsName ('>' :: rest) := by
    constructor <;> (intro c mem; cases mem; decide)
  have arrayIdent : IsIdentifier "Vec" :=
    (@isIdentifier_of_mem_standard ["Vec"] (by decide)).2 _ (by simp)
  have optionalIdent : IsIdentifier "Option" :=
    (@isIdentifier_of_mem_standard ["Option"] (by decide)).2 _ (by simp)
  -- the standard types are written as paths with one argument
  have standard {name : String} {t : TypeExpr} (ident : IsIdentifier name)
      (derives : ∀ rest, EndsName rest → Derives (.type t) (t.text.toList ++ rest) rest)
      (rest : List Char) :
      Derives (.type (TypeExpr.denoted [name] [t]))
        (name.toList ++ (['<'] ++ (t.text.toList ++ (['>'] ++ rest)))) rest :=
    .named .noLead (.lastSegment (.ident rfl ident (bracket _).1))
      (.arguments (.symbol rfl) (.lastType (derives _ (bracket rest).2)) (.symbol rfl))
  induction writable with
  | unresolved => exact fun rest _ => .unresolved (.symbol rfl)
  | unit => exact fun rest _ => .unit (.symbol rfl)
  | @param name ident =>
      intro rest ends
      have chars : (text (.param name)).toList ++ rest = ['$'] ++ (name.toList ++ rest) := by
        simp [text]
      rw [chars]
      exact .param (.symbol rfl) (.ident rfl ident ends)
  | @array t _ ih =>
      intro rest _
      have chars : (text (.array t)).toList ++ rest =
          "Vec".toList ++ (['<'] ++ (t.text.toList ++ (['>'] ++ rest))) := by
        simp [text]
      rw [chars]
      exact standard arrayIdent ih rest
  | @optional t _ ih =>
      intro rest _
      have chars : (text (.optional t)).toList ++ rest =
          "Option".toList ++ (['<'] ++ (t.text.toList ++ (['>'] ++ rest))) := by
        simp [text]
      rw [chars]
      exact standard optionalIdent ih rest
  | @named segments args nonempty idents denotes _ ih =>
      intro rest ends
      rw [← denotes]
      cases args with
      | nil =>
          rw [denotes, text, ← denotes]
          exact .named .noLead (derives_path nonempty idents ends) .noArguments
      | cons arg args =>
          have chars : (text (.named (joined segments) (arg :: args))).toList ++ rest =
              (joined segments).toList ++
                (['<'] ++ (arg.text.toList ++ ((argsText args).toList ++ (['>'] ++ rest)))) := by
            simp [text]
          rw [denotes, chars, ← denotes]
          exact .named .noLead (derives_path nonempty idents (bracket _).1)
            (.arguments (.symbol rfl) (derives_list ih (bracket rest).2) (.symbol rfl))

/-- The canonical text of a type that can be written is read as the type. -/
theorem Writable.parse_text {t : TypeExpr} (writable : Writable t) : parse t.text = .ok t := by
  refine parse_of_denotesType ⟨[], ?_, by simp⟩
  simpa using writable.derives_text [] (by simp [EndsName])

/-- The types that can be written are those that some text is read as. -/
theorem writable_iff {t : TypeExpr} : Writable t ↔ ∃ text, parse text = .ok t := by
  refine ⟨fun writable => ⟨t.text, writable.parse_text⟩, ?_⟩
  rintro ⟨text, read⟩
  obtain ⟨rest, derived, -⟩ := denotesType_of_parse read
  exact derived.writable t (by simp [Phrase.types])

/-- Types that can be written have different canonical texts. -/
theorem Writable.text_inj {t u : TypeExpr} (writable : Writable t) (writable' : Writable u) :
    t.text = u.text ↔ t = u := by
  refine ⟨fun same => ?_, fun same => by rw [same]⟩
  have read := writable.parse_text
  rw [same, writable'.parse_text] at read
  exact (Except.ok.inj read).symm

end TypeExpr

/-!
### Sets of types that were read
-/

namespace TypeSet

open TypeExpr

/-- Whether the members of a set can be written. -/
def AllWritable (set : TypeSet) : Prop := ∀ u ∈ set.members, Writable u

/-- Among types that can be written, the test for a text is the test for membership. -/
theorem contains_iff {set : TypeSet} {t : TypeExpr} (all : set.AllWritable) (writable : Writable t) :
    set.contains t = true ↔ t ∈ set.members := by
  rw [contains, List.any_eq_true]
  constructor
  · rintro ⟨u, mem, same⟩
    rwa [← ((all u mem).text_inj writable).mp (beq_iff_eq.mp same)]
  · exact fun mem => ⟨t, mem, beq_self_eq_true _⟩

/-- Among types that can be written, none is lost by an insertion. -/
theorem mem_insertInto {us : List TypeExpr} {t u : TypeExpr} (all : ∀ v ∈ us, Writable v)
    (writable : Writable t) : u ∈ insertInto t us ↔ u = t ∨ u ∈ us := by
  refine ⟨mem_of_mem_insertInto, ?_⟩
  induction us with
  | nil => simp [insertInto]
  | cons v vs ih =>
      have ih := ih fun w mem => all w (List.mem_cons_of_mem _ mem)
      rw [insertInto]
      split
      · rename_i same
        rw [(writable.text_inj (all v (by simp))).mp same]
        simp
      · split
        · simp
        · rintro (rfl | mem)
          · exact List.mem_cons_of_mem _ (ih (Or.inl rfl))
          · rcases List.mem_cons.mp mem with rfl | mem
            · simp
            · exact List.mem_cons_of_mem _ (ih (Or.inr mem))

/-- Among types that can be written, an insertion adds the given type and nothing else. -/
theorem mem_insert {set : TypeSet} {t u : TypeExpr} (all : set.AllWritable) (writable : Writable t) :
    u ∈ (set.insert t).members ↔ u = t ∨ u ∈ set.members :=
  mem_insertInto all writable

end TypeSet

namespace TypeExpr

/-- The canonical text of a type that was read is read as the same type. Types that were read are equal
    exactly if their canonical texts are, and a set of such types finds a type and takes it in exactly as a
    set under equality. -/
theorem canonical_text {s : String} {t : TypeExpr} (read : parse s = .ok t) :
    parse t.text = .ok t ∧
      (∀ s' t', parse s' = .ok t' → (t.text = t'.text ↔ t = t')) ∧
      ∀ set : TypeSet, (∀ u ∈ set.members, ∃ s', parse s' = .ok u) →
        (set.contains t = true ↔ t ∈ set.members) ∧
          ∀ u, u ∈ (set.insert t).members ↔ u = t ∨ u ∈ set.members := by
  have writable : Writable t := writable_iff.mpr ⟨s, read⟩
  refine ⟨writable.parse_text, fun s' t' read' => ?_, fun set wasRead => ?_⟩
  · exact writable.text_inj (writable_iff.mpr ⟨s', read'⟩)
  · have all : set.AllWritable := fun u mem => writable_iff.mpr (wasRead u mem)
    exact ⟨set.contains_iff all writable, fun u => set.mem_insert all writable⟩

/-- The canonical text of a type whose text has blanks, a leading separator, a bracketed array and standard
    paths with one argument and with two. -/
theorem canonical_text_nested :
    parse " ::a::Map< [ Option<$K> ], std::vec::Vec<!>,Vec<(), u8> >" =
        .ok (.named "a::Map" [.array (.optional (.param "K")), .array .unresolved,
          .named "Vec" [.unit, .named "u8" []]]) ∧
      parse "a::Map<Vec<Option<$K>>, Vec<!>, Vec<(), u8>>" =
        .ok (.named "a::Map" [.array (.optional (.param "K")), .array .unresolved,
          .named "Vec" [.unit, .named "u8" []]]) := by
  have read : parse " ::a::Map< [ Option<$K> ], std::vec::Vec<!>,Vec<(), u8> >" =
      .ok (.named "a::Map" [.array (.optional (.param "K")), .array .unresolved,
        .named "Vec" [.unit, .named "u8" []]]) := by cbv
  exact ⟨read, (canonical_text read).1⟩

end TypeExpr

end RouteScribe
