/-
Module: RouteScribe.Proofs.Settings.Mentions
Layer: Proofs
Purpose: What the values in a file of variables depend on. A value asks the environment for nothing but variables that it
  mentions, by their names behind a dollar sign; two environments that agree on these give the same value.
Imports: Mathlib.Data.List.TakeWhile, RouteScribe.Settings.EnvironmentFile
Trusted boundary: human-reviewed spec
Main exports: Variables.IsEnvironment, EnvironmentFile.Asks, EnvironmentFile.Mentions, lookup_eq_some_iff_mem,
  EnvironmentFile.findAssigned?_congr, EnvironmentFile.readValue_congr
Open obligations: none
-/
import Mathlib.Data.List.TakeWhile
import RouteScribe.Settings.EnvironmentFile

namespace RouteScribe

/-!
### The specification
-/

/-- Whether variables can be those of a process: no two of them have the same name, no name is empty, and a name has
    an equals sign at its start at most. -/
structure Variables.IsEnvironment (known : Variables) : Prop where
  distinct : (known.map Prod.fst).Nodup
  nonempty : ∀ v ∈ known, v.1 ≠ ""
  noEquals : ∀ v ∈ known, '=' ∉ v.1.toList.tail

namespace EnvironmentFile

/-- `Asks cs name` says that a value asks for a name: for the letters and numbers behind a dollar sign, as many as there
    are, or for what stands in braces there. -/
inductive Asks : List Char → List Char → Prop where
  | plain {before name behind : List Char} :
      (∀ c ∈ name, Text.isLetterOrNumber c = true) → (∀ c ∈ behind.head?, Text.isLetterOrNumber c = false) →
        Asks (before ++ '$' :: name ++ behind) name
  | braced {before name behind : List Char} :
      '\x7d' ∉ name → Asks (before ++ '$' :: '\x7b' :: name ++ '\x7d' :: behind) name

/-- The name of the variable that answers, if a value asks for `cs`: it ends at an equals sign behind the first
    character. -/
def variableName (cs : List Char) : List Char := cs.take 1 ++ (cs.drop 1).takeWhile (· ≠ '=')

/-- Whether a value mentions a variable. -/
def Mentions (cs name : List Char) : Prop := ∃ asked, Asks cs asked ∧ name = variableName asked

end EnvironmentFile

/-!
### Variables
-/

section

variable {α : Type} {entries : List (String × α)} {key : String} {a : α}

theorem mem_of_lookup (found : entries.lookup key = some a) : (key, a) ∈ entries := by
  obtain ⟨before, behind, rfl, -⟩ := List.lookup_eq_some_iff.mp found
  exact List.mem_append_right _ List.mem_cons_self

/-- Where no key is there twice, an entry is found whatever stands before it. -/
theorem lookup_eq_some_iff_mem (distinct : (entries.map Prod.fst).Nodup) :
    entries.lookup key = some a ↔ (key, a) ∈ entries := by
  refine ⟨mem_of_lookup, fun mem => ?_⟩
  obtain ⟨before, behind, rfl⟩ := List.append_of_mem mem
  refine List.lookup_eq_some_iff.mpr ⟨before, behind, rfl, fun entry earlier => bne_iff_ne.mpr ?_⟩
  rw [List.map_append, List.map_cons] at distinct
  exact (List.nodup_append.mp distinct).2.2 entry.1 (List.mem_map_of_mem earlier) key List.mem_cons_self |>.symm

end

namespace EnvironmentFile

variable {known known' assigned : Variables} {name cs text rest : List Char}

theorem takeWhile_append_equals (cs rest : List Char) :
    (cs ++ '=' :: rest).takeWhile (· ≠ '=') = cs.takeWhile (· ≠ '=') := by
  induction cs with
  | nil => rfl
  | cons c cs ih =>
      rw [List.cons_append, List.takeWhile_cons, List.takeWhile_cons, ih]

/-- An assignment that starts with a name is one of the variable that answers. -/
theorem eq_variableName {start value : List Char} (nonempty : start ≠ []) (noEquals : '=' ∉ start.tail)
    (asked : name ≠ []) (same : start ++ '=' :: value = name ++ '=' :: rest) : start = variableName name := by
  obtain ⟨c, behind, rfl⟩ := List.exists_cons_of_ne_nil nonempty
  obtain ⟨d, behind', rfl⟩ := List.exists_cons_of_ne_nil asked
  rw [List.cons_append, List.cons_append, List.cons.injEq] at same
  obtain ⟨rfl, same⟩ := same
  have whole : ∀ e ∈ behind, decide (e ≠ '=') = true := fun e mem =>
    decide_eq_true fun isEquals => noEquals (isEquals ▸ mem)
  have cut := congrArg (List.takeWhile (· ≠ '=')) same
  rw [List.takeWhile_append_of_pos whole, List.takeWhile_cons_of_neg (by decide), List.append_nil,
    takeWhile_append_equals] at cut
  rw [cut]
  rfl

theorem findAssigned?_some (isEnvironment : known.IsEnvironment) (found : findAssigned? known name = some rest) :
    name ≠ [] ∧ ∃ value, known.lookup (String.ofList (variableName name)) = some value ∧
      variableName name ++ '=' :: value.toList = name ++ '=' :: rest := by
  rw [findAssigned?] at found
  split at found
  case isTrue => cases found
  case isFalse asked =>
      have asked : name ≠ [] := by simpa using asked
      obtain ⟨v, mem, isRest⟩ := List.exists_of_findSome?_eq_some found
      obtain ⟨isStart, isRest⟩ := Option.ite_none_right_eq_some.mp isRest
      obtain ⟨behind, same⟩ := List.isPrefixOf_iff_prefix.mp isStart
      rw [← same, List.drop_left, Option.some.injEq] at isRest
      subst isRest
      rw [List.append_assoc, List.singleton_append] at same
      have nonempty : v.1.toList ≠ [] := mt String.toList_eq_nil_iff.mp (isEnvironment.nonempty v mem)
      have isName := eq_variableName nonempty (isEnvironment.noEquals v mem) asked same.symm
      refine ⟨asked, v.2, ?_, by rw [← isName, same]⟩
      rw [← isName, String.ofList_toList, lookup_eq_some_iff_mem isEnvironment.distinct]
      exact mem

/-- The environment gives what stands behind a name in the only assignment that can start with it. -/
theorem findAssigned?_eq_some_iff (isEnvironment : known.IsEnvironment) :
    findAssigned? known name = some rest ↔ name ≠ [] ∧
      ∃ value, known.lookup (String.ofList (variableName name)) = some value ∧
        variableName name ++ '=' :: value.toList = name ++ '=' :: rest := by
  refine ⟨findAssigned?_some isEnvironment, ?_⟩
  rintro ⟨asked, value, isValue, same⟩
  cases result : findAssigned? known name with
  | none =>
      rw [findAssigned?, if_neg (by simpa using asked), List.findSome?_eq_none_iff] at result
      have passed := result _ ((lookup_eq_some_iff_mem isEnvironment.distinct).mp isValue)
      have isStart : (name ++ ['=']).isPrefixOf (name ++ '=' :: rest) = true :=
        List.isPrefixOf_iff_prefix.mpr ⟨rest, by simp⟩
      rw [String.toList_ofList, same, if_pos isStart] at passed
      cases passed
  | some rest' =>
      -- what is found is the rest of the same assignment
      obtain ⟨-, value', isValue', same'⟩ := findAssigned?_some isEnvironment result
      rw [isValue] at isValue'
      cases isValue'
      rw [same, List.append_cancel_left_eq, List.cons.injEq] at same'
      rw [same'.2]

/-- Environments give the same for a name if they agree on the variable at its start. -/
theorem findAssigned?_congr (isEnvironment : known.IsEnvironment) (isEnvironment' : known'.IsEnvironment)
    (agree : known.lookup (String.ofList (variableName name)) = known'.lookup (String.ofList (variableName name))) :
    findAssigned? known name = findAssigned? known' name := by
  ext rest
  rw [findAssigned?_eq_some_iff isEnvironment, findAssigned?_eq_some_iff isEnvironment', agree]

/-!
### Mentions
-/

/-- `mention.EndsIn done` says that the mention of a variable stands at the end of a text, as far as it is read. -/
inductive Mention.EndsIn : List Char → Mention → Prop where
  | plain {before name : List Char} :
      (∀ c ∈ name, Text.isLetterOrNumber c = true) → EndsIn (before ++ '$' :: name) ⟨false, name⟩
  | braced {before name : List Char} : '\x7d' ∉ name → EndsIn (before ++ '$' :: '\x7b' :: name) ⟨true, name⟩

/-- A mention starts with a dollar sign. -/
theorem Mention.endsIn_start (done : List Char) : Mention.EndsIn (done ++ ['$']) {} :=
  .plain (List.forall_mem_nil _)

/-- A mention goes on with a letter or a number, and in braces with any character but the closing one. -/
theorem Mention.EndsIn.append {done : List Char} {mention : Mention} {c : Char} (ends : EndsIn done mention)
    (goesOn : (Text.isLetterOrNumber c || mention.isBraced && c != '\x7d') = true) :
    EndsIn (done ++ [c]) { mention with name := mention.name ++ [c] } := by
  cases ends with
  | @plain before name letters =>
      rw [List.append_assoc, List.cons_append]
      have isLetter : Text.isLetterOrNumber c = true := by simpa using goesOn
      exact .plain (List.forall_mem_append.mpr ⟨letters, List.forall_mem_singleton.mpr isLetter⟩)
  | @braced before name notClosed =>
      rw [List.append_assoc, List.cons_append, List.cons_append]
      have other : c ≠ '\x7d' := by
        rintro rfl
        have noLetter : Text.isLetterOrNumber '\x7d' = false := by decide +kernel
        simp [noLetter] at goesOn
      exact .braced (by simpa using ⟨notClosed, other.symm⟩)

namespace Value

variable {valueOf valueOf' : List Char → List Char} {v v' : Value} {done cs : List Char} {c : Char}
  {mention : Mention}

/-- `v.Tracks done` says that a variable that is being mentioned stands at the end of `done`, and that nothing else is
    open then. -/
def Tracks (v : Value) (done : List Char) : Prop :=
  ∀ mention, v.mention = some mention →
    v.isEscaped = false ∧ v.inSingle = false ∧ v.isOver = false ∧ mention.EndsIn done

theorem tracks_of_none (none : v.mention = none) (done : List Char) : v.Tracks done := by
  intro mention isMention
  rw [none] at isMention
  cases isMention

@[simp] theorem mention_settle : (v.settle valueOf).mention = none := by
  rw [settle]
  split <;> simp [*]

theorem settle_congr (isMention : v.mention = some mention) (same : valueOf mention.name = valueOf' mention.name) :
    v.settle valueOf = v.settle valueOf' := by
  simp only [settle, isMention, same]

theorem extendMention_congr (isMention : v.mention = some mention) (ends : mention.EndsIn done)
    (agree : ∀ name, Asks (done ++ c :: cs) name → valueOf name = valueOf' name) :
    v.extendMention valueOf mention c = v.extendMention valueOf' mention c := by
  rw [extendMention, extendMention]
  split
  case isTrue => rfl
  case isFalse stops =>
      -- the mention is over, so that the value asks for its name
      have asks : Asks (done ++ c :: cs) mention.name := by
        cases ends with
        | plain letters => exact .plain letters (by simpa using stops)
        | braced notClosed =>
            obtain ⟨-, rfl⟩ : Text.isLetterOrNumber c = false ∧ c = '\x7d' := by simpa using stops
            exact .braced notClosed
      rw [settle_congr isMention (agree _ asks)]

theorem extend_congr (tracks : v.Tracks done)
    (agree : ∀ name, Asks (done ++ c :: cs) name → valueOf name = valueOf' name) :
    v.extend valueOf c = v.extend valueOf' c := by
  cases isMention : v.mention with
  | none => simp only [extend, isMention]
  | some mention => simp only [extend, isMention, extendMention_congr isMention (tracks _ isMention).2.2.2 agree]

theorem extendMention_tracks (isMention : v.mention = some mention) (tracks : v.Tracks done) :
    (v.extendMention valueOf mention c).Tracks (done ++ [c]) := by
  obtain ⟨notEscaped, notSingle, notOver, ends⟩ := tracks mention isMention
  have idle {v : Value} (none : v.mention = none) : v.Tracks (done ++ [c]) := tracks_of_none none _
  rw [extendMention]
  split
  case isTrue goesOn =>
      rintro _ ⟨⟩
      exact ⟨notEscaped, notSingle, notOver, ends.append goesOn⟩
  case isFalse =>
      split
      case isTrue => exact idle mention_settle
      case isFalse notBraced =>
          split
          case isTrue opens =>
              simp only [Bool.and_eq_true, decide_eq_true_eq, List.isEmpty_iff] at opens
              rintro _ ⟨⟩
              refine ⟨notEscaped, notSingle, notOver, ?_⟩
              cases ends with
              | @plain before name letters =>
                  obtain ⟨rfl, isEmpty⟩ := opens
                  obtain rfl : name = [] := isEmpty
                  rw [List.append_assoc]
                  exact .braced List.not_mem_nil
              | braced _ => exact absurd rfl notBraced
          case isFalse =>
              split
              case isTrue opens =>
                  rintro _ ⟨⟩
                  simp only [settle, isMention]
                  exact ⟨notEscaped, notSingle, notOver, opens ▸ Mention.endsIn_start done⟩
              case isFalse => exact idle (by simp [push])

theorem extend_tracks (tracks : v.Tracks done) (isOpen : v.isOver = false)
    (extended : v.extend valueOf c = some v') : v'.Tracks (done ++ [c]) := by
  have idle {v : Value} (none : v.mention = none) : v.Tracks (done ++ [c]) := tracks_of_none none _
  cases isMention : v.mention with
  | some mention =>
      obtain ⟨notEscaped, notSingle, -, -⟩ := tracks mention isMention
      simp only [extend, notEscaped, notSingle, isMention] at extended
      cases extended
      exact extendMention_tracks isMention tracks
  | none =>
      rw [extend] at extended
      split at extended
      case isTrue =>
          obtain ⟨d, -, rfl⟩ := Option.map_eq_some_iff.mp extended
          exact idle isMention
      case isFalse notEscaped =>
          split at extended
          case isTrue => exact idle (by grind [push])
          case isFalse notSingle =>
              rw [isMention] at extended
              dsimp only at extended
              split at extended
              case isTrue opens =>
                  cases extended
                  rintro _ ⟨⟩
                  exact ⟨by simpa using notEscaped, by simpa using notSingle, isOpen,
                    opens ▸ Mention.endsIn_start done⟩
              case isFalse => exact idle (by grind [push])

/-- At the end of a value, too, it asks for what it mentions there. -/
theorem read_nil_congr (tracks : v.Tracks done) (agree : ∀ name, Asks done name → valueOf name = valueOf' name) :
    read valueOf v [] = read valueOf' v [] := by
  cases isMention : v.mention with
  | none => simp only [read, settle, isMention]
  | some mention =>
      obtain ⟨-, -, -, ends⟩ := tracks mention isMention
      cases ends with
      | @plain before name letters =>
          have asks : Asks (before ++ '$' :: name ++ []) name := .plain letters (by simp)
          rw [List.append_nil] at asks
          rw [read, read, settle_congr isMention (agree _ asks)]
      | braced _ => simp [read, isMention]

theorem read_congr (tracks : v.Tracks done)
    (agree : ∀ name, Asks (done ++ cs) name → valueOf name = valueOf' name) :
    read valueOf v cs = read valueOf' v cs := by
  induction cs generalizing v done with
  | nil => exact read_nil_congr tracks (by simpa using agree)
  | cons c cs ih =>
      have further : done ++ [c] ++ cs = done ++ c :: cs := by simp
      rw [read.eq_2, read.eq_2]
      split
      case isTrue isOver =>
          have none : v.mention = none := by
            by_contra some
            obtain ⟨mention, isMention⟩ := Option.ne_none_iff_exists'.mp some
            rw [(tracks mention isMention).2.2.1] at isOver
            cases isOver
          have rest : read valueOf v [] = read valueOf' v [] := by simp only [read, settle, none]
          rw [ih (tracks_of_none none (done ++ [c])) (further ▸ agree), rest]
      case isFalse isOpen =>
          rw [extend_congr tracks agree]
          cases extended : v.extend valueOf' c with
          | none => rfl
          | some v' => exact ih (extend_tracks tracks (by simpa using isOpen) extended) (further ▸ agree)

end Value

/-- A value is the same for environments that agree on the variables that it mentions. -/
theorem readValue_congr (isEnvironment : known.IsEnvironment) (isEnvironment' : known'.IsEnvironment)
    (agree : ∀ name, Mentions cs name → known.lookup (String.ofList name) = known'.lookup (String.ofList name)) :
    readValue known assigned cs = readValue known' assigned cs := by
  have start : Value.Tracks {} [] := Value.tracks_of_none rfl []
  have same : ∀ asked, Asks cs asked → valueOf known assigned asked = valueOf known' assigned asked := by
    intro asked asks
    rw [valueOf, valueOf, findAssigned?_congr isEnvironment isEnvironment' (agree _ ⟨asked, asks, rfl⟩)]
  rw [readValue, readValue, Value.read_congr start same]

end EnvironmentFile

end RouteScribe
