/-
Module: RouteScribe.Proofs.Settings.Assignments
Layer: Proofs
Purpose: What a well-formed file of variables does: its assignments are made one after the other, and a variable gets
  the value of the first one, unless it has a value already. The assignments depend on no variables but those that the
  file mentions.
Imports: RouteScribe.Proofs.Settings.Mentions
Trusted boundary: human-reviewed spec
Main exports: EnvironmentFile.Assigns, EnvironmentFile.Makes, EnvironmentFile.FileMentions,
  EnvironmentFile.extend_eq, EnvironmentFile.lookup_assignAll, EnvironmentFile.Makes.congr
Open obligations: none
-/
import RouteScribe.Proofs.Settings.Mentions

namespace RouteScribe.EnvironmentFile

/-!
### The specification
-/

/-- `Assigns known assigned lines made` says that some lines of a file can all be read, up to the last one, and make
    the assignments `made`, if there are the variables `known` before and the lines above have made the assignments
    `assigned`. -/
inductive Assigns : (known assigned : Variables) → List (List Char) → (made : Variables) → Prop where
  | done {known assigned : Variables} {lines : List (List Char)} :
      joinLines .closed [] lines = .none → Assigns known assigned lines []
  | nothing {known assigned made : Variables} {lines rest : List (List Char)} {line : List Char} :
      joinLines .closed [] lines = .line line rest → readStatement line = some .nothing →
        Assigns known assigned rest made → Assigns known assigned lines made
  | assignment {known assigned made : Variables} {lines rest : List (List Char)} {line name cs value : List Char} :
      joinLines .closed [] lines = .line line rest → readStatement line = some (.assignment name cs) →
        readValue known assigned cs = some value →
        Assigns (addNew known (String.ofList name) (String.ofList value))
          (assigned ++ [(String.ofList name, String.ofList value)]) rest made →
        Assigns known assigned lines ((String.ofList name, String.ofList value) :: made)

/-- The lines of the text of a file, behind a byte order mark. -/
def fileLines (text : String) : List (List Char) :=
  linesOf (if text.toList.head? = some '\ufeff' then text.toList.drop 1 else text.toList)

/-- `HasValue lines cs` says that some lines of a file assign a value that is written as `cs`. -/
inductive HasValue : List (List Char) → List Char → Prop where
  | first {lines rest : List (List Char)} {line name cs : List Char} :
      joinLines .closed [] lines = .line line rest → readStatement line = some (.assignment name cs) →
        HasValue lines cs
  | later {lines rest : List (List Char)} {line cs : List Char} :
      joinLines .closed [] lines = .line line rest → HasValue rest cs → HasValue lines cs

/-- `Makes known text made` says that the text of a file is well formed and makes the assignments `made`. -/
def Makes (known : Variables) (text : String) (made : Variables) : Prop := Assigns known [] (fileLines text) made

/-- Whether the text of a file mentions a variable, in a value that it assigns. -/
def FileMentions (text name : String) : Prop := ∃ cs, HasValue (fileLines text) cs ∧ Mentions cs name.toList

/-!
### Assignments
-/

section

variable {known assigned made : Variables} {lines rest : List (List Char)} {line : List Char} {state : LineState}

/-- A further assignment is made if the variable has no value yet. -/
def assign (known : Variables) (v : String × String) : Variables := addNew known v.1 v.2

theorem length_joinLines {before : List Char} (joined : joinLines state before lines = .line line rest) :
    rest.length < lines.length := by
  induction lines generalizing state before with
  | nil =>
      rw [joinLines] at joined
      split at joined <;> cases joined
  | cons next lines ih =>
      rw [joinLines] at joined
      split at joined
      · cases joined
        exact Nat.lt_succ_self _
      · split at joined
        · cases joined
          exact Nat.lt_succ_self _
        · cases joined
          exact Nat.lt_succ_self _
        · exact Nat.lt_succ_of_lt (ih joined)

/-- The lines of a well-formed file are all read, and their assignments are made in order. -/
theorem extendBy_eq {fuel : Nat} (assigns : Assigns known assigned lines made) (enough : lines.length < fuel) :
    extendBy fuel known assigned lines = made.foldl assign known := by
  induction assigns generalizing fuel with
  | done none =>
      obtain ⟨fuel, rfl⟩ := Nat.exists_eq_succ_of_ne_zero (Nat.ne_zero_of_lt enough)
      rw [extendBy, none]
      rfl
  | nothing joined read _ ih =>
      obtain ⟨fuel, rfl⟩ := Nat.exists_eq_succ_of_ne_zero (Nat.ne_zero_of_lt enough)
      rw [extendBy, joined]
      dsimp only
      rw [read]
      have shorter := length_joinLines joined
      exact ih (by omega)
  | assignment joined read isValue _ ih =>
      obtain ⟨fuel, rfl⟩ := Nat.exists_eq_succ_of_ne_zero (Nat.ne_zero_of_lt enough)
      rw [extendBy, joined]
      dsimp only
      rw [read]
      dsimp only
      rw [isValue]
      have shorter := length_joinLines joined
      exact ih (by omega)

theorem extend_eq {text : String} (makes : Makes known text made) :
    extend known text = made.foldl assign known :=
  extendBy_eq makes (Nat.lt_succ_self _)

/-- A variable keeps its value, and otherwise gets that of a further assignment. -/
theorem lookup_assign (known : Variables) (v : String × String) (name : String) :
    (assign known v).lookup name = (known.lookup name).or ([v].lookup name) := by
  rw [assign, addNew]
  split
  case isTrue has =>
      obtain ⟨value, has⟩ := Option.isSome_iff_exists.mp has
      by_cases same : name = v.1
      · rw [same, has, Option.some_or]
      · have none : [v].lookup name = none := List.lookup_eq_none_iff.mpr (by simpa using same)
        rw [none, Option.or_none]
  case isFalse => exact List.lookup_append

/-- Of several assignments to a variable the first one counts. -/
theorem lookup_assignAll (known made : Variables) (name : String) :
    (made.foldl assign known).lookup name = (known.lookup name).or (made.lookup name) := by
  induction made generalizing known with
  | nil => exact Option.or_none.symm
  | cons v made ih =>
      rw [List.foldl_cons, ih, lookup_assign, Option.or_assoc, ← List.lookup_append, List.singleton_append]

theorem isEnvironment_assign (v : String × String) (isEnvironment : known.IsEnvironment) (nonempty : v.1 ≠ "")
    (noEquals : '=' ∉ v.1.toList) : (assign known v).IsEnvironment := by
  rw [assign, addNew]
  split
  case isTrue => exact isEnvironment
  case isFalse new =>
      have new : v.1 ∉ known.map Prod.fst := by
        intro mem
        obtain ⟨⟨name, value⟩, mem, rfl⟩ := List.mem_map.mp mem
        rw [(lookup_eq_some_iff_mem isEnvironment.distinct).mpr mem] at new
        exact new rfl
      refine ⟨?_, ?_, ?_⟩
      · rw [List.map_append, List.map_singleton]
        exact List.nodup_append.mpr ⟨isEnvironment.distinct, List.pairwise_singleton _ _,
          fun name mem other isNew same => new (List.mem_singleton.mp isNew ▸ same ▸ mem)⟩
      · exact List.forall_mem_append.mpr ⟨isEnvironment.nonempty, List.forall_mem_singleton.mpr nonempty⟩
      · exact List.forall_mem_append.mpr ⟨isEnvironment.noEquals,
          List.forall_mem_singleton.mpr fun mem => noEquals (List.mem_of_mem_tail mem)⟩

end

/-!
### Environments that agree
-/

section

variable {known known' assigned made : Variables} {lines : List (List Char)} {line cs name rest : List Char}

theorem readName_some (read : readName cs = some (name, rest)) : name ≠ [] ∧ '=' ∉ name := by
  simp only [readName] at read
  split at read
  case isFalse => cases read
  case isTrue starts =>
      cases read
      refine ⟨?_, fun mem => absurd (List.mem_takeWhile_imp mem) (by decide)⟩
      cases cs with
      | nil => cases starts
      | cons c cs =>
          have isStart : c.isAlpha = true ∨ c = '_' := by simpa using starts
          have isChar : (c.isAlphanum || c == '_' || c == '.') = true := by
            rcases isStart with isAlpha | rfl
            · simp [Char.isAlphanum, isAlpha]
            · rfl
          rw [List.takeWhile_cons, if_pos isChar]
          exact List.cons_ne_nil _ _

/-- The variable of an assignment has a name without an equals sign. -/
theorem readStatement_assignment (read : readStatement line = some (.assignment name cs)) :
    String.ofList name ≠ "" ∧ '=' ∉ (String.ofList name).toList := by
  rw [String.toList_ofList, ne_eq, String.ofList_eq_empty_iff]
  simp only [readStatement] at read
  split at read
  case isTrue => cases read
  case isFalse =>
      obtain ⟨⟨first, rest⟩, readFirst, read⟩ := Option.bind_eq_some_iff.mp read
      dsimp only at read
      split at read
      case h_1 =>
          cases read
          exact readName_some readFirst
      case h_2 =>
          split at read
          case isTrue => cases read
          case isFalse =>
              obtain ⟨⟨second, rest'⟩, readSecond, read⟩ := Option.bind_eq_some_iff.mp read
              obtain ⟨value, -, read⟩ := Option.bind_eq_some_iff.mp read
              cases read
              exact readName_some readSecond

/-- The variables of assignments have names. -/
theorem Assigns.names (assigns : Assigns known assigned lines made) :
    ∀ v ∈ made, v.1 ≠ "" ∧ '=' ∉ v.1.toList := by
  induction assigns with
  | done _ => exact List.forall_mem_nil _
  | nothing _ _ _ ih => exact ih
  | assignment _ read _ _ ih => exact List.forall_mem_cons.mpr ⟨readStatement_assignment read, ih⟩

theorem Assigns.isEnvironment (assigns : Assigns known assigned lines made) (isEnvironment : known.IsEnvironment) :
    (made.foldl assign known).IsEnvironment := by
  have names := assigns.names
  clear assigns
  induction made generalizing known with
  | nil => exact isEnvironment
  | cons v made ih =>
      obtain ⟨⟨nonempty, noEquals⟩, names⟩ := List.forall_mem_cons.mp names
      exact ih (isEnvironment_assign v isEnvironment nonempty noEquals) names

/-- Lines make the same assignments in environments that agree on certain variables, if their values mention no
    others. -/
theorem Assigns.congr {counts : String → Prop} (assigns : Assigns known assigned lines made)
    (mentioned : ∀ cs name, HasValue lines cs → Mentions cs name → counts (String.ofList name))
    (isEnvironment : known.IsEnvironment) (isEnvironment' : known'.IsEnvironment)
    (agree : ∀ name, counts name → known.lookup name = known'.lookup name) :
    Assigns known' assigned lines made := by
  induction assigns generalizing known' with
  | done none => exact .done none
  | nothing joined read _ ih =>
      have further := fun cs name isValue => mentioned cs name (.later joined isValue)
      exact .nothing joined read (ih further isEnvironment isEnvironment' agree)
  | @assignment known assigned made lines rest line name cs value joined read isValue _ ih =>
      have further := fun cs name isValue => mentioned cs name (.later joined isValue)
      obtain ⟨nonempty, noEquals⟩ := readStatement_assignment read
      let v := (String.ofList name, String.ofList value)
      rw [readValue_congr isEnvironment isEnvironment' fun name mentions =>
        agree _ (mentioned cs name (.first joined read) mentions)] at isValue
      have next : ∀ name, counts name → (assign known v).lookup name = (assign known' v).lookup name := by
        intro name isCounted
        rw [lookup_assign, lookup_assign, agree name isCounted]
      exact .assignment joined read isValue (ih further
        (isEnvironment_assign v isEnvironment nonempty noEquals)
        (isEnvironment_assign v isEnvironment' nonempty noEquals) next)

end

/-- A file makes the same assignments in environments that agree on the variables that it mentions. -/
theorem Makes.congr {known known' made : Variables} {text : String} (makes : Makes known text made)
    (isEnvironment : known.IsEnvironment) (isEnvironment' : known'.IsEnvironment)
    (agree : ∀ name, FileMentions text name → known.lookup name = known'.lookup name) :
    Makes known' text made := by
  have mentioned : ∀ cs name, HasValue (fileLines text) cs → Mentions cs name →
      FileMentions text (String.ofList name) := by
    intro cs name isValue mentions
    exact ⟨cs, isValue, by rwa [String.toList_ofList]⟩
  exact Assigns.congr makes mentioned isEnvironment isEnvironment' agree

/-- A file of a single line with an assignment. -/
theorem makes_single {known : Variables} {text line name cs value : String}
    (read : readStatement line.toList = some (.assignment name.toList cs.toList))
    (lines : fileLines text = [text.toList]) (joined : joinLines .closed [] [text.toList] = .line line.toList [])
    (isValue : readValue known [] cs.toList = some value.toList) : Makes known text [(name, value)] := by
  have made := Assigns.assignment joined read isValue (.done rfl)
  rwa [String.ofList_toList, String.ofList_toList, ← lines] at made

end RouteScribe.EnvironmentFile
