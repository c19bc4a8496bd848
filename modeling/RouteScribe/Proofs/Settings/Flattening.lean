/-
Module: RouteScribe.Proofs.Settings.Flattening
Layer: Proofs
Purpose: The settings of a YAML value are its leaves. A leaf has the key that the names on the way to it make up, with
  dots between them, so a name that has dots itself can make up the key of a leaf further down; where several leaves
  have the same key, the last one in the document counts. Leaves are found by their places, which say which member to
  take at each mapping, and places are compared by their first different numbers.
Imports: RouteScribe.Settings
Trusted boundary: human-reviewed spec
Main exports: Settings.IsLeaf, Settings.IsTree, Settings.LeafAt, Settings.LeafOfKey, Settings.LastAt,
  Settings.WithoutEmpty, Settings.HoldsLast, Settings.holdsLast_tree, Settings.ofValue_flattens
Open obligations: none
-/
import RouteScribe.Settings

namespace RouteScribe.Settings

/-!
### The specification
-/

/-- Whether a value is no mapping. A list or a tagged value is a leaf as a whole, whatever is in it. -/
def IsLeaf (value : Yaml.Value) : Prop := ∀ members, value ≠ .mapping members

/-- Whether a value is a tree of mappings, the keys of which are texts that are not empty. -/
inductive IsTree : Yaml.Value → Prop where
  | leaf {value : Yaml.Value} : IsLeaf value → IsTree value
  | mapping {members : List (Yaml.Value × Yaml.Value)} :
      (∀ m ∈ members, ∃ name, m.1 = .text name ∧ name ≠ "") → (∀ m ∈ members, IsTree m.2) → IsTree (.mapping members)

/-- `LeafAt value place names leaf` says that one comes from `value` to `leaf` by taking a member of a mapping in turn;
    `place` has the numbers of the members, and `names` has their keys. -/
inductive LeafAt : Yaml.Value → List Nat → List String → Yaml.Value → Prop where
  | here {leaf : Yaml.Value} : IsLeaf leaf → LeafAt leaf [] [] leaf
  | member {members : List (Yaml.Value × Yaml.Value)} {i : Nat} {name : String} {value leaf : Yaml.Value}
      {place : List Nat} {names : List String} :
      members[i]? = some (.text name, value) → LeafAt value place names leaf →
        LeafAt (.mapping members) (i :: place) (name :: names) leaf

/-- Whether there is a leaf at a place whose keys, at least one, make up the given key with dots between them. -/
def LeafOfKey (value : Yaml.Value) (key : String) (place : List Nat) (leaf : Yaml.Value) : Prop :=
  ∃ names, LeafAt value place names leaf ∧ names ≠ [] ∧ ".".intercalate names = key

/-- Whether a leaf is the last of some leaves in the document, each with its place; there is none if those are none. -/
def LastAt (leaves : List Nat → Yaml.Value → Prop) : Option Yaml.Value → Prop
  | none => ∀ place leaf, ¬ leaves place leaf
  | some leaf =>
      ∃ place, leaves place leaf ∧ ∀ place' leaf', leaves place' leaf' → place' = place ∨ List.Lex (· < ·) place' place

/-- `WithoutEmpty value less` says that `less` is what `value` is without a member somewhere in it that is an empty
    mapping. -/
inductive WithoutEmpty : Yaml.Value → Yaml.Value → Prop where
  | left {before behind : List (Yaml.Value × Yaml.Value)} {key : Yaml.Value} :
      WithoutEmpty (.mapping (before ++ (key, .mapping []) :: behind)) (.mapping (before ++ behind))
  | inside {before behind : List (Yaml.Value × Yaml.Value)} {key value less : Yaml.Value} :
      WithoutEmpty value less →
        WithoutEmpty (.mapping (before ++ (key, value) :: behind)) (.mapping (before ++ (key, less) :: behind))

variable {value leaf : Yaml.Value} {members : List (Yaml.Value × Yaml.Value)} {place : List Nat} {name key top : String}

/-!
### Keys
-/

theorem keyUnder_empty (name : String) : keyUnder "" name = name := rfl

theorem keyUnder_of_ne_empty (nonempty : top ≠ "") : keyUnder top name = top ++ "." ++ name := by
  rw [keyUnder, if_neg]
  simpa using nonempty

theorem keyUnder_ne_empty (nonempty : name ≠ "") : keyUnder top name ≠ "" := by
  by_cases isEmpty : top = ""
  · rw [isEmpty, keyUnder_empty]
    exact nonempty
  · rw [keyUnder_of_ne_empty isEmpty]
    intro absent
    have chars := congrArg String.toList absent
    simp at chars

/-- A name in front can be put together with the next one. -/
theorem intercalate_keyUnder (nonempty : top ≠ "") (names : List String) :
    ".".intercalate (top :: name :: names) = ".".intercalate (keyUnder top name :: names) := by
  rw [keyUnder_of_ne_empty nonempty]
  cases names with
  | nil => simp [String.intercalate_cons_of_ne_nil]
  | cons next names => simp [String.intercalate_cons_of_ne_nil, String.append_assoc]

/-!
### Leaves below a key
-/

/-- The leaves of a value that stands under the key `top` itself. -/
def LeafUnder (top : String) (value : Yaml.Value) (key : String) (place : List Nat) (leaf : Yaml.Value) : Prop :=
  ∃ names, LeafAt value place names leaf ∧ ".".intercalate (top :: names) = key

/-- The leaves of the members of a mapping that stands under the key `top`. -/
def LeafAmong (top : String) (members : List (Yaml.Value × Yaml.Value)) (key : String) (place : List Nat)
    (leaf : Yaml.Value) : Prop :=
  ∃ i name value rest, place = i :: rest ∧ members[i]? = some (.text name, value) ∧
    LeafUnder (keyUnder top name) value key rest leaf

theorem leafUnder_leaf_iff (isLeaf : IsLeaf value) :
    LeafUnder top value key place leaf ↔ place = [] ∧ leaf = value ∧ top = key := by
  constructor
  · rintro ⟨names, leafAt, joined⟩
    cases leafAt with
    | here => exact ⟨rfl, rfl, by simpa using joined⟩
    | member => exact absurd rfl (isLeaf _)
  · rintro ⟨rfl, rfl, rfl⟩
    exact ⟨[], .here isLeaf, by simp⟩

theorem leafUnder_mapping_iff (nonempty : top ≠ "") :
    LeafUnder top (.mapping members) key place leaf ↔ LeafAmong top members key place leaf := by
  constructor
  · rintro ⟨names, leafAt, joined⟩
    cases leafAt with
    | here isLeaf => exact absurd rfl (isLeaf members)
    | member found inside =>
        rw [intercalate_keyUnder nonempty] at joined
        exact ⟨_, _, _, _, rfl, found, _, inside, joined⟩
  · rintro ⟨i, name, value, rest, rfl, found, names, inside, joined⟩
    rw [← intercalate_keyUnder nonempty] at joined
    exact ⟨name :: names, .member found inside, joined⟩

theorem leafOfKey_mapping_iff : LeafOfKey (.mapping members) key place leaf ↔ LeafAmong "" members key place leaf := by
  constructor
  · rintro ⟨names, leafAt, -, joined⟩
    cases leafAt with
    | here isLeaf => exact absurd rfl (isLeaf members)
    | member found inside => exact ⟨_, _, _, _, rfl, found, _, inside, joined⟩
  · rintro ⟨i, name, value, rest, rfl, found, names, inside, joined⟩
    exact ⟨name :: names, .member found inside, List.cons_ne_nil name names, joined⟩

theorem not_leafOfKey_of_isLeaf (isLeaf : IsLeaf value) : ¬ LeafOfKey value key place leaf := by
  rintro ⟨names, leafAt, nonempty, -⟩
  cases leafAt with
  | here => exact nonempty rfl
  | member => exact isLeaf _ rfl

/-!
### The last leaf
-/

theorem LastAt.congr {leaves leaves' : List Nat → Yaml.Value → Prop} {last : Option Yaml.Value}
    (same : ∀ place leaf, leaves place leaf ↔ leaves' place leaf) (lastAt : LastAt leaves' last) :
    LastAt leaves last := by
  have : leaves = leaves' := funext fun place => funext fun leaf => propext (same place leaf)
  rwa [this]

/-- The leaves of the other members stand behind those of the first one. -/
theorem lastAt_leafAmong_cons {first others : Option Yaml.Value}
    (lastFirst : LastAt (LeafUnder (keyUnder top name) value key) first)
    (lastOthers : LastAt (LeafAmong top members key) others) :
    LastAt (LeafAmong top ((.text name, value) :: members) key) (others.or first) := by
  cases others with
  | some leaf =>
      obtain ⟨_, ⟨i, name', value', rest, rfl, found, inside⟩, greatest⟩ := lastOthers
      refine ⟨(i + 1) :: rest, ⟨i + 1, name', value', rest, rfl, found, inside⟩, ?_⟩
      rintro _ leaf' ⟨j, name'', value'', rest', rfl, found', inside'⟩
      cases j with
      | zero => exact .inr (.rel (Nat.zero_lt_succ i))
      | succ j =>
          rcases greatest (j :: rest') leaf' ⟨j, name'', value'', rest', rfl, found', inside'⟩ with same | less
          · cases same
            exact .inl rfl
          · right
            rwa [List.cons_lex_cons_iff, Nat.succ_lt_succ_iff, Nat.succ_inj, ← List.cons_lex_cons_iff]
  | none =>
      -- without a leaf among the other members, all leaves are those of the first one
      have inFirst {place : List Nat} {leaf : Yaml.Value}
          (among : LeafAmong top ((.text name, value) :: members) key place leaf) :
          ∃ rest, place = 0 :: rest ∧ LeafUnder (keyUnder top name) value key rest leaf := by
        obtain ⟨i, name', value', rest, rfl, found, inside⟩ := among
        cases i with
        | zero =>
            cases found
            exact ⟨rest, rfl, inside⟩
        | succ i => exact absurd ⟨i, name', value', rest, rfl, found, inside⟩ (lastOthers (i :: rest) leaf)
      cases first with
      | some leaf =>
          obtain ⟨place, inside, greatest⟩ := lastFirst
          refine ⟨0 :: place, ⟨0, name, value, place, rfl, rfl, inside⟩, fun place' leaf' among => ?_⟩
          obtain ⟨rest, rfl, inside'⟩ := inFirst among
          rcases greatest rest leaf' inside' with rfl | less
          · exact .inl rfl
          · exact .inr (.cons less)
      | none =>
          intro place leaf among
          obtain ⟨rest, rfl, inside⟩ := inFirst among
          exact lastFirst rest leaf inside

/-!
### Entries
-/

theorem entriesUnder_leaf (isLeaf : IsLeaf value) :
    entriesUnder top value = if top.isEmpty then [] else [(top, .ofValue value)] := by
  cases value with
  | mapping members => exact absurd rfl (isLeaf members)
  | _ => rw [entriesUnder]; exact isLeaf

theorem entriesOfMembers_append (top : String) (before behind : List (Yaml.Value × Yaml.Value)) :
    entriesOfMembers top (before ++ behind) = entriesOfMembers top before ++ entriesOfMembers top behind := by
  induction before with
  | nil => rw [List.nil_append, entriesOfMembers, List.nil_append]
  | cons m before ih => rw [List.cons_append, entriesOfMembers, ih, entriesOfMembers, List.append_assoc]

/-- `HoldsLast entries leaves` says that the entry of a key that counts is the setting of the last leaf of that key. -/
def HoldsLast (entries : List (String × Setting)) (leaves : String → List Nat → Yaml.Value → Prop) : Prop :=
  ∀ key, ∃ last, LastAt (leaves key) last ∧ entries.reverse.lookup key = last.map .ofValue

theorem holdsLast_leaf (isLeaf : IsLeaf value) (nonempty : top ≠ "") :
    HoldsLast (entriesUnder top value) (LeafUnder top value) := by
  intro key
  have entries : entriesUnder top value = [(top, .ofValue value)] := by
    rw [entriesUnder_leaf isLeaf, if_neg]
    simpa using nonempty
  rw [entries]
  by_cases same : key = top
  · subst same
    refine ⟨some value, ⟨[], (leafUnder_leaf_iff isLeaf).mpr ⟨rfl, rfl, rfl⟩, fun place leaf under => ?_⟩, ?_⟩
    · exact .inl ((leafUnder_leaf_iff isLeaf).mp under).1
    · simp
  · refine ⟨none, fun place leaf under => ?_, ?_⟩
    · exact same ((leafUnder_leaf_iff isLeaf).mp under).2.2.symm
    · rw [List.reverse_singleton, List.lookup_cons, beq_eq_false_iff_ne.mpr same]
      rfl

/-- The entries of members hold their leaves if those of each member do. -/
theorem holdsLast_members (named : ∀ m ∈ members, ∃ name, m.1 = .text name ∧ name ≠ "")
    (each : ∀ m ∈ members, ∀ top, top ≠ "" → HoldsLast (entriesUnder top m.2) (LeafUnder top m.2)) (top : String) :
    HoldsLast (entriesOfMembers top members) (LeafAmong top members) := by
  induction members with
  | nil =>
      intro key
      refine ⟨none, ?_, rfl⟩
      rintro place leaf ⟨i, name, value, rest, -, found, -⟩
      cases found
  | cons m members ih =>
      intro key
      obtain ⟨⟨name, isName, nonempty⟩, namedOthers⟩ := List.forall_mem_cons.mp named
      obtain ⟨ofFirst, ofOthers⟩ := List.forall_mem_cons.mp each
      obtain ⟨keyOfM, value⟩ := m
      cases isName
      obtain ⟨others, lastOthers, foundOthers⟩ := ih namedOthers ofOthers key
      obtain ⟨first, lastFirst, foundFirst⟩ := ofFirst (keyUnder top name) (keyUnder_ne_empty nonempty) key
      refine ⟨others.or first, lastAt_leafAmong_cons lastFirst lastOthers, ?_⟩
      rw [entriesOfMembers, List.reverse_append, List.lookup_append, foundOthers, Option.map_or, ← foundFirst]
      rfl

/-- The entries of a tree that stands under a key hold its leaves. -/
theorem holdsLast_tree (tree : IsTree value) :
    ∀ top, top ≠ "" → HoldsLast (entriesUnder top value) (LeafUnder top value) := by
  induction tree with
  | leaf isLeaf => exact fun top nonempty => holdsLast_leaf isLeaf nonempty
  | mapping named _ ih =>
      intro top nonempty key
      obtain ⟨last, lastAt, found⟩ := holdsLast_members named ih top key
      exact ⟨last, lastAt.congr fun _ _ => leafUnder_mapping_iff nonempty, by rwa [entriesUnder]⟩

/-- A member that is an empty mapping makes no entry. -/
theorem WithoutEmpty.entriesUnder_eq {less : Yaml.Value} (without : WithoutEmpty value less) (top : String) :
    entriesUnder top less = entriesUnder top value := by
  induction without generalizing top with
  | left => simp only [entriesUnder, entriesOfMembers_append, entriesOfMembers, List.nil_append]
  | inside _ ih => simp only [entriesUnder, entriesOfMembers_append, entriesOfMembers, ih]

/-- The settings of a tree of mappings are its leaves. A key has a setting exactly if the keys on the way to some leaf
    make it up, and it is the setting of the last such leaf. Empty mappings make no difference wherever they stand, and
    a value that is no mapping at all makes no settings. A text with such a value makes the settings of the value. -/
theorem ofValue_flattens (tree : IsTree value) :
    (∀ key, ∃ last, LastAt (LeafOfKey value key) last ∧ (ofValue value).lookup key = last.map .ofValue) ∧
    (∀ less, WithoutEmpty value less → ofValue less = ofValue value) ∧
    (IsLeaf value → ofValue value = empty) ∧
    ∀ text, Yaml.Value.ofText text = .ok value → ofYaml text = .ok (ofValue value) := by
  have nothing (isLeaf : IsLeaf value) : ofValue value = empty := by
    rw [ofValue, entriesUnder_leaf isLeaf]
    rfl
  refine ⟨fun key => ?_, fun less without => ?_, nothing, fun text isValue => ?_⟩
  · cases tree with
    | leaf isLeaf =>
        rw [nothing isLeaf]
        exact ⟨none, fun _ _ => not_leafOfKey_of_isLeaf isLeaf, rfl⟩
    | @mapping members named each =>
        obtain ⟨last, lastAt, found⟩ := holdsLast_members named (fun m mem => holdsLast_tree (each m mem)) "" key
        refine ⟨last, lastAt.congr fun _ _ => leafOfKey_mapping_iff, ?_⟩
        rw [ofValue, entriesUnder]
        exact found
  · rw [ofValue, without.entriesUnder_eq, ofValue]
  · rw [ofYaml, isValue]

/-- A name with a dot, a mapping and an empty one inside of it, a list and a tagged mapping: `a.b` is the key of the
    number in the mapping and of the list behind it. -/
def dottedValue : Yaml.Value :=
  .mapping [(.text "a", .mapping [(.text "b", .int 1), (.text "c", .mapping [])]), (.text "a.b", .list [.text "x"]),
    (.text "e", .tagged "t" (.mapping [(.int 2, .null)]))]

/-- Of two leaves with the key `a.b`, the one further down comes first, and the setting is the other one. -/
theorem ofValue_flattens_dotted :
    IsTree dottedValue ∧ LeafOfKey dottedValue "a.b" [0, 0] (.int 1) ∧
      LeafOfKey dottedValue "a.b" [1] (.list [.text "x"]) ∧
      ∃ last, LastAt (LeafOfKey dottedValue "a.b") last ∧ last.map Setting.ofValue = some (.list [.text "x"]) := by
  have inner : IsTree (.mapping [(.text "b", .int 1), (.text "c", .mapping [])]) := by
    refine .mapping ?_ ?_
    · simp
    · simp only [List.forall_mem_cons, List.not_mem_nil, false_implies, implies_true, and_true]
      exact ⟨.leaf nofun, .mapping (by simp) (by simp)⟩
  have tree : IsTree dottedValue := by
    refine .mapping ?_ ?_
    · simp
    · simp only [List.forall_mem_cons, List.not_mem_nil, false_implies, implies_true, and_true]
      exact ⟨inner, .leaf nofun, .leaf nofun⟩
  have nested : LeafOfKey dottedValue "a.b" [0, 0] (.int 1) :=
    ⟨["a", "b"], .member rfl (.member rfl (.here nofun)), List.cons_ne_nil _ _, by decide⟩
  have dotted : LeafOfKey dottedValue "a.b" [1] (.list [.text "x"]) :=
    ⟨["a.b"], .member rfl (.here nofun), List.cons_ne_nil _ _, by decide⟩
  obtain ⟨last, lastAt, found⟩ := (ofValue_flattens tree).1 "a.b"
  exact ⟨tree, nested, dotted, last, lastAt, found.symm.trans rfl⟩

/-- In a text as well, the mapping does not take the place of the list behind it. -/
example : ((ofYaml "a:\n  b: 1\n  c: \x7b\x7d\na.b: [x]\n").toOption.bind fun settings =>
    (settings.get (Setting.readList Setting.readText) "a.b").toOption) = some ["x"] := by
  decide +kernel

end RouteScribe.Settings
