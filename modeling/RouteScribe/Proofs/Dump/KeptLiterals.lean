/-
Module: RouteScribe.Proofs.Dump.KeptLiterals
Layer: Proofs
Purpose: Which attributes of a declaration are read again from JSON. A literal that was read off a node is no
  deeper than the node allows and its integers fit a word with a sign, so it is kept as long as there is no
  floating-point number in it. The readers of records pass on how deep their nodes stand.
Imports: RouteScribe.Proofs.Dump.Records
Trusted boundary: human-reviewed spec
Main exports: Declaration.hasFloat, Literal.Kept, Declaration.Kept, kept_of_declarationsOfJson
Open obligations: none
-/
import RouteScribe.Proofs.Dump.Records

namespace RouteScribe

/-!
### Floating-point numbers
-/

mutual

/-- Whether a literal is a floating-point number or holds one. -/
def Literal.hasFloat : Literal → Bool
  | .float _ => true
  | .list items => anyFloat items
  | _ => false

/-- Whether some literal of a list is a floating-point number or holds one. -/
def anyFloat : List Literal → Bool
  | [] => false
  | item :: items => item.hasFloat || anyFloat items

end

/-- Whether a floating-point number is among the values of an attribute. -/
def Attribute.hasFloat (a : Attribute) : Bool :=
  a.args.any Literal.hasFloat || a.named.any fun named => named.value.hasFloat

/-- Whether a floating-point number is among the attribute values of a field. -/
def Field.hasFloat (f : Field) : Bool := f.attributes.any Attribute.hasFloat

/-- Whether a floating-point number is among the attribute values of a parameter. -/
def Parameter.hasFloat (p : Parameter) : Bool := p.attributes.any Attribute.hasFloat

/-- Whether a floating-point number is among the attribute values of a method and its parameters. -/
def Method.hasFloat (m : Method) : Bool :=
  m.params.any Parameter.hasFloat || m.attributes.any Attribute.hasFloat

/-- Whether a floating-point number is among the attribute values of a declaration and its members. -/
def Declaration.hasFloat (d : Declaration) : Bool :=
  d.attributes.any Attribute.hasFloat || d.fields.any Field.hasFloat || d.methods.any Method.hasFloat

/-!
### What is kept
-/

mutual

/-- Whether a literal that is written inside `level` lists and objects is read again. -/
def Literal.Kept (level : Nat) : Literal → Prop
  | .float _ => False
  | .int i => Word.isSigned i
  | .list items => Json.isTooDeep (level + 1) = false ∧ AllKept (level + 1) items
  | _ => True

/-- Whether the literals of a list that stand inside `level` lists and objects are read again. -/
def AllKept (level : Nat) : List Literal → Prop
  | [] => True
  | item :: items => item.Kept level ∧ AllKept level items

end

/-- Whether the values of an attribute inside `level` lists and objects are read again. The arguments stand in a
    list of the attribute's object, those with a name in an object of their own. -/
structure Attribute.Kept (level : Nat) (a : Attribute) : Prop where
  args : ∀ arg ∈ a.args, arg.Kept (level + 2)
  named : ∀ arg ∈ a.named, arg.value.Kept (level + 3)

/-- Whether the attributes of a field inside `level` lists and objects are read again. -/
def Field.Kept (level : Nat) (f : Field) : Prop := ∀ a ∈ f.attributes, a.Kept (level + 2)

/-- Whether the attributes of a parameter inside `level` lists and objects are read again. -/
def Parameter.Kept (level : Nat) (p : Parameter) : Prop := ∀ a ∈ p.attributes, a.Kept (level + 2)

/-- Whether the attributes of a method inside `level` lists and objects are read again. -/
structure Method.Kept (level : Nat) (m : Method) : Prop where
  params : ∀ p ∈ m.params, p.Kept (level + 2)
  attributes : ∀ a ∈ m.attributes, a.Kept (level + 2)

/-- Whether the attributes of a declaration inside `level` lists and objects are read again. -/
structure Declaration.Kept (level : Nat) (d : Declaration) : Prop where
  attributes : ∀ a ∈ d.attributes, a.Kept (level + 2)
  fields : ∀ f ∈ d.fields, f.Kept (level + 2)
  methods : ∀ m ∈ d.methods, m.Kept (level + 2)

mutual

/-- Whether a literal is kept can be computed. -/
def Literal.decideKept (level : Nat) : (l : Literal) → Decidable (l.Kept level)
  | .bool _ => .isTrue trivial
  | .int i => inferInstanceAs (Decidable (Word.isSigned i = true))
  | .float _ => .isFalse id
  | .text _ => .isTrue trivial
  | .list items => @instDecidableAnd _ _ inferInstance (decideAllKept (level + 1) items)

/-- Whether the literals of a list are kept can be computed. -/
def decideAllKept (level : Nat) : (items : List Literal) → Decidable (AllKept level items)
  | [] => .isTrue trivial
  | item :: items => @instDecidableAnd _ _ (item.decideKept level) (decideAllKept level items)

end

instance (level : Nat) : DecidablePred (Literal.Kept level) := Literal.decideKept level

instance (level : Nat) : DecidablePred (Attribute.Kept level) := fun a =>
  decidable_of_iff
    ((∀ arg ∈ a.args, arg.Kept (level + 2)) ∧ ∀ arg ∈ a.named, arg.value.Kept (level + 3))
    ⟨fun ⟨args, named⟩ => ⟨args, named⟩, fun ⟨args, named⟩ => ⟨args, named⟩⟩

instance (level : Nat) : DecidablePred (Field.Kept level) := fun f =>
  inferInstanceAs (Decidable (∀ a ∈ f.attributes, a.Kept (level + 2)))

instance (level : Nat) : DecidablePred (Parameter.Kept level) := fun p =>
  inferInstanceAs (Decidable (∀ a ∈ p.attributes, a.Kept (level + 2)))

instance (level : Nat) : DecidablePred (Method.Kept level) := fun m =>
  decidable_of_iff
    ((∀ p ∈ m.params, p.Kept (level + 2)) ∧ ∀ a ∈ m.attributes, a.Kept (level + 2))
    ⟨fun ⟨params, attributes⟩ => ⟨params, attributes⟩, fun ⟨params, attributes⟩ => ⟨params, attributes⟩⟩

instance (level : Nat) : DecidablePred (Declaration.Kept level) := fun d =>
  decidable_of_iff
    ((∀ a ∈ d.attributes, a.Kept (level + 2)) ∧ (∀ f ∈ d.fields, f.Kept (level + 2)) ∧
      ∀ m ∈ d.methods, m.Kept (level + 2))
    ⟨fun ⟨attributes, fields, methods⟩ => ⟨attributes, fields, methods⟩,
      fun ⟨attributes, fields, methods⟩ => ⟨attributes, fields, methods⟩⟩

/-!
### Literals that were read
-/

namespace Json.Node

mutual

theorem kept_of_literal? {level : Nat} {node : Node} {l : Literal} (isAt : node.At level)
    (readable : node.unreadable? = none) (isLiteral : literal? node = some l)
    (noFloat : l.hasFloat = false) : l.Kept level := by
  cases node with
  | bool b =>
      cases isLiteral
      trivial
  | number lexeme =>
      obtain ⟨number, -, rfl⟩ := Option.map_eq_some_iff.mp isLiteral
      cases number with
      | int i =>
          simp only [literalOfNumber, Literal.ofInt] at noFloat ⊢
          split
          · assumption
          · rename_i unfit
            -- such an integer is read as a floating-point number
            rw [if_neg unfit] at noFloat
            cases noFloat
      | float f => cases noFloat
  | text lexeme =>
      obtain ⟨s, -, rfl⟩ := Option.map_eq_some_iff.mp isLiteral
      trivial
  | list itemLevel items =>
      obtain ⟨ls, areLiterals, rfl⟩ := Option.map_eq_some_iff.mp isLiteral
      rw [Node.At] at isAt
      obtain ⟨rfl, itemsAt⟩ := isAt
      rw [Node.unreadable?] at readable
      split at readable
      · cases readable
      · rename_i shallow
        exact ⟨eq_false_of_ne_true shallow, allKept_of_literals? itemsAt readable areLiterals noFloat⟩
  | _ => cases isLiteral

theorem allKept_of_literals? {level : Nat} {items : Items} {ls : List Literal} (isAt : items.At level)
    (readable : items.unreadable? = none) (areLiterals : literals? items = some ls)
    (noFloat : anyFloat ls = false) : AllKept level ls := by
  cases items with
  | close =>
      cases areLiterals
      trivial
  | broken why => cases areLiterals
  | item value rest =>
      rw [Items.At] at isAt
      rw [Items.unreadable?] at readable
      rw [literals?] at areLiterals
      split at readable
      · cases readable
      · rename_i valueReadable
        split at areLiterals
        · cases areLiterals
        · rename_i first isFirst
          obtain ⟨others, areOthers, rfl⟩ := Option.map_eq_some_iff.mp areLiterals
          simp only [anyFloat, Bool.or_eq_false_iff] at noFloat
          exact ⟨kept_of_literal? isAt.1 valueReadable isFirst noFloat.1,
            allKept_of_literals? isAt.2 readable areOthers noFloat.2⟩

end

theorem kept_of_readLiteral {level : Nat} {node : Node} {l : Literal} (isAt : node.At level)
    (returns : node.readLiteral = .ok l) (noFloat : l.hasFloat = false) : l.Kept level := by
  rw [readLiteral] at returns
  split at returns
  · cases returns
  · rename_i readable
    split at returns
    · rename_i isLiteral
      cases returns
      exact kept_of_literal? isAt readable isLiteral noFloat
    · cases returns

end Json.Node

/-!
### Records that were read
-/

namespace Dump

open Json (Node)

variable {level : Nat} {node : Node}

theorem builds_of_record {α : Type} {name : String} {r : RecordReader Node (Except JsonFault) α} {a : α}
    (isAt : node.At level) (returns : DumpSource.record name r node = Except.ok a) :
    r.Builds (Node.At (level + 1)) a :=
  Node.builds_of_readRecord isAt.holds returns

/-- What holds of every item that is read one level deeper holds of every member of a list. -/
theorem forall_of_listField {α : Type} {read : Node → Except JsonFault α} {P : α → Prop} {key : String}
    {as : List α} (each : ∀ {item a}, Node.At (level + 1) item → read item = .ok a → P a)
    (builds : (RecordReader.optional key [] (DumpSource.list read)).Builds (Node.At level) as) :
    ∀ a ∈ as, P a := by
  rcases builds.optional with rfl | ⟨node, isAt, returns⟩
  · simp
  · intro a mem
    obtain ⟨item, itemAt, readItem⟩ := Node.mem_of_readList isAt.holds returns a mem
    exact each itemAt readItem

theorem kept_of_readNamedLiteral {a : NamedLiteral} (isAt : node.At level)
    (returns : readNamedLiteral node = Except.ok a) (noFloat : a.value.hasFloat = false) :
    a.value.Kept (level + 1) := by
  have builds₀ := builds_of_record isAt returns
  obtain ⟨_, value, builds₁, isValue, rfl⟩ := builds₀.and
  obtain ⟨_, name, builds₂, -, rfl⟩ := builds₁.and
  obtain ⟨node, valueAt, read⟩ := isValue.required
  rw [builds₂.pure] at noFloat ⊢
  exact Node.kept_of_readLiteral valueAt read noFloat

theorem kept_of_readAttribute {a : Attribute} (isAt : node.At level)
    (returns : readAttribute node = Except.ok a) (noFloat : a.hasFloat = false) : a.Kept level := by
  have builds₀ := builds_of_record isAt returns
  obtain ⟨_, named, builds₁, areNamed, rfl⟩ := builds₀.and
  obtain ⟨_, args, builds₂, areArgs, rfl⟩ := builds₁.and
  obtain ⟨_, name, builds₃, -, rfl⟩ := builds₂.and
  rw [builds₃.pure] at noFloat ⊢
  simp only [Attribute.hasFloat, Bool.or_eq_false_iff, List.any_eq_false, Bool.not_eq_true] at noFloat
  have argsKept := forall_of_listField Node.kept_of_readLiteral areArgs
  have namedKept := forall_of_listField kept_of_readNamedLiteral areNamed
  exact ⟨fun arg mem => argsKept arg mem (noFloat.1 arg mem),
    fun arg mem => namedKept arg mem (noFloat.2 arg mem)⟩

/-- The attributes in a field of a record. -/
theorem kept_of_attributes {key : String} {as : List Attribute}
    (builds : (RecordReader.optional key []
      (readAttributes : Node → Except JsonFault (List Attribute))).Builds (Node.At level) as)
    (noFloat : as.any Attribute.hasFloat = false) : ∀ a ∈ as, a.Kept (level + 1) := by
  rw [List.any_eq_false] at noFloat
  have kept := forall_of_listField kept_of_readAttribute builds
  exact fun a mem => kept a mem (eq_false_of_ne_true (noFloat a mem))

theorem kept_of_readField {f : Field} (isAt : node.At level) (returns : readField node = Except.ok f)
    (noFloat : f.hasFloat = false) : f.Kept level := by
  have builds₀ := builds_of_record isAt returns
  obtain ⟨_, attributes, builds₁, areAttributes, rfl⟩ := builds₀.and
  obtain ⟨_, readable, builds₂, -, rfl⟩ := builds₁.and
  obtain ⟨_, isPublic, builds₃, -, rfl⟩ := builds₂.and
  obtain ⟨_, type, builds₄, -, rfl⟩ := builds₃.and
  obtain ⟨_, name, builds₅, -, rfl⟩ := builds₄.and
  rw [builds₅.pure] at noFloat ⊢
  exact kept_of_attributes areAttributes noFloat

theorem kept_of_readParameter {p : Parameter} (isAt : node.At level)
    (returns : readParameter node = Except.ok p) (noFloat : p.hasFloat = false) : p.Kept level := by
  have builds₀ := builds_of_record isAt returns
  obtain ⟨_, attributes, builds₁, areAttributes, rfl⟩ := builds₀.and
  obtain ⟨_, type, builds₂, -, rfl⟩ := builds₁.and
  obtain ⟨_, name, builds₃, -, rfl⟩ := builds₂.and
  rw [builds₃.pure] at noFloat ⊢
  exact kept_of_attributes areAttributes noFloat

theorem kept_of_readMethod {m : Method} (isAt : node.At level) (returns : readMethod node = Except.ok m)
    (noFloat : m.hasFloat = false) : m.Kept level := by
  have builds₀ := builds_of_record isAt returns
  obtain ⟨_, attributes, builds₁, areAttributes, rfl⟩ := builds₀.and
  obtain ⟨_, returns, builds₂, -, rfl⟩ := builds₁.and
  obtain ⟨_, params, builds₃, areParams, rfl⟩ := builds₂.and
  obtain ⟨_, isAsync, builds₄, -, rfl⟩ := builds₃.and
  obtain ⟨_, isStatic, builds₅, -, rfl⟩ := builds₄.and
  obtain ⟨_, isPublic, builds₆, -, rfl⟩ := builds₅.and
  obtain ⟨_, name, builds₇, -, rfl⟩ := builds₆.and
  rw [builds₇.pure] at noFloat ⊢
  simp only [Method.hasFloat, Bool.or_eq_false_iff] at noFloat
  have paramsKept := forall_of_listField kept_of_readParameter areParams
  exact ⟨fun p mem => paramsKept p mem (eq_false_of_ne_true (List.any_eq_false.mp noFloat.1 p mem)),
    kept_of_attributes areAttributes noFloat.2⟩

theorem kept_of_readDeclaration {d : Declaration} (isAt : node.At level)
    (returns : readDeclaration node = Except.ok d) (noFloat : d.hasFloat = false) : d.Kept level := by
  have builds₀ := builds_of_record isAt returns
  obtain ⟨_, methods, builds₁, areMethods, rfl⟩ := builds₀.and
  obtain ⟨_, fields, builds₂, areFields, rfl⟩ := builds₁.and
  obtain ⟨_, attributes, builds₃, areAttributes, rfl⟩ := builds₂.and
  obtain ⟨_, base, builds₄, -, rfl⟩ := builds₃.and
  obtain ⟨_, generics, builds₅, -, rfl⟩ := builds₄.and
  obtain ⟨_, isAbstract, builds₆, -, rfl⟩ := builds₅.and
  obtain ⟨_, kind, builds₇, -, rfl⟩ := builds₆.and
  obtain ⟨_, path, builds₈, -, rfl⟩ := builds₇.and
  rw [builds₈.pure] at noFloat ⊢
  simp only [Declaration.hasFloat, Bool.or_eq_false_iff] at noFloat
  obtain ⟨⟨noneOfAttributes, noneOfFields⟩, noneOfMethods⟩ := noFloat
  have fieldsKept := forall_of_listField kept_of_readField areFields
  have methodsKept := forall_of_listField kept_of_readMethod areMethods
  exact ⟨kept_of_attributes areAttributes noneOfAttributes,
    fun f mem => fieldsKept f mem (eq_false_of_ne_true (List.any_eq_false.mp noneOfFields f mem)),
    fun m mem => methodsKept m mem (eq_false_of_ne_true (List.any_eq_false.mp noneOfMethods m mem))⟩

theorem kept_of_readDump {ds : List Declaration} (isAt : node.At level)
    (returns : readDump node = Except.ok ds) :
    ∀ d ∈ ds, d.hasFloat = false → d.Kept (level + 2) := by
  have builds₀ := builds_of_record isAt returns
  obtain ⟨_, types, builds₁, areTypes, rfl⟩ := builds₀.and
  rw [builds₁.pure]
  exact forall_of_listField kept_of_readDeclaration areTypes

end Dump

/-- The declarations of a dump without floating-point numbers stand in an object and a list. -/
theorem kept_of_declarationsOfJson {text : String} {ds : List Declaration}
    (read : declarationsOfJson text = .ok ds) : ∀ d ∈ ds, d.hasFloat = false → d.Kept 2 := by
  simp only [declarationsOfJson, Dump.ofJson] at read
  split at read
  · cases read
  · rename_i returns
    split at read
    · cases read
    · cases read
      exact Dump.kept_of_readDump (Json.Document.root_at text) returns

end RouteScribe
