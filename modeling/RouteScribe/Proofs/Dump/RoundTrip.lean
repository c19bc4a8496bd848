/-
Module: RouteScribe.Proofs.Dump.RoundTrip
Layer: Proofs
Purpose: Declarations that are written as JSON are read again. A writer and a reader agree on a value if what is
  written is read as a node that gives the value back; lists agree if their items do, and a record agrees if
  its fields do, whatever the record is. A type travels as its canonical text, a field that need not be
  given is always written.
Imports: Mathlib, RouteScribe.Dump.JsonText, RouteScribe.Proofs.Dump.KeptLiterals,
  RouteScribe.Proofs.Dump.WrittenTypes, RouteScribe.Proofs.Json.Writing
Trusted boundary: human-reviewed spec
Main exports: Json.ReadsBack, RecordReader.Takes, declarationsOfJson_dumpOfText, Program.Loaded.ofKept,
  declarations_round_trip
Open obligations: none
-/
import Mathlib
import RouteScribe.Dump.JsonText
import RouteScribe.Proofs.Dump.KeptLiterals
import RouteScribe.Proofs.Dump.WrittenTypes
import RouteScribe.Proofs.Json.Writing

namespace RouteScribe

open Json (Node Value)

/-- Inside `level` lists and objects, the written value is read as a node that gives `a`. -/
def Json.ReadsBack {α : Type} (level : Nat) (read : Node → Except JsonFault α) (value : Value) (a : α) : Prop :=
  ∃ node, value.ReadAs level node ∧ read node = .ok a

open Json (ReadsBack)

/-!
### Records
-/

namespace RecordReader

variable {α β : Type} {level : Nat}

/-- The fields, as they are written in an object, are taken in one after the other, none of them twice. -/
inductive TakesIn (r : RecordReader Node (Except JsonFault) α) (level : Nat) :
    r.State → List (String × Value) → r.State → Prop where
  | nil {s : r.State} : TakesIn r level s [] s
  | cons {s s' s'' : r.State} {key : String} {value : Value} {node : Node} {fields : List (String × Value)} :
      key ∈ r.keys → r.isSet s key = false → value.ReadAs level node → r.set s key node = .ok s' →
        TakesIn r level s' fields s'' → TakesIn r level s ((key, value) :: fields) s''

namespace TakesIn

variable {r : RecordReader Node (Except JsonFault) α} {s s' s'' : r.State}
  {fields others : List (String × Value)}

theorem append (takes : r.TakesIn level s fields s') (takesOthers : r.TakesIn level s' others s'') :
    r.TakesIn level s (fields ++ others) s'' := by
  induction takes with
  | nil => exact takesOthers
  | cons isKey unset isRead set _ ih => exact .cons isKey unset isRead set (ih takesOthers)

/-- The fields of an object are its members. -/
theorem readMembers (takes : r.TakesIn level s fields s') :
    ∃ members, Json.Members.ReadFrom level fields members ∧ Node.readMembers r s members = .ok s' := by
  induction takes with
  | nil => exact ⟨.close, .nil, rfl⟩
  | @cons s s' s'' key value node fields isKey unset isRead set _ ih =>
      obtain ⟨members, readFrom, read⟩ := ih
      refine ⟨.member ⟨.ok key, none⟩ node members, .cons isRead readFrom, ?_⟩
      rw [Node.readMembers]
      simp only [List.contains_iff_mem, isKey, if_true, unset, set, read, Bool.false_eq_true, if_false]

/-- One more field that is not set yet does not keep a reader from taking in its own ones. -/
theorem and_field {γ : Type} {r : RecordReader Node (Except JsonFault) (γ → β)} {s s' : r.State}
    {key : String} {read : Node → Except JsonFault γ} {missing : Option γ}
    (takes : r.TakesIn level s fields s') :
    (r.and (.field key read missing)).TakesIn level (s, none) fields (s', none) := by
  induction takes with
  | nil => exact .nil
  | @cons s s' s'' k value node fields isKey unset isRead set _ ih =>
      -- the key belongs to the first reader, so the state of the second one stays as it is
      refine .cons (List.mem_append_left _ isKey) ?_ isRead ?_ ih
      · simp [RecordReader.and, RecordReader.field, unset]
      · simp [RecordReader.and, isKey, set, Functor.map, Except.map]

end TakesIn

/-- A reader of records gives `a` after it has taken in the fields, and knows no other fields. -/
structure Takes (r : RecordReader Node (Except JsonFault) α) (level : Nat) (fields : List (String × Value))
    (a : α) : Prop where
  run : ∃ s, r.TakesIn level r.start fields s ∧ r.finish s = .ok a
  unset {s : r.State} {key : String} : key ∉ r.keys → r.isSet s key = false

namespace Takes

theorem pure (level : Nat) (a : α) : (RecordReader.pure a).Takes level [] a where
  run := ⟨(), .nil, rfl⟩
  unset _ := rfl

/-- A field behind those that a reader takes in. -/
theorem field {γ : Type} {r : RecordReader Node (Except JsonFault) (γ → β)} {fields : List (String × Value)}
    {build : γ → β} {key : String} {read : Node → Except JsonFault γ} {missing : Option γ} {value : Value}
    {c : γ} (takes : r.Takes level fields build) (isNew : key ∉ r.keys)
    (readsBack : ReadsBack level read value c) :
    (r.and (.field key read missing)).Takes level (fields ++ [(key, value)]) (build c) := by
  obtain ⟨s, takesIn, finished⟩ := takes.run
  obtain ⟨node, isRead, returns⟩ := readsBack
  refine ⟨⟨(s, some c), takesIn.and_field.append (.cons ?_ ?_ isRead ?_ .nil), ?_⟩, ?_⟩
  · simp [RecordReader.and, RecordReader.field]
  · simp [RecordReader.and, RecordReader.field, takes.unset isNew]
  · simp [RecordReader.and, RecordReader.field, isNew, returns, Functor.map, Except.map]
  · simp [RecordReader.and, RecordReader.field, finished, Except.map]
  · intro s k notKey
    simp only [RecordReader.and, RecordReader.field, List.mem_append, List.mem_singleton, not_or] at notKey ⊢
    simp [takes.unset notKey.1, notKey.2]

section

variable {γ : Type} {r : RecordReader Node (Except JsonFault) (γ → β)} {fields : List (String × Value)}
  {build : γ → β} {read : Node → Except JsonFault γ} {value : Value} {c : γ}

theorem required (takes : r.Takes level fields build) (key : String) (isNew : key ∉ r.keys)
    (readsBack : ReadsBack level read value c) :
    (r.and (.required key read)).Takes level (fields ++ [(key, value)]) (build c) :=
  takes.field isNew readsBack

theorem optional (takes : r.Takes level fields build) (key : String) (missing : γ) (isNew : key ∉ r.keys)
    (readsBack : ReadsBack level read value c) :
    (r.and (.optional key missing read)).Takes level (fields ++ [(key, value)]) (build c) :=
  takes.field isNew readsBack

end

end Takes

end RecordReader

/-!
### Lists and single values
-/

theorem Json.isTooDeep_of_lt {level : Nat} (shallow : level < Json.levelLimit) : Json.isTooDeep level = false :=
  decide_eq_false (Nat.not_le_of_lt shallow)

namespace Json.ReadsBack

variable {α : Type} {level : Nat}

theorem text (s : String) : ReadsBack level DumpSource.text (.text s) s := ⟨_, .text s, rfl⟩

theorem bool (b : Bool) : ReadsBack level DumpSource.bool (.bool b) b := ⟨_, .bool b, rfl⟩

theorem kind (k : Kind) : ReadsBack level DumpSource.kind (.text k.name) k :=
  ⟨_, .text k.name, by cases k <;> rfl⟩

/-- Items that are read back, one after the other. -/
theorem exists_items {read : Node → Except JsonFault α} {write : α → Value} {as : List α}
    (each : ∀ a ∈ as, ReadsBack level read (write a) a) :
    ∃ items, Items.ReadFrom level (as.map write) items ∧ Node.readItems read items = .ok as := by
  induction as with
  | nil => exact ⟨.close, .nil, rfl⟩
  | cons a as ih =>
      obtain ⟨first, others⟩ := List.forall_mem_cons.mp each
      obtain ⟨node, isRead, returns⟩ := first
      obtain ⟨items, readFrom, returnsOthers⟩ := ih others
      refine ⟨.item node items, .cons isRead readFrom, ?_⟩
      rw [Node.readItems, returns, returnsOthers]
      rfl

/-- Items that are read back make up a list that is read back. -/
theorem list {read : Node → Except JsonFault α} {write : α → Value} {as : List α}
    (shallow : level + 1 < levelLimit) (each : ∀ a ∈ as, ReadsBack (level + 1) read (write a) a) :
    ReadsBack level (DumpSource.list read) (.list (as.map write)) as := by
  obtain ⟨items, readFrom, returns⟩ := exists_items each
  refine ⟨_, .list readFrom, ?_⟩
  change Node.readList read (.list (level + 1) items) = .ok as
  rw [Node.readList, isTooDeep_of_lt shallow]
  exact returns

/-- Fields that a reader takes in make up a record that is read back. -/
theorem record {name : String} {r : RecordReader Node (Except JsonFault) α} {fields : List (String × Value)}
    {a : α} (shallow : level + 1 < levelLimit) (takes : r.Takes (level + 1) fields a) :
    ReadsBack level (DumpSource.record name r) (.object fields) a := by
  obtain ⟨s, takesIn, finished⟩ := takes.run
  obtain ⟨members, readFrom, returns⟩ := takesIn.readMembers
  refine ⟨_, .object readFrom, ?_⟩
  change Node.readRecord name r (.object (level + 1) members) = .ok a
  simp only [Node.readRecord, isTooDeep_of_lt shallow, Bool.false_eq_true, if_false, returns, finished]

end Json.ReadsBack

/-!
### Literals
-/

namespace Dump

mutual

theorem readAs_literal {level : Nat} {l : Literal} (kept : l.Kept level) :
    ∃ node, (valueOfLiteral l).ReadAs level node ∧ node.unreadable? = none ∧ Node.literal? node = some l := by
  cases l with
  | bool b => exact ⟨_, .bool b, rfl, rfl⟩
  | int i =>
      refine ⟨_, .int kept, rfl, ?_⟩
      have fits : Word.isSigned i = true := kept
      simp [Node.literal?, Except.toOption, Node.literalOfNumber, Literal.ofInt, fits]
  | float f => exact kept.elim
  | text s => exact ⟨_, .text s, rfl, rfl⟩
  | list ls =>
      obtain ⟨shallow, allKept⟩ := kept
      obtain ⟨items, readFrom, readable, areLiterals⟩ := readFrom_literals allKept
      refine ⟨_, .list readFrom, ?_, ?_⟩
      · rw [Node.unreadable?, shallow]
        exact readable
      · rw [Node.literal?, areLiterals]
        rfl

theorem readFrom_literals {level : Nat} {ls : List Literal} (kept : AllKept level ls) :
    ∃ items, Json.Items.ReadFrom level (valuesOfLiterals ls) items ∧ items.unreadable? = none ∧
      Node.literals? items = some ls := by
  cases ls with
  | nil => exact ⟨.close, .nil, rfl, rfl⟩
  | cons l ls =>
      obtain ⟨node, isRead, readable, isLiteral⟩ := readAs_literal kept.1
      obtain ⟨items, readFrom, readableItems, areLiterals⟩ := readFrom_literals kept.2
      refine ⟨.item node items, .cons isRead readFrom, ?_, ?_⟩
      · rw [Json.Items.unreadable?, readable]
        exact readableItems
      · rw [Node.literals?, isLiteral, areLiterals]
        rfl

end

theorem readsBack_literal {level : Nat} {l : Literal} (kept : l.Kept level) :
    ReadsBack level DumpSource.literal (valueOfLiteral l) l := by
  obtain ⟨node, isRead, readable, isLiteral⟩ := readAs_literal kept
  refine ⟨node, isRead, ?_⟩
  change node.readLiteral = .ok l
  rw [Node.readLiteral, readable, isLiteral]

/-!
### Types
-/

/-- The canonical text of a type is read as the type. -/
theorem readType_text {t : TypeExpr} (writable : t.Writable) :
    readType (Node.text ⟨.ok t.text, none⟩) = Except.ok t := by
  have asked : DumpSource.text (Node.text ⟨.ok t.text, none⟩) = (.ok t.text : Except JsonFault String) := rfl
  simp only [readType, asked, bind, Except.bind, writable.parse_text]
  rfl

theorem readsBack_type {level : Nat} {t : TypeExpr} (writable : t.Writable) :
    ReadsBack level readType (valueOfType t) t :=
  ⟨_, .text t.text, readType_text writable⟩

theorem readsBack_optionalType {level : Nat} {t? : Option TypeExpr} (writable : ∀ t ∈ t?, t.Writable) :
    ReadsBack level readOptionalType (valueOfOptionalType t?) t? := by
  cases t? with
  | none => exact ⟨_, .null, rfl⟩
  | some t =>
      refine ⟨_, .text t.text, ?_⟩
      change (readType (Node.text ⟨.ok t.text, none⟩) : Except JsonFault TypeExpr).map some = .ok (some t)
      rw [readType_text (writable t rfl)]
      rfl

/-!
### Declarations
-/

section

variable {level : Nat}

theorem readsBack_namedLiteral {a : NamedLiteral} (shallow : level + 1 < Json.levelLimit)
    (kept : a.value.Kept (level + 1)) : ReadsBack level readNamedLiteral (valueOfNamed a) a := by
  apply ReadsBack.record shallow
  have takes := RecordReader.Takes.pure (level + 1) NamedLiteral.mk
  have takes := takes.required "name" (by decide) (ReadsBack.text a.name)
  exact takes.required "value" (by decide) (readsBack_literal kept)

theorem readsBack_attribute {a : Attribute} (shallow : level + 3 < Json.levelLimit) (kept : a.Kept level) :
    ReadsBack level readAttribute (valueOfAttribute a) a := by
  have args := ReadsBack.list (by omega) fun arg mem => readsBack_literal (kept.args arg mem)
  have named := ReadsBack.list (by omega) fun arg mem => readsBack_namedLiteral shallow (kept.named arg mem)
  apply ReadsBack.record (by omega)
  have takes := RecordReader.Takes.pure (level + 1) Attribute.mk
  have takes := takes.required "name" (by decide) (ReadsBack.text a.name)
  have takes := takes.optional "args" [] (by decide) args
  exact takes.optional "named" [] (by decide) named

theorem readsBack_attributes {as : List Attribute} (shallow : level + 4 < Json.levelLimit)
    (kept : ∀ a ∈ as, a.Kept (level + 1)) :
    ReadsBack level readAttributes (valueOfAttributes as) as :=
  ReadsBack.list (by omega) fun a mem => readsBack_attribute shallow (kept a mem)

theorem readsBack_field {f : Field} (shallow : level + 5 < Json.levelLimit) (writable : f.type.Writable)
    (kept : f.Kept level) : ReadsBack level readField (valueOfField f) f := by
  apply ReadsBack.record (by omega)
  have takes := RecordReader.Takes.pure (level + 1) Field.mk
  have takes := takes.required "name" (by decide) (ReadsBack.text f.name)
  have takes := takes.required "type" (by decide) (readsBack_type writable)
  have takes := takes.optional "public" true (by decide) (ReadsBack.bool f.isPublic)
  have takes := takes.optional "readable" true (by decide) (ReadsBack.bool f.isReadable)
  exact takes.optional "attributes" [] (by decide) (readsBack_attributes shallow kept)

theorem readsBack_parameter {p : Parameter} (shallow : level + 5 < Json.levelLimit)
    (writable : p.type.Writable) (kept : p.Kept level) :
    ReadsBack level readParameter (valueOfParameter p) p := by
  apply ReadsBack.record (by omega)
  have takes := RecordReader.Takes.pure (level + 1) Parameter.mk
  have takes := takes.required "name" (by decide) (ReadsBack.text p.name)
  have takes := takes.required "type" (by decide) (readsBack_type writable)
  exact takes.optional "attributes" [] (by decide) (readsBack_attributes shallow kept)

theorem readsBack_method {m : Method} (shallow : level + 7 < Json.levelLimit) (written : m.Written)
    (kept : m.Kept level) : ReadsBack level readMethod (valueOfMethod m) m := by
  have params := ReadsBack.list (by omega) fun p mem =>
    readsBack_parameter shallow (written.params p mem) (kept.params p mem)
  apply ReadsBack.record (by omega)
  have takes := RecordReader.Takes.pure (level + 1) Method.mk
  have takes := takes.required "name" (by decide) (ReadsBack.text m.name)
  have takes := takes.optional "public" true (by decide) (ReadsBack.bool m.isPublic)
  have takes := takes.optional "static" false (by decide) (ReadsBack.bool m.isStatic)
  have takes := takes.optional "async" false (by decide) (ReadsBack.bool m.isAsync)
  have takes := takes.optional "params" [] (by decide) params
  have takes := takes.optional "returns" none (by decide) (readsBack_optionalType written.returns)
  exact takes.optional "attributes" [] (by decide) (readsBack_attributes (by omega) kept.attributes)

theorem readsBack_declaration {d : Declaration} (shallow : level + 9 < Json.levelLimit) (written : d.Written)
    (kept : d.Kept level) : ReadsBack level readDeclaration (valueOfDeclaration d) d := by
  have generics := @ReadsBack.list _ (level + 1) _ Value.text d.generics (by omega) fun name _ => ReadsBack.text name
  have fields := ReadsBack.list (by omega) fun f mem =>
    readsBack_field (by omega) (written.fields f mem) (kept.fields f mem)
  have methods := ReadsBack.list (by omega) fun m mem =>
    readsBack_method shallow (written.methods m mem) (kept.methods m mem)
  apply ReadsBack.record (by omega)
  have takes := RecordReader.Takes.pure (level + 1) Declaration.mk
  have takes := takes.required "path" (by decide) (ReadsBack.text d.path)
  have takes := takes.optional "kind" .record (by decide) (ReadsBack.kind d.kind)
  have takes := takes.optional "abstract" false (by decide) (ReadsBack.bool d.isAbstract)
  have takes := takes.optional "generics" [] (by decide) generics
  have takes := takes.optional "base" none (by decide) (readsBack_optionalType written.base)
  have takes := takes.optional "attributes" [] (by decide) (readsBack_attributes (by omega) kept.attributes)
  have takes := takes.optional "fields" [] (by decide) fields
  exact takes.optional "methods" [] (by decide) methods

end

/-- An object whose only member is the list of the declarations is read as a dump of them. -/
theorem readDump_types {items : Json.Items} {ds : List Declaration}
    (returns : Node.readItems readDeclaration items = Except.ok ds) :
    readDump (Node.object 1 (.member ⟨.ok "types", none⟩ (.list 2 items) .close)) = Except.ok ds := by
  have returnsTypes : DumpSource.list readDeclaration (Node.list 2 items) = Except.ok ds := returns
  simp [readDump, DumpSource.record, Node.readRecord, Json.isTooDeep, Json.levelLimit, Node.readMembers,
    RecordReader.and, RecordReader.pure, RecordReader.optional, RecordReader.field, returnsTypes]

end Dump

/-- A dump is read as an object whose only member is the list that was put in, with any space in front of it. -/
theorem readsValue_dumpOfText {values : List Value} {items : Json.Items} {space : String}
    (blank : ∀ c ∈ space.toList, Json.isSpace c) (readFrom : Json.Items.ReadFrom 2 values items) :
    Json.ReadsValue 0 (dumpOfText (space ++ (Value.list values).compact)).toList
      (.object 1 (.member ⟨.ok "types", none⟩ (.list 2 items) .close)) [] := by
  obtain ⟨cs, isList, readsItems⟩ := readFrom.list
  have key : "types".toList.flatMap Json.escape = ['t', 'y', 'p', 'e', 's'] := by decide
  obtain ⟨pieces, readsKey, isKey⟩ := Json.exists_pieces_quoted "types"
    (':' :: (space.toList ++ '[' :: (cs ++ ['\x7d'])))
  have readsTypes : Json.ReadsValue 1 (space.toList ++ '[' :: (cs ++ ['\x7d'])) (.list 2 items) ['\x7d'] :=
    .spacedList blank (readsItems ['\x7d'])
  have member := Json.ReadsMembers.member readsKey readsTypes .close
  rw [isKey, key] at member
  have text : (dumpOfText (space ++ (Value.list values).compact)).toList =
      '\x7b' :: '"' :: (['t', 'y', 'p', 'e', 's'] ++ '"' :: ':' ::
        (space.toList ++ '[' :: (cs ++ ['\x7d']))) := by
    simp [dumpOfText, String.toList_append, isList]
  rw [text]
  exact .object (.first (by decide) (by decide) member)

/-- Declarations whose types can be written and whose attribute values are kept are read again from their text. -/
theorem declarationsOfJson_dumpOfText {ds : List Declaration} {space : String}
    (blank : ∀ c ∈ space.toList, Json.isSpace c) (written : ∀ d ∈ ds, d.Written)
    (kept : ∀ d ∈ ds, d.Kept 2) :
    declarationsOfJson (dumpOfText (space ++ jsonOfDeclarations ds)) = .ok ds := by
  obtain ⟨items, readFrom, returns⟩ := ReadsBack.exists_items fun d mem =>
    Dump.readsBack_declaration (by decide) (written d mem) (kept d mem)
  have document := Json.Document.ofText_of_readsValue (readsValue_dumpOfText blank readFrom)
  change Dump.ofJson Dump.readDump (dumpOfText (space ++ (Value.list (ds.map Dump.valueOfDeclaration)).compact)) =
    .ok ds
  rw [Dump.ofJson, document, Dump.readDump_types returns]

theorem DumpFormat.read_eq_ok_json {text : String} {p : Program} :
    DumpFormat.json.read text = .ok p ↔ ∃ ds, declarationsOfJson text = .ok ds ∧ .ofDeclarations ds = p := by
  rw [DumpFormat.read]
  cases declarations : declarationsOfJson text with
  | error fault => simp [Except.mapError, Except.map]
  | ok ds => simp [Except.mapError, Except.map]

/-- A program of declarations whose types can be written and whose attribute values are kept is that of a dump. -/
theorem Program.Loaded.ofKept {ds : List Declaration} (written : ∀ d ∈ ds, d.Written)
    (kept : ∀ d ∈ ds, d.Kept 2) : (Program.ofDeclarations ds).Loaded := by
  have read := @declarationsOfJson_dumpOfText ds "" (by simp) written kept
  exact ⟨.json, _, DumpFormat.read_eq_ok_json.mpr ⟨ds, read, rfl⟩⟩

/-- The declarations of a JSON dump, written as JSON and put into a dump again, give the same program, unless
    there is a floating-point number among the values of their attributes. The text of the declarations
    may stand behind any space. -/
theorem declarations_round_trip {text space : String} {p : Program} (read : DumpFormat.json.read text = .ok p)
    (noFloat : ∀ d ∈ p.declarations, d.hasFloat = false) (blank : ∀ c ∈ space.toList, Json.isSpace c) :
    DumpFormat.json.read (dumpOfText (space ++ jsonOfDeclarations p.declarations)) = .ok p := by
  obtain ⟨ds, readDs, rfl⟩ := DumpFormat.read_eq_ok_json.mp read
  have written := written_of_declarationsOfJson readDs
  have kept (d : Declaration) (mem : d ∈ ds) : d.Kept 2 := kept_of_declarationsOfJson readDs d mem (noFloat d mem)
  exact DumpFormat.read_eq_ok_json.mpr ⟨ds, declarationsOfJson_dumpOfText blank written kept, rfl⟩

/-- A dump with a type that is not in its canonical form, escaped characters, nested attribute values and no
    field that need not be given. -/
def terseText : String :=
  "\x7b\"types\":[\x7b\"path\":\"p\",\"base\":\"List< q >\",\"attributes\":[\x7b\"name\":\"\\\"\\u00e9\"," ++
    "\"args\":[-1,[20,true]]\x7d]\x7d]\x7d"

/-- The declaration of the dump. -/
def terseDeclaration : Declaration :=
  { path := "p", base := some (.named "List" [.named "q" []]),
    attributes := [⟨"\"é", [.int (-1), .list [.int 20, .bool true]], []⟩] }

set_option maxRecDepth 4000 in
theorem read_terseText : DumpFormat.json.read terseText = .ok (.ofDeclarations [terseDeclaration]) := by
  apply DumpFormat.read_json
  case reads =>
    delta terseText
    simp only [String.reduceAppend, String.reduceToList]
    repeat first
      | exact Json.ReadsText.close
      | apply Json.ReadsText.char (by decide)
      | apply Json.ReadsText.unit rfl
      | apply Json.ReadsText.escaped rfl
      | exact Json.ReadsItems.close
      | exact Json.ReadsMembers.close
      | apply Json.ReadsValue.text
      | apply Json.ReadsValue.list
      | apply Json.ReadsValue.object
      | exact Json.ReadsValue.trueWord
      | exact @Json.ReadsValue.negative _ _ ⟨true, ['1'], [], none⟩ rfl
      | exact @Json.ReadsValue.number _ _ _ ⟨false, ['2', '0'], [], none⟩ (by decide) rfl
      | apply Json.ReadsItems.item
      | apply Json.ReadsMembers.member
      | apply Json.ReadsItems.first (by decide) (by decide)
      | apply Json.ReadsItems.next (by decide) (by decide)
      | apply Json.ReadsMembers.first (by decide) (by decide)
      | apply Json.ReadsMembers.next (by decide) (by decide)
  case returns =>
    -- The bound of 64 bits is too large a power to be evaluated with the rest.
    have one : Json.Numeral.value ⟨true, ['1'], [], none⟩ = .ok (.int (-1)) := rfl
    have twenty : Json.Numeral.value ⟨false, ['2', '0'], [], none⟩ = .ok (.int 20) := rfl
    rw [one, twenty]
    cbv

/-- The declaration of the dump, written with every field, is read again behind a space. -/
theorem declarations_round_trip_terse :
    DumpFormat.json.read terseText = .ok (.ofDeclarations [terseDeclaration]) ∧
      terseDeclaration.hasFloat = false ∧
      DumpFormat.json.read (dumpOfText (" " ++ jsonOfDeclarations [terseDeclaration])) =
        .ok (.ofDeclarations [terseDeclaration]) := by
  refine ⟨read_terseText, by decide, ?_⟩
  apply declarations_round_trip read_terseText
  case noFloat => decide
  case blank =>
    intro c mem
    rw [List.mem_singleton.mp mem]
    rfl

end RouteScribe
