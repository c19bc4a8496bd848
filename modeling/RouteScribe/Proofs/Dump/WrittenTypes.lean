/-
Module: RouteScribe.Proofs.Dump.WrittenTypes
Layer: Proofs
Purpose: Every type in a program that was loaded from a dump was read from a text. Readers of records pass
  the types of their fields on, and putting the parts of a type together keeps them.
Imports: RouteScribe.Dump.DumpFile, RouteScribe.Proofs.Dump.Records, RouteScribe.Proofs.Json.Reading,
  RouteScribe.Proofs.TypeText.Canonical
Trusted boundary: none
Main exports: Method.Written, Declaration.Written, Program.Written, Program.Loaded, Program.Loaded.written
Open obligations: none
-/
import RouteScribe.Dump.DumpFile
import RouteScribe.Proofs.Dump.Records
import RouteScribe.Proofs.Json.Reading
import RouteScribe.Proofs.TypeText.Canonical

namespace RouteScribe

open MonadAttach (CanReturn)
open LawfulMonadAttach (canReturn_bind_imp' canReturn_map_imp' eq_of_canReturn_pure)
open TypeExpr (Writable)

/-- Whether the types in a method's signature can be written. -/
structure Method.Written (m : Method) : Prop where
  params : ∀ param ∈ m.params, Writable param.type
  returns : ∀ t ∈ m.returns, Writable t

/-- Whether the types in a declaration can be written. -/
structure Declaration.Written (d : Declaration) : Prop where
  base : ∀ t ∈ d.base, Writable t
  fields : ∀ f ∈ d.fields, Writable f.type
  methods : ∀ m ∈ d.methods, m.Written

/-- Whether the types in a program can be written. -/
def Program.Written (p : Program) : Prop := ∀ d ∈ p.types, d.Written

/-!
### Reading
-/

namespace Dump

section

variable {ν : Type} {m : Type → Type} [Monad m] [LawfulMonad m] [MonadAttach m] [LawfulMonadAttach m]
  [DumpSource ν m] [FaithfulSource ν m] {node : ν}

theorem writable_of_readType {t : TypeExpr} (returns : CanReturn (readType node : m TypeExpr) t) :
    Writable t := by
  obtain ⟨text, -, returns⟩ := canReturn_bind_imp' returns
  split at returns
  · exact absurd returns FaithfulSource.not_notType
  · rename_i parsed
    rw [← eq_of_canReturn_pure returns]
    exact TypeExpr.writable_iff.mpr ⟨text, parsed⟩

theorem writable_of_readOptionalType {t? : Option TypeExpr}
    (returns : CanReturn (readOptionalType node : m (Option TypeExpr)) t?) : ∀ t ∈ t?, Writable t := by
  obtain ⟨present?, -, returns⟩ := canReturn_bind_imp' returns
  split at returns
  · rw [← eq_of_canReturn_pure returns]
    simp
  · obtain ⟨t, read, rfl⟩ := canReturn_map_imp' returns
    intro u isSome
    cases isSome
    exact writable_of_readType read

theorem writable_of_readField {f : Field} (returns : CanReturn (readField node : m Field) f) :
    Writable f.type := by
  have builds₀ := FaithfulSource.of_record returns
  obtain ⟨_, attributes, builds₁, -, rfl⟩ := builds₀.and
  obtain ⟨_, readable, builds₂, -, rfl⟩ := builds₁.and
  obtain ⟨_, isPublic, builds₃, -, rfl⟩ := builds₂.and
  obtain ⟨_, type, builds₄, isType, rfl⟩ := builds₃.and
  obtain ⟨_, name, builds₅, -, rfl⟩ := builds₄.and
  obtain ⟨node, -, read⟩ := isType.required
  rw [builds₅.pure]
  exact writable_of_readType read

theorem writable_of_readParameter {param : Parameter}
    (returns : CanReturn (readParameter node : m Parameter) param) : Writable param.type := by
  have builds₀ := FaithfulSource.of_record returns
  obtain ⟨_, attributes, builds₁, -, rfl⟩ := builds₀.and
  obtain ⟨_, type, builds₂, isType, rfl⟩ := builds₁.and
  obtain ⟨_, name, builds₃, -, rfl⟩ := builds₂.and
  obtain ⟨node, -, read⟩ := isType.required
  rw [builds₃.pure]
  exact writable_of_readType read

/-- What holds of every item that is read holds of every member of a list that may be missing. -/
theorem forall_of_list {α : Type} {read : ν → m α} {P : α → Prop} {key : String} {as : List α}
    (each : ∀ {node a}, CanReturn (read node) a → P a)
    (builds : (RecordReader.optional key [] (DumpSource.list read)).Builds (fun _ => True) as) : ∀ a ∈ as, P a := by
  rcases builds.optional with rfl | ⟨node, -, read⟩
  · simp
  · intro a mem
    obtain ⟨item, readItem⟩ := FaithfulSource.of_list read a mem
    exact each readItem

/-- What holds of every type that is read holds of a type that may be missing. -/
theorem forall_of_optionalType {key : String} {t? : Option TypeExpr}
    (builds : (RecordReader.optional key none
      (readOptionalType : ν → m (Option TypeExpr))).Builds (fun _ => True) t?) :
    ∀ t ∈ t?, Writable t := by
  rcases builds.optional with rfl | ⟨node, -, read⟩
  · simp
  · exact writable_of_readOptionalType read

theorem written_of_readMethod {method : Method}
    (returns : CanReturn (readMethod node : m Method) method) : method.Written := by
  have builds₀ := FaithfulSource.of_record returns
  obtain ⟨_, attributes, builds₁, -, rfl⟩ := builds₀.and
  obtain ⟨_, returns, builds₂, isReturns, rfl⟩ := builds₁.and
  obtain ⟨_, params, builds₃, areParams, rfl⟩ := builds₂.and
  obtain ⟨_, isAsync, builds₄, -, rfl⟩ := builds₃.and
  obtain ⟨_, isStatic, builds₅, -, rfl⟩ := builds₄.and
  obtain ⟨_, isPublic, builds₆, -, rfl⟩ := builds₅.and
  obtain ⟨_, name, builds₇, -, rfl⟩ := builds₆.and
  rw [builds₇.pure]
  exact ⟨forall_of_list writable_of_readParameter areParams, forall_of_optionalType isReturns⟩

theorem written_of_readDeclaration {d : Declaration}
    (returns : CanReturn (readDeclaration node : m Declaration) d) : d.Written := by
  have builds₀ := FaithfulSource.of_record returns
  obtain ⟨_, methods, builds₁, areMethods, rfl⟩ := builds₀.and
  obtain ⟨_, fields, builds₂, areFields, rfl⟩ := builds₁.and
  obtain ⟨_, attributes, builds₃, -, rfl⟩ := builds₂.and
  obtain ⟨_, base, builds₄, isBase, rfl⟩ := builds₃.and
  obtain ⟨_, generics, builds₅, -, rfl⟩ := builds₄.and
  obtain ⟨_, isAbstract, builds₆, -, rfl⟩ := builds₅.and
  obtain ⟨_, kind, builds₇, -, rfl⟩ := builds₆.and
  obtain ⟨_, path, builds₈, -, rfl⟩ := builds₇.and
  rw [builds₈.pure]
  exact ⟨forall_of_optionalType isBase, forall_of_list writable_of_readField areFields,
    forall_of_list written_of_readMethod areMethods⟩

/-- Whatever the format of a dump is, the types in its declarations can be written. -/
theorem written_of_readDump {ds : List Declaration}
    (returns : CanReturn (readDump node : m (List Declaration)) ds) : ∀ d ∈ ds, d.Written := by
  have builds₀ := FaithfulSource.of_record returns
  obtain ⟨_, types, builds₁, areTypes, rfl⟩ := builds₀.and
  rw [builds₁.pure]
  exact forall_of_list written_of_readDeclaration areTypes

end

end Dump

theorem written_of_declarationsOfJson {text : String} {ds : List Declaration}
    (read : declarationsOfJson text = .ok ds) : ∀ d ∈ ds, d.Written := by
  simp only [declarationsOfJson, Dump.ofJson] at read
  split at read
  · cases read
  · rename_i returns
    split at read
    · cases read
    · cases read
      exact Dump.written_of_readDump (m := Except JsonFault) returns

theorem written_of_declarationsOfYaml {text : String} {ds : List Declaration}
    (read : declarationsOfYaml text = .ok ds) : ∀ d ∈ ds, d.Written := by
  rw [declarationsOfYaml] at read
  split at read
  · cases read
  · rename_i document _
    have returns : CanReturn (Dump.readDump (Yaml.Nested.mk document.root Yaml.nestingLimit)) ds := by
      obtain ⟨⟨_, trail⟩, run, rfl⟩ := canReturn_map_imp' (m := Except Yaml.Fault) read
      exact ⟨_, trail, run⟩
    exact Dump.written_of_readDump returns

/-!
### Programs
-/

theorem Declaration.Written.absorb {known part : Declaration} (written : known.Written)
    (partWritten : part.Written) : (known.absorb part).Written where
  base := by
    simp only [Declaration.absorb]
    split
    · exact partWritten.base
    · exact written.base
  fields := List.forall_mem_append.mpr ⟨written.fields, partWritten.fields⟩
  methods := List.forall_mem_append.mpr ⟨written.methods, partWritten.methods⟩

theorem written_absorbPart {known : List Declaration} {part : Declaration}
    (written : ∀ d ∈ known, d.Written) (partWritten : part.Written) :
    ∀ d ∈ absorbPart known part, d.Written := by
  induction known with
  | nil => simpa [absorbPart] using partWritten
  | cons d ds ih =>
      obtain ⟨first, others⟩ := List.forall_mem_cons.mp written
      rw [absorbPart]
      split
      · exact List.forall_mem_cons.mpr ⟨first.absorb partWritten, others⟩
      · exact List.forall_mem_cons.mpr ⟨first, ih others⟩

theorem written_mergeParts {parts : List Declaration} (written : ∀ d ∈ parts, d.Written) :
    ∀ d ∈ mergeParts parts, d.Written := by
  suffices keeps : ∀ known : List Declaration, (∀ d ∈ known, d.Written) →
      ∀ d ∈ parts.foldl absorbPart known, d.Written by
    exact keeps [] (by simp)
  induction parts with
  | nil => exact fun known all => all
  | cons part parts ih =>
      obtain ⟨first, others⟩ := List.forall_mem_cons.mp written
      exact fun known all => ih others _ (written_absorbPart all first)

/-- Whether a program was loaded from a dump, in one of the formats. -/
def Program.Loaded (p : Program) : Prop :=
  ∃ (format : DumpFormat) (text : String), format.read text = .ok p

/-- A JSON text gives the program whose declarations can be read from its tree. -/
theorem DumpFormat.read_json {text : String} {root : Json.Node} {ds : List Declaration}
    (reads : Json.ReadsValue 0 text.toList root [])
    (returns : (Dump.readDump root : Except JsonFault (List Declaration)) = .ok ds) :
    DumpFormat.json.read text = .ok (.ofDeclarations ds) := by
  rw [DumpFormat.read, declarationsOfJson, Dump.ofJson, Json.Document.ofText_of_readsValue reads, returns]
  rfl

/-- The program of a JSON text is loaded if its tree can be read as a dump. -/
theorem Program.Loaded.ofJson {text : String} {root : Json.Node} {ds : List Declaration}
    (reads : Json.ReadsValue 0 text.toList root [])
    (returns : (Dump.readDump root : Except JsonFault (List Declaration)) = .ok ds) :
    (Program.ofDeclarations ds).Loaded :=
  ⟨.json, text, DumpFormat.read_json reads returns⟩

/-- The types in a program that was loaded can be written. -/
theorem Program.Loaded.written {p : Program} (loaded : p.Loaded) : p.Written := by
  obtain ⟨format, text, read⟩ := loaded
  have ofDeclarations {ds : List Declaration} (written : ∀ d ∈ ds, d.Written)
      (same : Program.ofDeclarations ds = p) : p.Written := by
    rw [← same]
    exact written_mergeParts written
  cases format with
  | json =>
      cases declarations : declarationsOfJson text with
      | error fault => rw [DumpFormat.read, declarations] at read; cases read
      | ok ds =>
          rw [DumpFormat.read, declarations] at read
          exact ofDeclarations (written_of_declarationsOfJson declarations) (Except.ok.inj read)
  | yaml =>
      cases declarations : declarationsOfYaml text with
      | error fault => rw [DumpFormat.read, declarations] at read; cases read
      | ok ds =>
          rw [DumpFormat.read, declarations] at read
          exact ofDeclarations (written_of_declarationsOfYaml declarations) (Except.ok.inj read)

end RouteScribe
