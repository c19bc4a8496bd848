/-
Module: RouteScribe.Proofs.Dump.Records
Layer: Proofs
Purpose: What the readers of a dump can return, traced back to what they read. Both formats keep the same
  three promises: a list holds what was read off its items, a record is built from fields that were read,
  and the refusal of a type returns nothing.
Imports: RouteScribe.Dump.JsonSource, RouteScribe.Dump.YamlSource, RouteScribe.Proofs.Json.Levels
Trusted boundary: none
Main exports: RecordReader.Builds, RecordReader.Builds.required, RecordReader.Builds.optional,
  RecordReader.Builds.and, FaithfulSource, Json.Node.builds_of_readRecord, Json.Node.mem_of_readList
Open obligations: none
-/
import RouteScribe.Dump.JsonSource
import RouteScribe.Dump.YamlSource
import RouteScribe.Proofs.Json.Levels

namespace RouteScribe

open MonadAttach (CanReturn)
open LawfulMonadAttach (canReturn_bind_imp' canReturn_map_imp' eq_of_canReturn_pure)

instance exceptAttach (ε : Type) : MonadAttach (Except ε) where
  CanReturn x a := x = .ok a
  attach
    | .error fault => .error fault
    | .ok a => .ok ⟨a, rfl⟩

instance exceptLawfulAttach (ε : Type) : LawfulMonadAttach (Except ε) where
  map_attach {_ x} := by cases x <;> rfl
  canReturn_map_imp {_ _ x a} returns := by
    cases x with
    | error fault => cases returns
    | ok b =>
        cases returns
        exact b.property

/-!
### Records
-/

namespace RecordReader

section

variable {ν α β : Type} {m : Type → Type} [Monad m] [MonadAttach m]

/-- What can be known of a record after some of its fields have been taken in, all from nodes with `P`. -/
inductive Reached (r : RecordReader ν m α) (P : ν → Prop) : r.State → Prop where
  | start : Reached r P r.start
  | set {s s' : r.State} {key : String} {node : ν} :
      Reached r P s → P node → CanReturn (r.set s key node) s' → Reached r P s'

/-- Whether a record can be built from fields that were read off nodes with `P`. -/
def Builds (r : RecordReader ν m α) (P : ν → Prop) (a : α) : Prop :=
  ∃ s, r.Reached P s ∧ r.finish s = .ok a

theorem Builds.pure {P : ν → Prop} {a b : α}
    (builds : (RecordReader.pure a : RecordReader ν m α).Builds P b) : b = a := by
  obtain ⟨s, -, finished⟩ := builds
  exact (Except.ok.inj finished).symm

end

namespace Builds

variable {ν α β : Type} {m : Type → Type} [Monad m] [LawfulMonad m] [MonadAttach m] [LawfulMonadAttach m]
  {P : ν → Prop}

/-- A field has the value that stands for a missing one, or one that was read. -/
theorem field {key : String} {read : ν → m α} {missing : Option α} {a : α}
    (builds : (RecordReader.field key read missing).Builds P a) :
    missing = some a ∨ ∃ node, P node ∧ CanReturn (read node) a := by
  obtain ⟨s, reached, finished⟩ := builds
  have known : ∀ b, s = some b → ∃ node, P node ∧ CanReturn (read node) b := by
    clear finished
    induction reached with
    | start => intro b isSome; cases isSome
    | @set s s' k node _ holds returns ih =>
        intro b isSome
        simp only [RecordReader.field] at returns
        split at returns
        · obtain ⟨c, returnsC, rfl⟩ := canReturn_map_imp' returns
          cases isSome
          exact ⟨node, holds, returnsC⟩
        · rw [← eq_of_canReturn_pure returns] at isSome
          exact ih b isSome
  simp only [RecordReader.field] at finished
  split at finished
  · cases finished
    exact Or.inr (known _ rfl)
  · cases finished
    exact Or.inl rfl
  · cases finished

theorem required {key : String} {read : ν → m α} {a : α}
    (builds : (RecordReader.required key read).Builds P a) : ∃ node, P node ∧ CanReturn (read node) a := by
  rcases builds.field with missing | returns
  · cases missing
  · exact returns

theorem optional {key : String} {read : ν → m α} {missing a : α}
    (builds : (RecordReader.optional key missing read).Builds P a) :
    a = missing ∨ ∃ node, P node ∧ CanReturn (read node) a := by
  rcases builds.field with same | returns
  · exact Or.inl (Option.some.inj same).symm
  · exact Or.inr returns

/-- Readers that are put together build records from what each of them builds. -/
theorem and {r : RecordReader ν m (α → β)} {q : RecordReader ν m α} {b : β}
    (builds : (r.and q).Builds P b) : ∃ build a, r.Builds P build ∧ q.Builds P a ∧ b = build a := by
  obtain ⟨s, reached, finished⟩ := builds
  have both : r.Reached P s.1 ∧ q.Reached P s.2 := by
    clear finished
    induction reached with
    | start => exact ⟨.start, .start⟩
    | @set s s' k node _ holds returns ih =>
        simp only [RecordReader.and] at returns
        split at returns
        · obtain ⟨t, returnsT, rfl⟩ := canReturn_map_imp' returns
          exact ⟨ih.1.set holds returnsT, ih.2⟩
        · obtain ⟨t, returnsT, rfl⟩ := canReturn_map_imp' returns
          exact ⟨ih.1, ih.2.set holds returnsT⟩
  simp only [RecordReader.and] at finished
  split at finished
  · cases finished
  · rename_i build first
    cases second : q.finish s.2 with
    | error key => rw [second] at finished; cases finished
    | ok a =>
        rw [second] at finished
        exact ⟨build, a, ⟨s.1, both.1, first⟩, ⟨s.2, both.2, second⟩, (Except.ok.inj finished).symm⟩

end Builds

end RecordReader

/-!
### Formats
-/

/-- What a format promises to those who read lists, records and types from it. -/
class FaithfulSource (ν : Type) (m : Type → Type) [Monad m] [MonadAttach m] [DumpSource ν m] : Prop where
  of_list {α : Type} {read : ν → m α} {node : ν} {as : List α} :
    CanReturn (DumpSource.list read node) as → ∀ a ∈ as, ∃ item, CanReturn (read item) a
  of_record {α : Type} {name : String} {r : RecordReader ν m α} {node : ν} {a : α} :
    CanReturn (DumpSource.record name r node) a → r.Builds (fun _ => True) a
  not_notType {α : Type} {why : TypeExpr.ParseError} {a : α} :
    ¬ CanReturn (DumpSource.notType ν why : m α) a

namespace Json.Node

variable {P : Node → Prop}

theorem mem_of_readItems {α : Type} {read : Node → Except JsonFault α} {items : Items} {as : List α}
    (all : items.All P) (returns : readItems read items = .ok as) :
    ∀ a ∈ as, ∃ item, P item ∧ read item = .ok a := by
  induction as generalizing items with
  | nil => simp
  | cons b bs ih =>
      rw [readItems.eq_def] at returns
      split at returns
      · cases returns
      · cases returns
      · rename_i value rest
        split at returns
        · cases returns
        · rename_i first readFirst
          cases readRest : readItems read rest with
          | error fault => rw [readRest] at returns; cases returns
          | ok others =>
              rw [readRest] at returns
              obtain ⟨rfl, rfl⟩ := List.cons.inj (Except.ok.inj returns)
              intro a mem
              rcases List.mem_cons.mp mem with rfl | mem
              · exact ⟨value, all.1, readFirst⟩
              · exact ih all.2 readRest a mem

theorem reached_readMembers {α : Type} {r : RecordReader Node (Except JsonFault) α}
    {s s' : r.State} {members : Members} (all : members.All P) (reached : r.Reached P s)
    (returns : readMembers r s members = .ok s') : r.Reached P s' := by
  fun_induction readMembers r s members with
  | case1 s => cases returns; exact reached
  | case7 s _ value _ k _ _ _ state set ih => exact ih all.2 (reached.set all.1 set) returns
  | case9 s _ _ _ _ _ _ _ ih => exact ih all.2 reached returns
  | _ => cases returns

theorem reached_readFields {α : Type} {name : String} {r : RecordReader Node (Except JsonFault) α}
    {s s' : r.State} {keys : List String} {items : Items} (all : items.All P) (reached : r.Reached P s)
    (returns : readFields name r s keys items = .ok s') : r.Reached P s' := by
  fun_induction readFields name r s keys items with
  | case1 s items =>
      cases items with
      | close => cases returns; exact reached
      | _ => cases returns
  | case4 s key keys value rest state set ih => exact ih all.2 (reached.set all.1 set) returns
  | case6 s key keys _ ih => exact ih all reached returns
  | _ => cases returns

/-- A list holds what was read off its items. -/
theorem mem_of_readList {α : Type} {read : Node → Except JsonFault α} {node : Node} {as : List α}
    (parts : node.Holds P) (returns : readList read node = .ok as) :
    ∀ a ∈ as, ∃ item, P item ∧ read item = .ok a := by
  cases node with
  | list level items =>
      rw [readList] at returns
      split at returns
      · cases returns
      · exact mem_of_readItems parts returns
  | _ => cases returns

/-- A record is built from what was read off the members of an object or the items of a list. -/
theorem builds_of_readRecord {α : Type} {name : String} {r : RecordReader Node (Except JsonFault) α}
    {node : Node} {a : α} (parts : node.Holds P) (returns : readRecord name r node = .ok a) :
    r.Builds P a := by
  simp only [readRecord] at returns
  split at returns
  · cases returns
  · rename_i s read
    have reached : r.Reached P s := by
      cases node with
      | object level members =>
          simp only at read
          split at read
          · cases read
          · exact reached_readMembers parts .start read
      | list level items =>
          simp only at read
          split at read
          · cases read
          · exact reached_readFields parts .start read
      | _ => cases read
    split at returns
    · cases returns
    · rename_i finished
      exact ⟨s, reached, by rw [finished, Except.ok.inj returns]⟩

end Json.Node

instance : FaithfulSource Json.Node (Except JsonFault) where
  of_list {_ read node as} returns := by
    intro a mem
    have parts := node.holds_of_forall fun _ => trivial
    obtain ⟨item, -, readItem⟩ := Json.Node.mem_of_readList parts returns a mem
    exact ⟨item, readItem⟩
  of_record {_ name r node a} returns :=
    Json.Node.builds_of_readRecord (node.holds_of_forall fun _ => trivial) returns
  not_notType returns := by cases returns

namespace Yaml

theorem Following.not_refuse {α : Type} {a : α} : ¬ CanReturn (refuse : Following α) a := by
  rintro ⟨s, s', returns⟩
  cases returns

namespace Nested

theorem mem_of_readItems {α : Type} {read : Nested → Following α} {remaining : Nat} {items : Items}
    {as : List α} (returns : CanReturn (readItems read remaining items) as) :
    ∀ a ∈ as, ∃ item, CanReturn (read item) a := by
  induction as generalizing items with
  | nil => simp
  | cons b bs ih =>
      cases items with
      | nil =>
          rw [readItems] at returns
          cases eq_of_canReturn_pure returns
      | cons item rest =>
          rw [readItems] at returns
          obtain ⟨first, readFirst, returns⟩ := canReturn_bind_imp' returns
          obtain ⟨others, readRest, returns⟩ := canReturn_bind_imp' returns
          obtain ⟨rfl, rfl⟩ := List.cons.inj (eq_of_canReturn_pure returns)
          intro a mem
          rcases List.mem_cons.mp mem with rfl | mem
          · exact ⟨_, readFirst⟩
          · exact ih readRest a mem

theorem reached_readMembers {α : Type} {r : RecordReader Nested Following α} {remaining : Nat}
    {s s' : r.State} {members : Members} (reached : r.Reached (fun _ => True) s)
    (returns : CanReturn (readMembers r remaining s members) s') : r.Reached (fun _ => True) s' := by
  fun_induction readMembers r remaining s members with
  | case1 s =>
      rwa [← eq_of_canReturn_pure returns]
  | case2 s key value rest ih1 ih2 =>
      obtain ⟨k, -, returns⟩ := canReturn_bind_imp' returns
      split at returns
      · exact ih1 reached returns
      · split at returns
        · exact absurd returns Following.not_refuse
        · obtain ⟨state, set, returns⟩ := canReturn_bind_imp' returns
          exact ih2 _ (reached.set trivial set) returns

end Nested

end Yaml

instance : FaithfulSource Yaml.Nested Yaml.Following where
  of_list {_ read node as} returns := by
    change CanReturn (Yaml.Nested.readList read node) as at returns
    obtain ⟨settled, -, returns⟩ := canReturn_bind_imp' returns
    split at returns
    · exact Yaml.Nested.mem_of_readItems returns
    · split at returns
      · rw [← eq_of_canReturn_pure returns]
        simp
      · exact absurd returns Yaml.Following.not_refuse
  of_record {_ name r node a} returns := by
    change CanReturn (Yaml.Nested.readRecord name r node) a at returns
    have finishes {s : r.State} (reached : r.Reached (fun _ => True) s)
        (returns : CanReturn (match r.finish s with
          | .error _ => Yaml.Following.refuse
          | .ok a => pure a : Yaml.Following _) a) : r.Builds (fun _ => True) a := by
      split at returns
      · exact absurd returns Yaml.Following.not_refuse
      · rename_i finished
        exact ⟨s, reached, by rw [finished, eq_of_canReturn_pure returns]⟩
    obtain ⟨settled, -, returns⟩ := canReturn_bind_imp' returns
    dsimp only at returns
    split at returns
    · obtain ⟨s, read, returns⟩ := canReturn_bind_imp' returns
      exact finishes (Yaml.Nested.reached_readMembers .start read) returns
    · split at returns
      · obtain ⟨s, read, returns⟩ := canReturn_bind_imp' returns
        rw [← eq_of_canReturn_pure read] at returns
        exact finishes .start returns
      · obtain ⟨s, read, -⟩ := canReturn_bind_imp' returns
        exact absurd read Yaml.Following.not_refuse
  not_notType returns := Yaml.Following.not_refuse returns

end RouteScribe
