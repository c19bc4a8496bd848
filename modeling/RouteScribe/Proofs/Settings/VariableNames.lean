/-
Module: RouteScribe.Proofs.Settings.VariableNames
Layer: Proofs
Purpose: Which variables of an environment make settings, and of which keys. Where their names are made up of capital
  letters, digits and underscores, no two of them make a setting of the same key.
Imports: Mathlib.Data.List.Nodup, RouteScribe.Settings.Layers
Trusted boundary: human-reviewed spec
Main exports: Settings.nameLetters, Settings.MakesSetting, Settings.IsAdmitted, Settings.makesSetting_inj,
  Settings.keyOfVariable?_eq_some_iff
Open obligations: none
-/
import Mathlib.Data.List.Nodup
import RouteScribe.Settings.Layers

namespace RouteScribe.Settings

/-!
### The specification
-/

/-- The characters that the names of variables for settings are made up of: capital letters of the Latin alphabet,
    digits and underscores. -/
def nameLetters : List Char := "ABCDEFGHIJKLMNOPQRSTUVWXYZ0123456789_".toList

/-- The character of a key that stands for one of a name. -/
def keyLetter (c : Char) : Char := if c = '_' then '.' else c.toLower

/-- Whether a variable makes a setting of a key: behind its start the name is that of the key, in capital letters and
    with underscores for dots. -/
def MakesSetting (name key : String) : Prop :=
  ∃ rest : List Char, rest ≠ [] ∧ (∀ c ∈ rest, c ∈ nameLetters) ∧
    name = "ROUTEGEN_" ++ String.ofList rest ∧ key = "routegen." ++ String.ofList (rest.map keyLetter)

/-- Whether the name of a variable has only such characters if it is that of a variable for a setting. -/
def IsAdmitted (name : String) : Prop := "ROUTEGEN_".toList <+: name.toList → ∀ c ∈ name.toList, c ∈ nameLetters

instance : DecidablePred IsAdmitted := fun name =>
  decidable_of_iff ("ROUTEGEN_".toList <+: name.toList → name.toList.all (· ∈ nameLetters) = true) (by simp [IsAdmitted])

/-!
### Keys of names
-/

variable {name name' key : String} {c c' : Char} {cs cs' : List Char}

theorem nodup_keyLetters : (nameLetters.map keyLetter).Nodup := by decide +kernel

theorem map_keyLetter_inj (letters : ∀ c ∈ cs, c ∈ nameLetters) (letters' : ∀ c ∈ cs', c ∈ nameLetters)
    (same : cs.map keyLetter = cs'.map keyLetter) : cs = cs' := by
  induction cs generalizing cs' with
  | nil => exact (List.map_eq_nil_iff.mp same.symm).symm
  | cons c cs ih =>
      cases cs' with
      | nil => cases same
      | cons c' cs' =>
          obtain ⟨first, rest⟩ := List.cons.inj same
          obtain ⟨isLetter, letters⟩ := List.forall_mem_cons.mp letters
          obtain ⟨isLetter', letters'⟩ := List.forall_mem_cons.mp letters'
          rw [List.inj_on_of_nodup_map nodup_keyLetters isLetter isLetter' first, ih letters letters' rest]

/-- Different variables make settings of different keys. -/
theorem makesSetting_inj (makes : MakesSetting name key) (makes' : MakesSetting name' key) : name = name' := by
  obtain ⟨rest, -, letters, rfl, rfl⟩ := makes
  obtain ⟨rest', -, letters', rfl, same⟩ := makes'
  have same := congrArg String.toList same
  simp only [String.toList_append, String.toList_ofList, List.append_cancel_left_eq] at same
  rw [map_keyLetter_inj letters letters' same]

theorem lower_eq : ∀ c ∈ nameLetters, c ≠ 'Σ' ∧ Text.lower c = [c.toLower] := by
  have letters : nameLetters.all (fun c => c ≠ 'Σ' ∧ Text.lower c = [c.toLower]) = true := by decide +kernel
  simpa using letters

theorem keyLetter_eq : ∀ c ∈ nameLetters, (if c.toLower = '_' then '.' else c.toLower) = keyLetter c := by
  have letters : nameLetters.all (fun c => (if c.toLower = '_' then '.' else c.toLower) = keyLetter c) = true := by
    decide +kernel
  simpa using letters

theorem lowerFrom_eq (before : List Char) (letters : ∀ c ∈ cs, c ∈ nameLetters) :
    Text.lowerFrom before cs = cs.map Char.toLower := by
  induction cs generalizing before with
  | nil => rfl
  | cons c cs ih =>
      obtain ⟨isLetter, letters⟩ := List.forall_mem_cons.mp letters
      obtain ⟨other, small⟩ := lower_eq c isLetter
      rw [Text.lowerFrom, if_neg other, small, ih _ letters]
      rfl

/-- The characters of a key are those of the name in small letters, with dots for underscores. -/
theorem map_lowerText (letters : ∀ c ∈ cs, c ∈ nameLetters) :
    (Text.lowerText (String.ofList cs)).toList.map (fun c => if c = '_' then '.' else c) = cs.map keyLetter := by
  rw [Text.lowerText, String.toList_ofList, String.toList_ofList, lowerFrom_eq [] letters, List.map_map]
  exact List.map_congr_left fun c mem => keyLetter_eq c (letters c mem)

theorem toList_variable (rest : List Char) :
    ("ROUTEGEN_" ++ String.ofList rest).toList = variableStart.toList ++ rest := by
  rw [String.toList_append]
  exact congrArg (_ ++ ·) String.toList_ofList

/-- The key that a variable is taken to set is the one that it makes a setting of. -/
theorem keyOfVariable?_eq_some_iff (admitted : IsAdmitted name) :
    keyOfVariable? name = some key ↔ MakesSetting name key := by
  constructor
  · intro isKey
    simp only [keyOfVariable?, Option.ite_none_right_eq_some, Bool.and_eq_true, List.isPrefixOf_iff_prefix,
      Bool.not_eq_true', List.isEmpty_eq_false_iff, Option.some.injEq] at isKey
    obtain ⟨⟨start, nonempty⟩, rfl⟩ := isKey
    have letters := admitted start
    obtain ⟨rest, chars⟩ := start
    rw [← chars, List.drop_left] at nonempty ⊢
    rw [← chars] at letters
    have letters := (List.forall_mem_append.mp letters).2
    refine ⟨rest, nonempty, letters, ?_, by rw [map_lowerText letters]⟩
    rw [← String.toList_inj, toList_variable, chars]
  · rintro ⟨rest, nonempty, letters, rfl, rfl⟩
    simp only [keyOfVariable?, toList_variable, List.drop_left, map_lowerText letters]
    rw [if_pos]
    simpa using nonempty

end RouteScribe.Settings
