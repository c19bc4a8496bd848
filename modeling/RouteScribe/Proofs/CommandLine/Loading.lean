/-
Module: RouteScribe.Proofs.CommandLine.Loading
Layer: Proofs
Purpose: What a command starts from is read and nothing else: neither the dump nor the settings are touched, and the
  pass that follows finds the files as the command found them.
Imports: RouteScribe.CommandLine, RouteScribe.Proofs.Files.OutputDirectory
Trusted boundary: human-reviewed spec
Main exports: ReadOnly, readOnly_loadInputs, result_loadInputs
Open obligations: none
-/
import RouteScribe.CommandLine
import RouteScribe.Proofs.Files.OutputDirectory

namespace RouteScribe

/-- An action that leaves the workspace as it is. -/
def ReadOnly {α : Type} (x : StateM Workspace α) : Prop := ∀ w : Workspace, (x.run w).2 = w

namespace ReadOnly

variable {α β : Type}

theorem pure (a : α) : ReadOnly (pure a) := fun _ => rfl

theorem bind {x : StateM Workspace α} {f : α → StateM Workspace β} (first : ReadOnly x)
    (rest : ∀ a, ReadOnly (f a)) : ReadOnly (x >>= f) := by
  intro w
  rw [Workspace.run_bind, first w]
  exact rest _ w

theorem read (path : String) : ReadOnly (FileSystem.read path) := fun _ => rfl

theorem isPresent (path : String) : ReadOnly (FileSystem.isPresent path) := fun _ => rfl

theorem isFile (path : String) : ReadOnly (FileSystem.isFile path) := fun _ => rfl

theorem workingDirectory : ReadOnly (FileSystem.workingDirectory : StateM Workspace String) := fun _ => rfl

end ReadOnly

/-!
### Settings
-/

theorem readOnly_readSettings (path : String) : ReadOnly (readSettings path) := by
  apply ReadOnly.bind (.read path)
  intro text
  cases text <;> exact .pure _

theorem readOnly_loadFileSettings (file : Option String) : ReadOnly (loadFileSettings file) := by
  apply ReadOnly.bind (.isPresent _)
  intro present
  cases present with
  | true => exact readOnly_readSettings _
  | false => cases file <;> exact .pure _

theorem readOnly_findFile (paths : List String) : ReadOnly (findFile paths) := by
  induction paths with
  | nil => exact .pure _
  | cons path paths ih =>
      apply ReadOnly.bind (.isFile path)
      intro found
      cases found with
      | true => exact .pure _
      | false => exact ih

theorem readOnly_extendVariables (environment : Variables) : ReadOnly (extendVariables environment) := by
  apply ReadOnly.bind .workingDirectory
  intro directory
  apply ReadOnly.bind (readOnly_findFile _)
  intro found
  cases found with
  | none => exact .pure _
  | some path =>
      apply ReadOnly.bind (.read path)
      intro text
      cases text <;> exact .pure _

theorem readOnly_loadSettings (file : Option String) (environment : Variables) :
    ReadOnly (loadSettings file environment) := by
  apply ReadOnly.bind (readOnly_loadFileSettings file)
  intro settings
  cases settings with
  | error why => exact .pure _
  | ok settings =>
      apply ReadOnly.bind (readOnly_extendVariables environment)
      intro environment
      exact .pure _

/-- Without a file of settings only variables make any. -/
theorem loadSettings_none {w : Workspace} (absent : w.isPresent Settings.standardFile = false)
    (environment : Variables) :
    ((loadSettings none environment : StateM Workspace _).run w).1.1 =
      .ok (Settings.empty.append (.ofVariables ((extendVariables environment : StateM Workspace _).run w).1)) := by
  have file : (loadFileSettings none : StateM Workspace _).run w = (.ok .empty, w) := by
    have present : (FileSystem.isPresent Settings.standardFile : StateM Workspace _).run w = (false, w) :=
      congrArg (·, w) absent
    rw [loadFileSettings, Workspace.run_bind, Option.getD_none, present]
    rfl
  rw [loadSettings, Workspace.run_bind, file]
  dsimp only
  rw [Workspace.run_bind]
  rfl

/-!
### Dumps and inputs
-/

theorem readOnly_loadProgram (path : String) : ReadOnly (loadProgram path) := by
  apply ReadOnly.bind (.read path)
  intro text
  cases text with
  | error why => exact .pure _
  | ok text =>
      dsimp only
      split <;> exact .pure _

/-- Loading the inputs of a command leaves all files as they are. -/
theorem readOnly_loadInputs (input : String) (settingsFile : Option String) (environment : Variables) :
    ReadOnly (loadInputs input settingsFile environment) := by
  apply ReadOnly.bind (readOnly_loadProgram input)
  intro program
  cases program with
  | error why => exact .pure _
  | ok program =>
      apply ReadOnly.bind (readOnly_loadSettings settingsFile environment)
      intro settings
      exact .pure _

/-- A program comes from the text of its file, in the format of the file's ending; then the settings decide. -/
theorem result_loadInputs {w : Workspace} {input text : String} {format : DumpFormat} {program : Program}
    (read : w.read input = .ok text)
    (ending : DumpFormat.ofEnding? ((PathText.extension? input).getD "") = some format)
    (parsed : format.read text = .ok program) (settingsFile : Option String) (environment : Variables) :
    ((loadInputs input settingsFile environment : StateM Workspace Inputs).run w).1.result =
      match ((loadSettings settingsFile environment : StateM Workspace _).run w).1.1.bind Options.ofSettings with
      | .error why => .error (.setting why)
      | .ok options => .ok (program, options) := by
  have text : (FileSystem.read input : StateM Workspace _).run w = (.ok text, w) := congrArg (·, w) read
  have loaded : (loadProgram input : StateM Workspace _).run w = (.ok program, w) := by
    rw [loadProgram, Workspace.run_bind, text]
    dsimp only
    rw [ending, ← parsed]
    rfl
  rw [loadInputs, Workspace.run_bind, loaded]
  dsimp only
  rw [Workspace.run_bind]
  rfl

end RouteScribe
