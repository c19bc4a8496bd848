/-
Module: RouteScribe.Proofs.Settings.Layering
Layer: Proofs
Purpose: Where settings come from. The variables of the environment count before the assignments of the nearest file of
  variables, and these before the file of settings. Only the variables that make settings matter, in whatever order
  they stand, and those that the file of variables mentions.
Imports: Mathlib, RouteScribe.Proofs.CommandLine.Loading, RouteScribe.Proofs.Settings.Assignments,
  RouteScribe.Proofs.Settings.VariableNames
Trusted boundary: human-reviewed spec
Main exports: Settings.FileSettings, Settings.VariablesText, Settings.Layered, Settings.Counts,
  Settings.loadSettings_layered
Open obligations: none
-/
import Mathlib
import RouteScribe.Proofs.CommandLine.Loading
import RouteScribe.Proofs.Settings.Assignments
import RouteScribe.Proofs.Settings.VariableNames

namespace RouteScribe.Settings

/-!
### The specification
-/

/-- `FileSettings w file yaml` says that a file of settings, the standard one if no other is named, holds the settings
    `yaml`. Without the standard file there are none. -/
inductive FileSettings (w : Workspace) : Option String → Settings → Prop where
  | loaded {file : Option String} {text : String} {yaml : Settings} :
      w.isPresent (file.getD standardFile) = true → w.read (file.getD standardFile) = .ok text →
        ofYaml text = .ok yaml → FileSettings w file yaml
  | absent : w.isPresent standardFile = false → FileSettings w none .empty

/-- The paths at which a file of variables is looked for, in the working directory and then in those above it. -/
def variablesPaths (w : Workspace) : List String :=
  (PathText.ancestors ("/" ++ "/".intercalate w.workingDirectory)).map fun d => PathText.join d variablesFile

/-- Whether the nearest file of variables has a text; it counts as empty if there is no such file. -/
inductive VariablesText (w : Workspace) : String → Prop where
  | nearest {path text : String} :
      (variablesPaths w).find? w.isFile = some path → w.read path = .ok text → VariablesText w text
  | absent : (variablesPaths w).find? w.isFile = none → VariablesText w ""

/-- `Layered environment made yaml key setting` says which setting a key has, if there are the variables `environment`,
    the file of variables makes the assignments `made`, and the file of settings holds `yaml`. -/
inductive Layered (environment made : Variables) (yaml : Settings) (key : String) : Option Setting → Prop where
  /-- A variable that makes a setting of the key counts first, -/
  | environment {name value : String} :
      MakesSetting name key → environment.lookup name = some value →
        Layered environment made yaml key (some (.text value))
  /-- then the first assignment to such a variable, -/
  | assignment {before behind : Variables} {name value : String} :
      (∀ name, MakesSetting name key → environment.lookup name = none) →
        made = before ++ (name, value) :: behind → MakesSetting name key →
        (∀ earlier ∈ before, ¬ MakesSetting earlier.1 key) → Layered environment made yaml key (some (.text value))
  /-- and the file of settings at last. -/
  | file :
      (∀ name, MakesSetting name key → environment.lookup name = none) →
        (∀ v ∈ made, ¬ MakesSetting v.1 key) → Layered environment made yaml key (yaml.lookup key)

/-- Whether the same settings are loaded in two environments. -/
def LoadsSame (w : Workspace) (file : Option String) (environment environment' : Variables) : Prop :=
  ∃ settings settings', ((loadSettings file environment : StateM Workspace _).run w).1.1 = .ok settings ∧
    ((loadSettings file environment' : StateM Workspace _).run w).1.1 = .ok settings' ∧
    ∀ key, settings'.lookup key = settings.lookup key

/-- Whether a variable can make a difference: it makes a setting, or the file of variables mentions it. -/
def Counts (text name : String) : Prop :=
  (∃ key, MakesSetting name key) ∨ EnvironmentFile.FileMentions text name

/-!
### Settings of variables
-/

section

variable {known environment made : Variables} {yaml : Settings} {key name value : String} {setting : Setting}

theorem mem_entries_ofVariables (admitted : ∀ v ∈ known, IsAdmitted v.1) :
    (key, setting) ∈ (ofVariables known).entries ↔
      ∃ name value, (name, value) ∈ known ∧ MakesSetting name key ∧ setting = .text value := by
  simp only [ofVariables, ofPairs, List.mem_map, List.mem_filterMap, Option.map_eq_some_iff]
  constructor
  · rintro ⟨_, ⟨⟨name, value⟩, mem, key, isKey, rfl⟩, ⟨⟩⟩
    exact ⟨name, value, mem, (keyOfVariable?_eq_some_iff (admitted _ mem)).mp isKey, rfl⟩
  · rintro ⟨name, value, mem, makes, rfl⟩
    exact ⟨(key, value), ⟨(name, value), mem, key, (keyOfVariable?_eq_some_iff (admitted _ mem)).mpr makes, rfl⟩, rfl⟩

/-- No two variables make a setting of the same key. -/
theorem distinct_entries_ofVariables (distinct : (known.map Prod.fst).Nodup) (admitted : ∀ v ∈ known, IsAdmitted v.1) :
    ((ofVariables known).entries.map Prod.fst).Nodup := by
  have keys : (ofVariables known).entries.map Prod.fst = known.filterMap fun v => keyOfVariable? v.1 := by
    simp [ofVariables, ofPairs, List.map_filterMap, Function.comp_def]
  rw [keys, List.Nodup, List.pairwise_filterMap]
  refine (List.pairwise_map.mp distinct).imp_of_mem fun mem mem' differ key isKey key' isKey' same => differ ?_
  subst same
  exact makesSetting_inj ((keyOfVariable?_eq_some_iff (admitted _ mem)).mp isKey)
    ((keyOfVariable?_eq_some_iff (admitted _ mem')).mp isKey')

theorem lookup_ofVariables (distinct : (known.map Prod.fst).Nodup) (admitted : ∀ v ∈ known, IsAdmitted v.1) :
    (ofVariables known).lookup key = some setting ↔
      ∃ name value, MakesSetting name key ∧ known.lookup name = some value ∧ setting = .text value := by
  have reversed : ((ofVariables known).entries.reverse.map Prod.fst).Nodup := by
    rw [List.map_reverse, (List.reverse_perm _).nodup_iff]
    exact distinct_entries_ofVariables distinct admitted
  rw [lookup, lookup_eq_some_iff_mem reversed, List.mem_reverse, mem_entries_ofVariables admitted]
  constructor
  · rintro ⟨name, value, mem, makes, same⟩
    exact ⟨name, value, makes, (lookup_eq_some_iff_mem distinct).mpr mem, same⟩
  · rintro ⟨name, value, makes, found, same⟩
    exact ⟨name, value, (lookup_eq_some_iff_mem distinct).mp found, makes, same⟩

theorem lookup_append (s t : Settings) (key : String) : (s.append t).lookup key = (t.lookup key).or (s.lookup key) := by
  rw [lookup, append, List.reverse_append, List.lookup_append]
  rfl

/-- Every key has a setting that the layers give it, or none. -/
theorem exists_layered (environment made : Variables) (yaml : Settings) (key : String) :
    ∃ setting, Layered environment made yaml key setting := by
  classical
  by_cases isMade : ∃ name value, MakesSetting name key ∧ environment.lookup name = some value
  · obtain ⟨name, value, makes, found⟩ := isMade
    exact ⟨_, .environment makes found⟩
  · have none : ∀ name, MakesSetting name key → environment.lookup name = none := by
      intro name makes
      rw [Option.eq_none_iff_forall_not_mem]
      exact fun value found => isMade ⟨name, value, makes, found⟩
    cases first : made.find? fun v => MakesSetting v.1 key with
    | none => exact ⟨_, .file none (by simpa using first)⟩
    | some v =>
        obtain ⟨makes, before, behind, split, earlier⟩ := List.find?_eq_some_iff_append.mp first
        exact ⟨_, .assignment none split (by simpa using makes) (by simpa using earlier)⟩

/-- The layers give a key the setting that it has when all variables are known. -/
theorem Layered.lookup_eq {setting : Option Setting} (layered : Layered environment made yaml key setting)
    (lookups : ∀ name, known.lookup name = (environment.lookup name).or (made.lookup name))
    (distinct : (known.map Prod.fst).Nodup) (admitted : ∀ v ∈ known, IsAdmitted v.1) :
    (yaml.append (ofVariables known)).lookup key = setting := by
  rw [lookup_append]
  have made {name value : String} (makes : MakesSetting name key) (found : known.lookup name = some value) :
      ((ofVariables known).lookup key).or (yaml.lookup key) = some (.text value) := by
    rw [(lookup_ofVariables distinct admitted).mpr ⟨name, value, makes, found, rfl⟩, Option.some_or]
  cases layered with
  | environment makes found => exact made makes (by rw [lookups, found, Option.some_or])
  | assignment none split makes earlier =>
      refine made makes ?_
      rw [lookups, none _ makes, Option.none_or, split, List.lookup_eq_some_iff]
      refine ⟨_, _, rfl, fun v mem => bne_iff_ne.mpr fun same => earlier v mem (same ▸ makes)⟩
  | file none notMade =>
      have noVariable : (ofVariables known).lookup key = Option.none := by
        rw [Option.eq_none_iff_forall_not_mem]
        intro setting isSetting
        obtain ⟨name, value, makes, found, -⟩ := (lookup_ofVariables distinct admitted).mp isSetting
        rw [lookups, none name makes, Option.none_or] at found
        obtain ⟨before, behind, split, -⟩ := List.lookup_eq_some_iff.mp found
        exact notMade (name, value) (split ▸ List.mem_append_right _ List.mem_cons_self) makes
      rw [noVariable, Option.none_or]

/-- Environments with the same variables for settings have the same layers. -/
theorem Layered.congr {environment' : Variables} {setting : Option Setting}
    (layered : Layered environment made yaml key setting)
    (agree : ∀ name, MakesSetting name key → environment.lookup name = environment'.lookup name) :
    Layered environment' made yaml key setting := by
  have none (absent : ∀ name, MakesSetting name key → environment.lookup name = none) :
      ∀ name, MakesSetting name key → environment'.lookup name = Option.none := fun name makes =>
    (agree name makes).symm.trans (absent name makes)
  cases layered with
  | environment makes found => exact .environment makes ((agree _ makes).symm.trans found)
  | assignment absent split makes earlier => exact .assignment (none absent) split makes earlier
  | file absent notMade => exact .file (none absent) notMade

end

/-!
### Loading
-/

section

variable {w : Workspace} {file : Option String} {text : String} {yaml : Settings} {environment made : Variables}

theorem run_loadFileSettings (loads : FileSettings w file yaml) :
    (loadFileSettings file : StateM Workspace _).run w = (.ok yaml, w) := by
  have presence (path : String) : (FileSystem.isPresent path : StateM Workspace _).run w = (w.isPresent path, w) := rfl
  unfold loadFileSettings
  rw [Workspace.run_bind, presence]
  cases loads with
  | @loaded _ text _ isPresent read isYaml =>
      have text : (FileSystem.read (file.getD standardFile) : StateM Workspace _).run w = (.ok text, w) :=
        congrArg (·, w) read
      rw [isPresent]
      dsimp only
      rw [if_pos rfl, readSettings, Workspace.run_bind, text, ← isYaml]
      rfl
  | absent isAbsent =>
      rw [Option.getD_none, isAbsent]
      rfl

theorem run_findFile (paths : List String) :
    (findFile paths : StateM Workspace _).run w = (paths.find? w.isFile, w) := by
  induction paths with
  | nil => rfl
  | cons path paths ih =>
      have isFile : (FileSystem.isFile path : StateM Workspace _).run w = (w.isFile path, w) := rfl
      rw [findFile, Workspace.run_bind, isFile, List.find?_cons]
      cases w.isFile path with
      | true => rfl
      | false => exact ih

theorem run_extendVariables (isText : VariablesText w text) (environment : Variables) :
    (extendVariables environment : StateM Workspace _).run w = (EnvironmentFile.extend environment text, w) := by
  have directory : (FileSystem.workingDirectory : StateM Workspace _).run w =
      ("/" ++ "/".intercalate w.workingDirectory, w) := rfl
  rw [extendVariables, Workspace.run_bind, directory, Workspace.run_bind, run_findFile]
  cases isText with
  | @nearest path text found read =>
      have text : (FileSystem.read path : StateM Workspace _).run w = (.ok text, w) := congrArg (·, w) read
      rw [variablesPaths] at found
      rw [found]
      dsimp only
      rw [Workspace.run_bind, text]
      rfl
  | absent none =>
      rw [variablesPaths] at none
      rw [none]
      rfl

/-- The settings of a file and of all variables. -/
theorem run_loadSettings (loads : FileSettings w file yaml) (isText : VariablesText w text) (environment : Variables) :
    ((loadSettings file environment : StateM Workspace _).run w).1.1 =
      .ok (yaml.append (.ofVariables (EnvironmentFile.extend environment text))) := by
  rw [loadSettings, Workspace.run_bind, run_loadFileSettings loads]
  dsimp only
  rw [Workspace.run_bind, run_extendVariables isText]
  rfl

end

/-- In another order variables are an environment still, and have the same values. -/
theorem isEnvironment_of_perm {environment environment' : Variables} (isEnvironment : environment.IsEnvironment)
    (perm : environment'.Perm environment) :
    environment'.IsEnvironment ∧ ∀ name, environment.lookup name = environment'.lookup name := by
  have distinct : (environment'.map Prod.fst).Nodup := (perm.map Prod.fst).nodup_iff.mpr isEnvironment.distinct
  refine ⟨⟨distinct, fun v mem => isEnvironment.nonempty v (perm.mem_iff.mp mem),
    fun v mem => isEnvironment.noEquals v (perm.mem_iff.mp mem)⟩, fun name => ?_⟩
  ext value
  rw [lookup_eq_some_iff_mem isEnvironment.distinct, lookup_eq_some_iff_mem distinct, perm.mem_iff]

/-- Settings are loaded in layers: the value of a variable that makes a setting of a key counts first, then that of the
    first assignment to such a variable in the file of variables, and at last the file of settings. Different variables
    make settings of different keys. Neither the order of the variables matters, nor do variables but those that make
    settings and those that the file of variables mentions. -/
theorem loadSettings_layered {w : Workspace} {file : Option String} {text : String} {yaml : Settings}
    {environment made : Variables} (loads : FileSettings w file yaml) (isText : VariablesText w text)
    (isEnvironment : environment.IsEnvironment) (admitted : ∀ v ∈ environment, IsAdmitted v.1)
    (makes : EnvironmentFile.Makes environment text made) (admittedMade : ∀ v ∈ made, IsAdmitted v.1) :
    (∃ settings, ((loadSettings file environment : StateM Workspace _).run w).1.1 = .ok settings ∧
      ∀ key, Layered environment made yaml key (settings.lookup key)) ∧
    (∀ name name' key, MakesSetting name key → MakesSetting name' key → name = name') ∧
    (∀ environment' : Variables, environment'.Perm environment → LoadsSame w file environment environment') ∧
    ∀ environment' : Variables, environment'.IsEnvironment → (∀ v ∈ environment', IsAdmitted v.1) →
      (∀ name, Counts text name → environment.lookup name = environment'.lookup name) →
        LoadsSame w file environment environment' := by
  -- the settings are those that the layers give, in any environment
  have loaded {environment : Variables} (isEnvironment : environment.IsEnvironment)
      (admitted : ∀ v ∈ environment, IsAdmitted v.1) (makes : EnvironmentFile.Makes environment text made) :
      ∃ settings, ((loadSettings file environment : StateM Workspace _).run w).1.1 = .ok settings ∧
        ∀ key setting, Layered environment made yaml key setting → settings.lookup key = setting := by
    refine ⟨_, run_loadSettings loads isText environment, fun key setting layered => ?_⟩
    rw [EnvironmentFile.extend_eq makes]
    have lookups := EnvironmentFile.lookup_assignAll environment made
    have distinct := (makes.isEnvironment isEnvironment).distinct
    refine layered.lookup_eq lookups distinct fun v mem => ?_
    have found := (lookup_eq_some_iff_mem distinct).mpr mem
    rw [lookups, Option.or_eq_some_iff] at found
    rcases found with old | ⟨-, new⟩
    · exact admitted _ (mem_of_lookup old)
    · exact admittedMade _ (mem_of_lookup new)
  obtain ⟨settings, isLoaded, lookups⟩ := loaded isEnvironment admitted makes
  have layered (key : String) : Layered environment made yaml key (settings.lookup key) := by
    obtain ⟨setting, layered⟩ := exists_layered environment made yaml key
    rw [lookups key setting layered]
    exact layered
  have same (environment' : Variables) (isEnvironment' : environment'.IsEnvironment)
      (admitted' : ∀ v ∈ environment', IsAdmitted v.1)
      (agree : ∀ name, Counts text name → environment.lookup name = environment'.lookup name) :
      LoadsSame w file environment environment' := by
    have makes' := makes.congr isEnvironment isEnvironment' fun name mentions => agree name (.inr mentions)
    obtain ⟨settings', isLoaded', lookups'⟩ := loaded isEnvironment' admitted' makes'
    refine ⟨settings, settings', isLoaded, isLoaded', fun key => lookups' key _ ((layered key).congr ?_)⟩
    exact fun name makes => agree name (.inl ⟨key, makes⟩)
  refine ⟨⟨settings, isLoaded, layered⟩, fun _ _ _ => makesSetting_inj, fun environment' perm => ?_, same⟩
  obtain ⟨isEnvironment', agree⟩ := isEnvironment_of_perm isEnvironment perm
  exact same environment' isEnvironment' (fun v mem => admitted v (perm.mem_iff.mp mem)) fun name _ => agree name

/-- A working directory with a file of settings and a file of variables. -/
def layeredWorkspace : Workspace :=
  { entries := [(["routegen.yaml"], .file "routegen:\n  a: 1\n  b: 2\n"), ([".env"], .file "ROUTEGEN_A=3\n")] }

section

open EnvironmentFile

/-- Settings of all kinds can be made at once. -/
theorem layeredWorkspace_layered :
    ∃ yaml settings, ((loadSettings none [("HOME", "/"), ("ROUTEGEN_C", "4")] : StateM Workspace _).run
        layeredWorkspace).1.1 = .ok settings ∧
      ∀ key, Layered [("HOME", "/"), ("ROUTEGEN_C", "4")] [("ROUTEGEN_A", "3")] yaml key (settings.lookup key) := by
  have found : (variablesPaths layeredWorkspace).find? layeredWorkspace.isFile = some "/.env" := by decide +kernel
  have isText : VariablesText layeredWorkspace "ROUTEGEN_A=3\n" := .nearest found rfl
  have read : readStatement "ROUTEGEN_A=3".toList = some (.assignment "ROUTEGEN_A".toList "3".toList) := by rfl
  have isValue : readValue [("HOME", "/"), ("ROUTEGEN_C", "4")] [] "3".toList = some "3".toList := by cbv
  have makes : Makes [("HOME", "/"), ("ROUTEGEN_C", "4")] "ROUTEGEN_A=3\n" [("ROUTEGEN_A", "3")] :=
    makes_single read (by decide +kernel) rfl isValue
  cases isYaml : ofYaml "routegen:\n  a: 1\n  b: 2\n" with
  | error why =>
      have loads : (ofYaml "routegen:\n  a: 1\n  b: 2\n").isOk = true := by decide +kernel
      rw [isYaml] at loads
      cases loads
  | ok yaml =>
      have loads : FileSettings layeredWorkspace none yaml := .loaded (by decide +kernel) rfl isYaml
      obtain ⟨settings, isLoaded, layered⟩ :=
        (loadSettings_layered loads isText ⟨by decide, by decide, by decide⟩ (by decide) makes (by decide)).1
      exact ⟨yaml, settings, isLoaded, layered⟩

/-- A working directory with a file of variables and no file of settings. -/
def variablesWorkspace (text : String) : Workspace := { entries := [([".env"], .file text)] }

theorem run_variablesWorkspace {text : String} {environment made : Variables}
    (found : (variablesPaths (variablesWorkspace text)).find? (variablesWorkspace text).isFile = some "/.env")
    (makes : Makes environment text made) :
    ((loadSettings none environment : StateM Workspace _).run (variablesWorkspace text)).1.1 =
      .ok (Settings.empty.append (.ofVariables (made.foldl assign environment))) := by
  rw [run_loadSettings (.absent rfl) (.nearest found rfl), extend_eq makes]

theorem readValue_mention : readValue [("FOO", "x")] [] "$FOO".toList = some "x".toList := by cbv

/-- A variable that makes no setting makes a difference if the value of another one mentions it. -/
theorem mention_counts :
    Makes [("FOO", "x")] "ROUTEGEN_A=$FOO\n" [("ROUTEGEN_A", "x")] ∧
      (∀ name key, MakesSetting name key → [("FOO", "x")].lookup name = [].lookup name) ∧
      ¬ LoadsSame (variablesWorkspace "ROUTEGEN_A=$FOO\n") none [("FOO", "x")] [] := by
  have read : readStatement "ROUTEGEN_A=$FOO".toList =
      some (.assignment "ROUTEGEN_A".toList "$FOO".toList) := by rfl
  have isEmpty : readValue [] [] "$FOO".toList = some "".toList := by cbv
  have makes : Makes [("FOO", "x")] "ROUTEGEN_A=$FOO\n" [("ROUTEGEN_A", "x")] :=
    makes_single read (by decide +kernel) rfl readValue_mention
  have makesEmpty : Makes [] "ROUTEGEN_A=$FOO\n" [("ROUTEGEN_A", "")] :=
    makes_single read (by decide +kernel) rfl isEmpty
  refine ⟨makes, ?_, ?_⟩
  · intro name key makes
    have other : name ≠ "FOO" := by
      rintro rfl
      have isKey := (keyOfVariable?_eq_some_iff (by decide)).mpr makes
      cases isKey
    rw [List.lookup_nil, List.lookup_eq_none_iff]
    simpa using other
  · rintro ⟨settings, settings', isLoaded, isLoaded', same⟩
    rw [run_variablesWorkspace (by decide +kernel) makes] at isLoaded
    rw [run_variablesWorkspace (by decide +kernel) makesEmpty] at isLoaded'
    cases isLoaded
    cases isLoaded'
    have withFoo : (Settings.empty.append (.ofVariables [("FOO", "x"), ("ROUTEGEN_A", "x")])).lookup "routegen.a" =
        some (.text "x") := by rfl
    have without : (Settings.empty.append (.ofVariables [("ROUTEGEN_A", "")])).lookup "routegen.a" =
        some (.text "") := by rfl
    have differ := without.symm.trans ((same "routegen.a").trans withFoo)
    simp at differ

/-- An assignment to a name with small letters counts before a variable that makes a setting of the same key. -/
theorem small_letters_count :
    Makes [("ROUTEGEN_OUTPUT_DIR", "a")] "ROUTEGEN_output_dir=b\n" [("ROUTEGEN_output_dir", "b")] ∧
      IsAdmitted "ROUTEGEN_OUTPUT_DIR" ∧ MakesSetting "ROUTEGEN_OUTPUT_DIR" "routegen.output.dir" ∧
      ∃ settings, ((loadSettings none [("ROUTEGEN_OUTPUT_DIR", "a")] : StateM Workspace _).run
          (variablesWorkspace "ROUTEGEN_output_dir=b\n")).1.1 = .ok settings ∧
        settings.lookup "routegen.output.dir" = some (.text "b") := by
  have read : readStatement "ROUTEGEN_output_dir=b".toList =
      some (.assignment "ROUTEGEN_output_dir".toList "b".toList) := by rfl
  have isValue : readValue [("ROUTEGEN_OUTPUT_DIR", "a")] [] "b".toList = some "b".toList := by cbv
  have makes : Makes [("ROUTEGEN_OUTPUT_DIR", "a")] "ROUTEGEN_output_dir=b\n" [("ROUTEGEN_output_dir", "b")] :=
    makes_single read (by decide +kernel) rfl isValue
  have admitted : IsAdmitted "ROUTEGEN_OUTPUT_DIR" := by decide
  have isKey : MakesSetting "ROUTEGEN_OUTPUT_DIR" "routegen.output.dir" :=
    (keyOfVariable?_eq_some_iff admitted).mp (by decide +kernel)
  exact ⟨makes, admitted, isKey, _, run_variablesWorkspace (by decide +kernel) makes, by rfl⟩

/-- Two conditions on the file of variables cannot be left out. A value that mentions a variable takes its value, also
    if the variable makes no setting itself; and an assignment to a name with small letters counts before a variable
    that makes a setting of the same key. -/
theorem layers_crossed :
    (Makes [("FOO", "x")] "ROUTEGEN_A=$FOO\n" [("ROUTEGEN_A", "x")] ∧
      (∀ name key, MakesSetting name key → [("FOO", "x")].lookup name = [].lookup name) ∧
      ¬ LoadsSame (variablesWorkspace "ROUTEGEN_A=$FOO\n") none [("FOO", "x")] []) ∧
    Makes [("ROUTEGEN_OUTPUT_DIR", "a")] "ROUTEGEN_output_dir=b\n" [("ROUTEGEN_output_dir", "b")] ∧
      IsAdmitted "ROUTEGEN_OUTPUT_DIR" ∧ MakesSetting "ROUTEGEN_OUTPUT_DIR" "routegen.output.dir" ∧
      ∃ settings, ((loadSettings none [("ROUTEGEN_OUTPUT_DIR", "a")] : StateM Workspace _).run
          (variablesWorkspace "ROUTEGEN_output_dir=b\n")).1.1 = .ok settings ∧
        settings.lookup "routegen.output.dir" = some (.text "b") :=
  ⟨mention_counts, small_letters_count⟩

end

end RouteScribe.Settings
