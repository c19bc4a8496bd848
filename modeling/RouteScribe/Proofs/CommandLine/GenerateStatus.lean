/-
Module: RouteScribe.Proofs.CommandLine.GenerateStatus
Layer: Proofs
Purpose: The status with which a generation ends. It is one if a file could not be written or removed, except
  after a pass without artifacts, which ends with zero whatever was left undone.
Imports: Mathlib, RouteScribe.Proofs.CommandLine.Loading, RouteScribe.Proofs.Dump.WrittenTypes,
  RouteScribe.Proofs.Files.Attempts, RouteScribe.Proofs.Generation.OutputMirror
Trusted boundary: human-reviewed spec
Main exports: Pass.HasFailed, status_replyOfPass, generate_status
Open obligations: none
-/
import Mathlib
import RouteScribe.Proofs.CommandLine.Loading
import RouteScribe.Proofs.Dump.WrittenTypes
import RouteScribe.Proofs.Files.Attempts
import RouteScribe.Proofs.Generation.OutputMirror

namespace RouteScribe

/-- Whether a file could not be written or removed in a pass. -/
def Pass.HasFailed (pass : Pass) : Prop := ∃ d, .failed d ∈ pass.outcomes

/-- Options with the output directory that a command names, which counts before the one that is set. -/
def Options.into (o : Options) (outputDirectory : Option String) : Options :=
  { o with outputDirectory := outputDirectory.orElse fun _ => o.outputDirectory }

/-- `EndsWith done answer` says how a generation ends that is the pass `done`: the files are as the pass leaves them,
    and the status tells whether a file could not be written or removed, if there are artifacts. -/
structure EndsWith (done : Pass × Workspace) (answer : Reply × Workspace) : Prop where
  files : answer.2 = done.2
  failing : answer.1.status = 1 ↔ done.1.generation.artifacts ≠ [] ∧ done.1.HasFailed
  ending : answer.1.status = 0 ↔ done.1.generation.artifacts = [] ∨ ¬ done.1.HasFailed
  /-- That something failed is the same as that it is reported. -/
  reported : done.1.HasFailed ↔ ∃ d ∈ done.1.diagnostics, d.code = "RG100"

theorem Finding.isAboutFiles_iff (f : Finding) : f.isAboutFiles = true ↔ f.code = "RG100" := by
  cases f <;> simp [isAboutFiles, code]

theorem failureCount_pos (pass : Pass) : 0 < pass.failureCount ↔ ∃ d ∈ pass.diagnostics, d.code = "RG100" := by
  rw [Pass.failureCount, List.length_pos_iff_exists_mem]
  simp [List.mem_filter, Finding.isAboutFiles_iff, Diagnostic.code]

/-- Each failure of a pass has the code of failures. -/
theorem outcomes_runPass (p : Program) (o : Options) (w : Workspace) :
    ∃ outcomes w', (runPass p o : StateM Workspace Pass).run w = (⟨generate p o, outcomes⟩, w') ∧
      ∀ d, .failed d ∈ outcomes → d.code = "RG100" := by
  cases into : o.outputDirectory with
  | none =>
      refine ⟨[], w, ?_, nofun⟩
      rw [runPass, into]
      rfl
  | some directory =>
      obtain ⟨w', published, settles⟩ := w.publish_settles directory (nodup_kinds p o)
      let outcomes := (stepsFor (generate p o).artifacts).map
        ((w.readied directory (generate p o).artifacts).alone directory)
      refine ⟨outcomes, w', ?_, ?_⟩
      · rw [runPass, into]
        dsimp only
        rw [Workspace.run_bind, published]
        rfl
      · intro d mem
        obtain ⟨step, stepped, failed⟩ := List.mem_map.mp mem
        exact (settles.tells step stepped).code_eq (congrArg FileOutcome.diagnostic? failed)

/-- What failed in a pass is reported as a failure of the output, and nothing else is. -/
theorem hasFailed_runPass (p : Program) (o : Options) (w : Workspace) :
    ((runPass p o : StateM Workspace Pass).run w).1.HasFailed ↔
      ∃ d ∈ ((runPass p o : StateM Workspace Pass).run w).1.diagnostics, d.code = "RG100" := by
  obtain ⟨outcomes, w', run, failures⟩ := outcomes_runPass p o w
  rw [run]
  constructor
  · intro failed
    obtain ⟨d, mem⟩ := failed
    exact ⟨d, List.mem_append_right _ (List.mem_filterMap.mpr ⟨_, mem, rfl⟩), failures d mem⟩
  · intro reported
    obtain ⟨d, mem, code⟩ := reported
    rcases List.mem_append.mp mem with mem | mem
    · exact absurd code (code_ne_of_mem_scan mem)
    · obtain ⟨outcome, mem, failed⟩ := List.mem_filterMap.mp mem
      cases outcome with
      | failed d' => exact ⟨d', mem⟩
      | _ => simp [FileOutcome.diagnostic?] at failed

/-- The answer to a pass without artifacts is given before the failures are counted. -/
theorem status_replyOfPass (c : Console) (pass : Pass) :
    (CommandLine.replyOfPass c pass).status =
      if pass.generation.artifacts ≠ [] ∧ 0 < pass.failureCount then 1 else 0 := by
  rw [CommandLine.replyOfPass]
  cases pass.generation.artifacts with
  | nil => rfl
  | cons a artifacts =>
      by_cases failed : 0 < pass.failureCount
      · simp [failed, CommandLine.failure]
      · cases pass.written.isEmpty <;> simp [failed]

section

variable {arguments : List String} {input : String} {outputDirectory settingsFile : Option String}
  {environment : Variables} {w : Workspace} {program : Program} {options : Options}

/-- A generation whose inputs load is one pass over the files as they are, and the answer to it. -/
theorem run_generate (isTerminal : Bool)
    (asked : Request.ofArguments arguments = .ok (.run (.generate input outputDirectory settingsFile)))
    (loaded : ((loadInputs input settingsFile environment : StateM Workspace Inputs).run w).1.result =
      .ok (program, options)) :
    let done := (runPass program (options.into outputDirectory) : StateM Workspace Pass).run w
    let answer := (CommandLine.run isTerminal environment arguments : StateM Workspace Reply).run w
    answer.2 = done.2 ∧ ∃ console, answer.1.status = (CommandLine.replyOfPass console done.1).status := by
  intro done answer
  have started : (loadInputs input settingsFile environment : StateM Workspace Inputs).run w =
      (((loadInputs input settingsFile environment : StateM Workspace Inputs).run w).1, w) :=
    Prod.ext rfl (readOnly_loadInputs input settingsFile environment w)
  generalize ((loadInputs input settingsFile environment : StateM Workspace Inputs).run w).1 = inputs at started loaded
  have generated : (runGenerate inputs outputDirectory : StateM Workspace _).run w = (.ok done.1, done.2) := by
    rw [runGenerate, loaded]
    rfl
  have answered : ∃ console, answer = (CommandLine.logged console (inputs.events ++ LogEvent.ofPass done.1)
      (CommandLine.replyOfPass console done.1), done.2) := by
    simp only [answer, CommandLine.run, asked, CommandLine.runCommand]
    rw [Workspace.run_bind, started]
    dsimp only
    rw [Workspace.run_bind, generated]
    exact ⟨_, rfl⟩
  obtain ⟨console, answered⟩ := answered
  rw [answered]
  exact ⟨rfl, console, rfl⟩

/-- The status of a generation whose inputs load: one if there are artifacts and a file could not be written or
    removed, and zero otherwise. -/
theorem generate_status (isTerminal : Bool)
    (asked : Request.ofArguments arguments = .ok (.run (.generate input outputDirectory settingsFile)))
    (loaded : ((loadInputs input settingsFile environment : StateM Workspace Inputs).run w).1.result =
      .ok (program, options)) :
    EndsWith ((runPass program (options.into outputDirectory) : StateM Workspace Pass).run w)
      ((CommandLine.run isTerminal environment arguments : StateM Workspace Reply).run w) := by
  let done := (runPass program (options.into outputDirectory) : StateM Workspace Pass).run w
  let answer := (CommandLine.run isTerminal environment arguments : StateM Workspace Reply).run w
  have reported : done.1.HasFailed ↔ ∃ d ∈ done.1.diagnostics, d.code = "RG100" := hasFailed_runPass ..
  have counted : 0 < done.1.failureCount ↔ done.1.HasFailed := (failureCount_pos done.1).trans reported.symm
  obtain ⟨after, console, status⟩ := run_generate isTerminal asked loaded
  replace status : answer.1.status = _ := status.trans (status_replyOfPass console done.1)
  constructor
  case files => exact after
  case failing =>
      rw [status, ← counted]
      split
      case isTrue failing => exact iff_of_true rfl failing
      case isFalse fine => exact iff_of_false (by decide) fine
  case ending =>
      have fine : done.1.generation.artifacts = [] ∨ ¬ done.1.HasFailed ↔
          ¬ (done.1.generation.artifacts ≠ [] ∧ 0 < done.1.failureCount) := by
        rw [counted, not_and_or, not_not]
      rw [status, fine]
      split
      case isTrue failing => exact iff_of_false (by decide) (not_not_intro failing)
      case isFalse fine => exact iff_of_true rfl fine
  case reported => exact reported

end

/-- A dump in a file, and a directory where the file of the groups is to go. -/
def blockedWorkspace (dump : String) : Workspace where
  entries := [(["d.json"], .file dump), (["out"], .directory), (["out", "route_groups.rs"], .directory)]

/-- There are no settings beside the dump. -/
theorem loaded_blockedWorkspace {dump : String} {program : Program} (parsed : DumpFormat.json.read dump = .ok program) :
    ((loadInputs "d.json" none [] : StateM Workspace Inputs).run (blockedWorkspace dump)).1.result =
      .ok (program, .standard) := by
  have known : ((extendVariables [] : StateM Workspace _).run (blockedWorkspace dump)).1 = [] := by cbv
  rw [result_loadInputs rfl (by decide +kernel) parsed, loadSettings_none rfl, known]
  rfl

/-- The arguments of a generation into a directory. -/
def generateArguments : List String := ["generate", "d.json", "--out-dir", "out"]

theorem asked_generateArguments :
    Request.ofArguments generateArguments = .ok (.run (.generate "d.json" (some "out") none)) := by
  decide +kernel

/-- A dump of one group without routes. -/
def loneDump : String :=
  "\x7b\"types\":[\x7b\"path\":\"a::B\",\"attributes\":[\x7b\"name\":\"routegen::RouteGroup\"\x7d]\x7d]\x7d"

set_option maxRecDepth 4000 in
theorem read_loneDump : DumpFormat.json.read loneDump = .ok loneGroup := by
  apply DumpFormat.read_json
  case reads =>
    delta loneDump
    simp only [String.reduceToList]
    repeat first
      | exact Json.ReadsText.close
      | apply Json.ReadsText.char (by decide)
      | exact Json.ReadsItems.close
      | exact Json.ReadsMembers.close
      | apply Json.ReadsValue.text
      | apply Json.ReadsValue.list
      | apply Json.ReadsValue.object
      | apply Json.ReadsItems.item
      | apply Json.ReadsMembers.member
      | apply Json.ReadsItems.first (by decide) (by decide)
      | apply Json.ReadsMembers.first (by decide) (by decide)
      | apply Json.ReadsMembers.next (by decide) (by decide)
  case returns => cbv

/-- The directory is in the way of an artifact, and the generation fails. -/
theorem generate_status_blocked :
    EndsWith ((runPass loneGroup (Options.standard.into (some "out")) : StateM Workspace Pass).run
        (blockedWorkspace loneDump))
      ((CommandLine.run false [] generateArguments : StateM Workspace Reply).run (blockedWorkspace loneDump)) ∧
      ((CommandLine.run false [] generateArguments : StateM Workspace Reply).run
        (blockedWorkspace loneDump)).1.status = 1 := by
  have ends := generate_status false asked_generateArguments (loaded_blockedWorkspace read_loneDump)
  refine ⟨ends, ?_⟩
  apply ends.failing.mpr
  have failed : ∃ d ∈ ((runPass loneGroup (Options.standard.into (some "out")) : StateM Workspace Pass).run
      (blockedWorkspace loneDump)).1.diagnostics, d.code = "RG100" := by
    decide +kernel
  constructor
  · decide +kernel
  · exact ends.reported.mpr failed

/-- A dump without declarations. -/
def emptyDump : String := "\x7b\"types\":[]\x7d"

theorem read_emptyDump : DumpFormat.json.read emptyDump = .ok (.ofDeclarations []) := by
  apply DumpFormat.read_json
  case reads =>
    delta emptyDump
    simp only [String.reduceToList]
    apply Json.ReadsValue.object
    apply Json.ReadsMembers.first (by decide) (by decide)
    apply Json.ReadsMembers.member
    · iterate 5 apply Json.ReadsText.char (by decide)
      exact Json.ReadsText.close
    · exact Json.ReadsValue.list Json.ReadsItems.close
    · exact Json.ReadsMembers.close
  case returns => cbv

/-- The same directory is in the way of a removal when nothing is produced. The failure is reported, and the
    generation ends as if there had been none. -/
theorem failed_removal_ends_well :
    ((loadInputs "d.json" none [] : StateM Workspace Inputs).run (blockedWorkspace emptyDump)).1.result =
        .ok (.ofDeclarations [], .standard) ∧
      (∃ d ∈ ((runPass (.ofDeclarations []) (Options.standard.into (some "out")) : StateM Workspace Pass).run
        (blockedWorkspace emptyDump)).1.diagnostics, d.code = "RG100") ∧
      ¬ ((CommandLine.run false [] generateArguments : StateM Workspace Reply).run
        (blockedWorkspace emptyDump)).1.status = 1 := by
  have loaded := loaded_blockedWorkspace read_emptyDump
  obtain ⟨-, console, status⟩ := run_generate false asked_generateArguments loaded
  refine ⟨loaded, ?_, ?_⟩
  · decide +kernel
  · intro failing
    have nothing : ((runPass (.ofDeclarations []) (Options.standard.into (some "out")) : StateM Workspace Pass).run
        (blockedWorkspace emptyDump)).1.generation.artifacts = [] := by
      decide +kernel
    rw [status, status_replyOfPass, if_neg fun produced => produced.1 nothing] at failing
    simp at failing

end RouteScribe
