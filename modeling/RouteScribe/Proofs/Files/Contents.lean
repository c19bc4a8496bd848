/-
Module: RouteScribe.Proofs.Files.Contents
Layer: Proofs
Purpose: What the operations on a workspace do, told by what is found where. Putting and erasing change one
  place; making directories adds directories where there was nothing, after which the path leads to one.
Imports: Mathlib.Logic.Function.Basic, RouteScribe.Files.Workspace
Trusted boundary: human-reviewed spec
Main exports: Workspace.get?_put, Workspace.get?_erase, Workspace.GrowsTo, Workspace.LeadsTo,
  Workspace.growsTo_makeDirectories, Workspace.leadsTo_makeDirectories, Workspace.LeadsTo.makeDirectories_eq,
  Workspace.makeDirectories_again
Open obligations: none
-/
import Mathlib.Logic.Function.Basic
import RouteScribe.Files.Workspace

namespace RouteScribe.Workspace

variable {w w' : Workspace} {here there names : List String} {path : String}

/-!
### One place
-/

theorem get?_of_ne_nil (w : Workspace) (below : names ≠ []) :
    w.get? names = (w.entries.find? (·.1 == names)).map (·.2) := by
  rw [get?, if_neg (by simpa using below)]

theorem get?_erase (w : Workspace) (below : names ≠ []) :
    (w.erase names).get? = Function.update w.get? names none := by
  funext place
  by_cases same : place = names
  · rw [same, Function.update_self, get?_of_ne_nil _ below]
    simp [erase]
  · rw [Function.update_of_ne same]
    have kept : (w.entries.filter (·.1 != names)).find? (·.1 == place) = w.entries.find? (·.1 == place) := by
      rw [List.find?_filter]
      congr 1
      funext entry
      by_cases there : entry.1 = place <;> simp [there, same]
    rw [get?, get?, erase, kept]

theorem get?_put (w : Workspace) (below : names ≠ []) (entry : Entry) :
    (w.put names entry).get? = Function.update w.get? names (some entry) := by
  funext place
  have erased := congrFun (w.get?_erase below) place
  by_cases same : place = names
  · rw [same, Function.update_self, get?_of_ne_nil _ below, Option.map_eq_none_iff] at erased
    rw [same, Function.update_self, get?_of_ne_nil _ below]
    simp [put, List.find?_append, erased]
  · rw [Function.update_of_ne same] at erased ⊢
    have other : names ≠ place := Ne.symm same
    rw [← erased, get?, get?]
    simp [put, List.find?_append, other]

/-- Nothing is erased from a free place. -/
theorem erase_eq_self (free : w.get? names = none) (below : names ≠ []) : w.erase names = w := by
  rw [get?_of_ne_nil w below, Option.map_eq_none_iff, List.find?_eq_none] at free
  have kept : w.entries.filter (·.1 != names) = w.entries := by
    apply List.filter_eq_self.mpr
    intro entry mem
    simpa using free entry mem
  rw [erase, kept]

/-- What is put in a free place and erased again was never there. -/
theorem erase_put (free : w.get? names = none) (below : names ≠ []) (entry : Entry) :
    (w.put names entry).erase names = w := by
  have twice : (w.put names entry).erase names = (w.erase names).erase names := by simp [put, erase]
  have again : (w.erase names).get? names = none := by rw [w.get?_erase below, Function.update_self]
  rw [twice, erase_eq_self again below, erase_eq_self free below]

/-- A directory can be entered. -/
theorem directoryFault?_eq_none : w.directoryFault? names = none ↔ w.get? names = some .directory := by
  rw [directoryFault?]
  split <;> simp_all

/-!
### Paths that lead to directories
-/

/-- A path that cannot be is not one at which nothing is found. -/
theorem pathFault?_ne_missing (path : String) : pathFault? path ≠ some .missing := by
  intro fault
  rw [pathFault?] at fault
  split at fault
  · simp at fault
  · split at fault <;> simp at fault

theorem follow_append (w : Workspace) (here names rest : List String) :
    w.follow here (names ++ rest) = (w.follow here names).bind fun there => w.follow there rest := by
  induction names generalizing here with
  | nil => rfl
  | cons name names ih =>
      rw [List.cons_append, follow, follow]
      cases w.directoryFault? here with
      | some fault => rfl
      | none =>
          cases step here name with
          | error fault => rfl
          | ok there => exact ih there

theorem follow_cons_eq_ok {name : String} :
    w.follow here (name :: names) = .ok there ↔
      w.get? here = some .directory ∧ ∃ next, step here name = .ok next ∧ w.follow next names = .ok there := by
  rw [follow, ← directoryFault?_eq_none]
  cases w.directoryFault? here with
  | some fault => simp
  | none => cases step here name <;> simp

/-- A row of names is followed in the same way where there are the same directories, or more. -/
theorem follow_of_directories (kept : ∀ names, w.get? names = some .directory → w'.get? names = some .directory)
    (followed : w.follow here names = .ok there) : w'.follow here names = .ok there := by
  induction names generalizing here with
  | nil => exact followed
  | cons name names ih =>
      obtain ⟨entered, next, step, followed⟩ := follow_cons_eq_ok.mp followed
      exact follow_cons_eq_ok.mpr ⟨kept here entered, next, step, ih followed⟩

/-- What is followed to a directory starts at one. -/
theorem directory_of_follow (followed : w.follow here names = .ok there) (ends : w.get? there = some .directory) :
    w.get? here = some .directory := by
  cases names with
  | nil =>
      obtain rfl : here = there := by simpa [follow] using followed
      exact ends
  | cons name names => exact (follow_cons_eq_ok.mp followed).1

/-- `w.LeadsTo path names` says that a path is that of a directory, which is at the end of `names`. -/
structure LeadsTo (w : Workspace) (path : String) (names : List String) : Prop where
  located : w.locate path = .ok names
  found : w.get? names = some .directory

namespace LeadsTo

theorem pathFault?_eq_none (leads : w.LeadsTo path names) : pathFault? path = none := by
  have located := leads.located
  rw [locate] at located
  cases fault : pathFault? path with
  | some fault => simp [fault] at located
  | none => rfl

theorem follow_eq (leads : w.LeadsTo path names) :
    w.follow (w.startOf path) (PathText.components path) = .ok names := by
  have located := leads.located
  rwa [locate, leads.pathFault?_eq_none] at located

end LeadsTo

/-!
### Making directories
-/

/-- `w.GrowsTo made` says that `made` has directories where `w` has nothing, and is the same everywhere
    else. -/
structure GrowsTo (w made : Workspace) : Prop where
  workingDirectory : made.workingDirectory = w.workingDirectory
  get? : ∀ names, made.get? names = w.get? names ∨ w.get? names = none ∧ made.get? names = some .directory

namespace GrowsTo

theorem refl (w : Workspace) : w.GrowsTo w := ⟨rfl, fun _ => .inl rfl⟩

theorem trans {w'' : Workspace} (first : w.GrowsTo w') (second : w'.GrowsTo w'') : w.GrowsTo w'' where
  workingDirectory := second.workingDirectory.trans first.workingDirectory
  get? := by
    intro names
    rcases second.get? names with same | ⟨none, made⟩
    · rw [same]
      exact first.get? names
    · rcases first.get? names with same | ⟨_, made'⟩
      · exact .inr ⟨same ▸ none, made⟩
      · simp [made'] at none

/-- What is missing when all directories are made was missing before. -/
theorem follow_missing (grows : w.GrowsTo w') (missing : w'.follow here names = .error .missing) :
    w.follow here names = .error .missing := by
  induction names generalizing here with
  | nil => simp [Workspace.follow] at missing
  | cons name names ih =>
      rcases grows.get? here with same | ⟨none, -⟩
      · have fault : w'.directoryFault? here = w.directoryFault? here := by rw [directoryFault?, directoryFault?, same]
        rw [Workspace.follow, fault] at missing
        rw [Workspace.follow]
        revert missing
        cases w.directoryFault? here with
        | some fault => exact id
        | none =>
            cases step here name with
            | error fault => exact id
            | ok there => exact ih
      · rw [Workspace.follow, directoryFault?, none]

/-- A directory stays where it is. -/
theorem directory (grows : w.GrowsTo w') (found : w.get? names = some .directory) :
    w'.get? names = some .directory := by
  rcases grows.get? names with same | ⟨none, made⟩
  · rw [same, found]
  · exact made

/-- What can be followed when all directories are made could be followed before, to the same end, or a
    directory was missing. -/
theorem follow (grows : w.GrowsTo w') (followed : w'.follow here names = .ok there) :
    w.follow here names = .ok there ∨ w.follow here names = .error .missing := by
  induction names generalizing here with
  | nil => exact .inl followed
  | cons name names ih =>
      obtain ⟨entered, next, step, followed⟩ := follow_cons_eq_ok.mp followed
      rcases grows.get? here with same | ⟨none, -⟩
      · rw [Workspace.follow, directoryFault?_eq_none.mpr (same ▸ entered), step]
        exact ih followed
      · refine .inr ?_
        rw [Workspace.follow, directoryFault?, none]

theorem startOf_eq (grows : w.GrowsTo w') (path : String) : w'.startOf path = w.startOf path := by
  rw [startOf, startOf, grows.workingDirectory]

/-- Where a path leads, it still leads when directories are made. -/
theorem locate_eq {place : List String} (grows : w.GrowsTo w') (located : w.locate path = .ok place) :
    w'.locate path = .ok place := by
  rw [locate] at located ⊢
  cases fault : pathFault? path with
  | some fault => simp [fault] at located
  | none =>
      rw [fault] at located
      rw [grows.startOf_eq]
      exact follow_of_directories (fun _ => grows.directory) located

/-- What is not found when directories are made was not found before. -/
theorem lookup_missing (grows : w.GrowsTo w') (missing : w'.lookup path = .error .missing) :
    w.lookup path = .error .missing := by
  rw [lookup, locate] at missing ⊢
  split
  case isTrue => rfl
  case isFalse filled =>
      rw [if_neg filled, grows.startOf_eq] at missing
      cases fault : pathFault? path with
      | some fault =>
          rw [fault] at missing
          exact missing
      | none =>
          rw [fault] at missing
          cases followed : w'.follow (w.startOf path) (PathText.components path) with
          | error fault =>
              rw [followed] at missing
              obtain rfl := Except.error.inj missing
              rw [grows.follow_missing followed]
          | ok place =>
              rw [followed] at missing
              have free : w'.get? place = none := by
                cases found : w'.get? place with
                | none => rfl
                | some entry =>
                    cases entry with
                    | directory => simp [found] at missing
                    | file text =>
                        simp only [found] at missing
                        split at missing <;> simp at missing
              have freeBefore : w.get? place = none := by
                rcases grows.get? place with same | ⟨none, -⟩
                · rw [← same, free]
                · exact none
              rcases grows.follow followed with followed | followed <;> simp [followed, freeBefore]

end GrowsTo

/-- The root is always there. -/
theorem ne_nil_of_none (free : w.get? names = none) : names ≠ [] := by
  rintro rfl
  simp [get?] at free

theorem growsTo_put (free : w.get? names = none) : w.GrowsTo (w.put names .directory) where
  workingDirectory := rfl
  get? := by
    intro place
    rw [w.get?_put (ne_nil_of_none free)]
    by_cases same : place = names
    · rw [same, Function.update_self]
      exact .inr ⟨free, rfl⟩
    · rw [Function.update_of_ne same]
      exact .inl rfl

theorem growsTo_makeAlong (w : Workspace) (here names : List String) : w.GrowsTo (w.makeAlong here names).1 := by
  induction names generalizing w here with
  | nil => exact .refl w
  | cons name names ih =>
      rw [makeAlong]
      cases step here name with
      | error fault => exact .refl w
      | ok there =>
          dsimp only
          split
          case h_1 => exact ih w there
          case h_2 => exact .refl w
          case h_3 free => exact (growsTo_put free).trans (ih _ there)

/-- The first of the directories is made, if it is not there, and the rest behind it. -/
theorem makeAlong_cons_eq_ok {name : String} (made : w.makeAlong here (name :: names) = (w', .ok ())) :
    ∃ next first, step here name = .ok next ∧ w.GrowsTo first ∧ first.get? next = some .directory ∧
      first.makeAlong next names = (w', .ok ()) := by
  rw [makeAlong] at made
  split at made
  case h_1 => simp at made
  case h_2 next step =>
      split at made
      case h_1 found => exact ⟨next, w, step, .refl w, found, made⟩
      case h_2 => simp at made
      case h_3 free =>
          refine ⟨next, w.put next .directory, step, growsTo_put free, ?_, made⟩
          rw [w.get?_put (ne_nil_of_none free), Function.update_self]

/-- The directories that are made are where the names lead. -/
theorem follow_makeAlong (start : w.get? here = some .directory) (made : w.makeAlong here names = (w', .ok ())) :
    ∃ there, w'.follow here names = .ok there ∧ w'.get? there = some .directory := by
  induction names generalizing w here with
  | nil =>
      obtain rfl : w = w' := by simpa [makeAlong] using made
      exact ⟨here, rfl, start⟩
  | cons name names ih =>
      -- the directories made later do not block the way to the first one
      have grows := w.growsTo_makeAlong here (name :: names)
      rw [made] at grows
      obtain ⟨next, first, step, -, found, made⟩ := makeAlong_cons_eq_ok made
      obtain ⟨there, followed, ends⟩ := ih found made
      exact ⟨there, follow_cons_eq_ok.mpr ⟨grows.directory start, next, step, followed⟩, ends⟩

/-- Where the names lead to a directory already, nothing is made. -/
theorem makeAlong_eq_self (followed : w.follow here names = .ok there) (ends : w.get? there = some .directory) :
    w.makeAlong here names = (w, .ok ()) := by
  induction names generalizing here with
  | nil => rfl
  | cons name names ih =>
      obtain ⟨-, next, step, followed⟩ := follow_cons_eq_ok.mp followed
      simp only [makeAlong, step, directory_of_follow followed ends]
      exact ih followed

theorem growsTo_makeDirectories (w : Workspace) (path : String) : w.GrowsTo (w.makeDirectories path).1 := by
  rw [makeDirectories]
  split
  case h_1 => exact .refl w
  case h_2 =>
      split
      case isFalse => exact w.growsTo_makeAlong _ _
      case isTrue =>
          have grows := w.growsTo_makeAlong (w.startOf path) (PathText.components path).dropLast
          cases made : w.makeAlong (w.startOf path) (PathText.components path).dropLast with
          | mk made result =>
              rw [made] at grows
              cases result with
              | error fault => exact grows
              | ok =>
                  dsimp only
                  split
                  · exact grows
                  · split <;> exact grows

/-- A directory that has been made is where its path leads. -/
theorem leadsTo_makeDirectories (working : w.get? w.workingDirectory = some .directory)
    (made : w.makeDirectories path = (w', .ok ())) : ∃ names, w'.LeadsTo path names := by
  have grows := w.growsTo_makeDirectories path
  rw [made] at grows
  have start := grows.startOf_eq path
  have entered : w.get? (w.startOf path) = some .directory := by
    rw [startOf]
    split
    · rfl
    · exact working
  have followed : pathFault? path = none ∧
      ∃ names, w'.follow (w.startOf path) (PathText.components path) = .ok names ∧
        w'.get? names = some .directory := by
    rw [makeDirectories] at made
    split at made
    case h_1 => simp at made
    case h_2 sound =>
        refine ⟨sound, ?_⟩
        split at made
        case isFalse => exact follow_makeAlong entered made
        -- the last directory is only looked up, so it has to be where the names lead
        case isTrue =>
            split at made
            case h_1 => simp at made
            case h_2 =>
                split at made
                case h_1 => simp at made
                case h_2 names followed =>
                    split at made
                    case h_1 => simp at made
                    case h_2 found =>
                        obtain rfl := (Prod.mk.inj made).1
                        exact ⟨names, followed, directoryFault?_eq_none.mp found⟩
  obtain ⟨sound, names, followed, ends⟩ := followed
  refine ⟨names, ?_, ends⟩
  rw [locate, sound, start]
  exact followed

/-- The row of names without the last one leads to a directory as well. -/
theorem follow_dropLast (followed : w.follow here names = .ok there) (ends : w.get? there = some .directory) :
    ∃ above, w.follow here names.dropLast = .ok above ∧ w.get? above = some .directory := by
  rcases List.eq_nil_or_concat names with rfl | ⟨init, last, rfl⟩
  · exact ⟨there, followed, ends⟩
  · rw [List.concat_eq_append, follow_append] at followed
    rw [List.concat_eq_append, List.dropLast_concat]
    cases above : w.follow here init with
    | error fault => simp [above, Except.bind] at followed
    | ok above =>
        rw [above] at followed
        exact ⟨_, rfl, (follow_cons_eq_ok.mp followed).1⟩

/-- Where a directory is there already, nothing is made. -/
theorem LeadsTo.makeDirectories_eq (leads : w.LeadsTo path names) : w.makeDirectories path = (w, .ok ()) := by
  have followed := leads.follow_eq
  rw [makeDirectories, leads.pathFault?_eq_none]
  dsimp only
  split
  case isFalse => exact makeAlong_eq_self followed leads.found
  case isTrue =>
      obtain ⟨there, above, ends⟩ := follow_dropLast followed leads.found
      simp only [makeAlong_eq_self above ends, followed, directoryFault?_eq_none.mpr leads.found]

/-!
### Making directories again
-/

theorem makeAlong_again (w : Workspace) (here names : List String) :
    (w.makeAlong here names).1.makeAlong here names = w.makeAlong here names := by
  induction names generalizing w here with
  | nil => rfl
  | cons name names ih =>
      cases step : step here name with
      | error fault => simp only [makeAlong, step]
      | ok there =>
          -- a directory that is there already, or is now put there, is there the second time
          have passed (first : Workspace) (found : first.get? there = some .directory) :
              (first.makeAlong there names).1.makeAlong here (name :: names) = first.makeAlong there names := by
            have kept := (first.growsTo_makeAlong there names).directory found
            simp only [makeAlong, step, kept]
            exact ih first there
          cases found : w.get? there with
          | none =>
              have put : (w.put there .directory).get? there = some .directory := by
                rw [w.get?_put (ne_nil_of_none found), Function.update_self]
              have made : w.makeAlong here (name :: names) = (w.put there .directory).makeAlong there names := by
                simp only [makeAlong, step, found]
              rw [made]
              exact passed _ put
          | some entry =>
              cases entry with
              | directory =>
                  have made : w.makeAlong here (name :: names) = w.makeAlong there names := by
                    simp only [makeAlong, step, found]
                  rw [made]
                  exact passed w found
              | file text => simp only [makeAlong, step, found]

/-- A directory that is made a second time is made or not made as it was the first time, and nothing changes. -/
theorem makeDirectories_again (w : Workspace) (path : String) :
    (w.makeDirectories path).1.makeDirectories path = w.makeDirectories path := by
  have grows := w.growsTo_makeDirectories path
  have start := grows.startOf_eq path
  have again := w.makeAlong_again (w.startOf path) (PathText.components path).dropLast
  rw [makeDirectories, start]
  unfold makeDirectories
  cases pathFault? path with
  | some fault => rfl
  | none =>
      dsimp only
      split
      case isFalse => exact w.makeAlong_again _ _
      case isTrue =>
          generalize w.makeAlong (w.startOf path) (PathText.components path).dropLast = first at again ⊢
          obtain ⟨made, result⟩ := first
          cases result with
          | error fault =>
              dsimp only at again ⊢
              rw [again]
          | ok =>
              dsimp only at again ⊢
              cases followed : made.follow (w.startOf path) (PathText.components path) with
              | error fault =>
                  dsimp only
                  rw [again]
                  simp only [followed]
              | ok there =>
                  dsimp only
                  cases found : made.directoryFault? there <;> dsimp only <;> rw [again] <;>
                    simp only [followed, found]

end RouteScribe.Workspace
