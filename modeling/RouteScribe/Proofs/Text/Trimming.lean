/-
Module: RouteScribe.Proofs.Text.Trimming
Layer: Proofs
Purpose: Texts that differ in what is cut off at their ends are cut to the same text. What a cut text starts and ends
  with is never cut off, so a text of this kind is left as it is.
Imports: Mathlib.Data.List.TakeWhile, RouteScribe.Text.Blank
Trusted boundary: none
Main exports: Text.dropStart_padded, Text.dropEnds_padded, Text.dropEnds_eq_self, Text.trim_padded
Open obligations: none
-/
import Mathlib.Data.List.TakeWhile
import RouteScribe.Text.Blank

namespace RouteScribe.Text

variable {p : Char → Bool} {cs before behind : List Char}

/-- What is cut off at the start may stand there or not. -/
theorem dropStart_padded (padding : ∀ c ∈ before, p c = true) : dropStart p (before ++ cs) = dropStart p cs :=
  List.dropWhile_append_of_pos padding

theorem dropEnd_padded (padding : ∀ c ∈ behind, p c = true) : dropEnd p (cs ++ behind) = dropEnd p cs := by
  have reversed : ∀ c ∈ behind.reverse, p c = true := fun c mem => padding c (List.mem_reverse.mp mem)
  rw [dropEnd, List.reverse_append, List.dropWhile_append_of_pos reversed, dropEnd]

/-- What is cut off at an end may stand there or not. -/
theorem dropEnds_padded (padding : ∀ c ∈ before, p c = true) (padding' : ∀ c ∈ behind, p c = true) :
    dropEnd p (dropStart p (before ++ cs ++ behind)) = dropEnd p (dropStart p cs) := by
  rw [List.append_assoc, dropStart_padded padding, dropStart, List.dropWhile_append]
  split
  · rename_i nothing
    -- nothing is left of the text, and nothing of what stands behind it
    rw [List.dropWhile_eq_nil_iff.mpr padding', dropStart, List.isEmpty_iff.mp nothing]
  · exact dropEnd_padded padding'

theorem dropStart_eq_self (first : ∀ c ∈ cs.head?, p c = false) : dropStart p cs = cs := by
  cases cs with
  | nil => rfl
  | cons c cs => exact List.dropWhile_cons_of_neg (Bool.not_eq_true _ ▸ first c rfl)

theorem dropEnd_eq_self (last : ∀ c ∈ cs.getLast?, p c = false) : dropEnd p cs = cs := by
  have reversed : dropStart p cs.reverse = cs.reverse := dropStart_eq_self (by rwa [List.head?_reverse])
  rw [dropEnd, ← dropStart, reversed, List.reverse_reverse]

/-- A text with nothing to cut off at its ends stays as it is. -/
theorem dropEnds_eq_self (first : ∀ c ∈ cs.head?, p c = false) (last : ∀ c ∈ cs.getLast?, p c = false) :
    dropEnd p (dropStart p cs) = cs := by
  rw [dropStart_eq_self first, dropEnd_eq_self last]

/-- White space around a text does not count. -/
theorem trim_padded {s : String} (padding : ∀ c ∈ before, isBlank c = true)
    (padding' : ∀ c ∈ behind, isBlank c = true) (first : ∀ c ∈ s.toList.head?, isBlank c = false)
    (last : ∀ c ∈ s.toList.getLast?, isBlank c = false) :
    trim (String.ofList (before ++ s.toList ++ behind)) = s := by
  rw [trim, String.toList_ofList, dropEnds_padded padding padding', dropEnds_eq_self first last,
    String.ofList_toList]

end RouteScribe.Text
