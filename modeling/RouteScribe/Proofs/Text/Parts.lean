/-
Module: RouteScribe.Proofs.Text.Parts
Layer: Proofs
Purpose: A text that is put together from parts, with a character between them that they do not have, is cut into
  these parts again.
Imports: RouteScribe.Text.Split
Trusted boundary: none
Main exports: Text.splitAt_append_cons, Text.splitAt_intercalate, Text.parts_intercalate
Open obligations: none
-/
import RouteScribe.Text.Split

namespace RouteScribe.Text

variable {separator : Char}

theorem splitAt_ne_nil (cs : List Char) : splitAt separator cs ≠ [] := by
  induction cs with
  | nil => simp [splitAt]
  | cons c cs ih =>
      rw [splitAt]
      split
      · simp
      · split <;> simp

/-- A text is cut at a separator into the parts before it and those behind it. -/
theorem splitAt_append_cons (cs ds : List Char) :
    splitAt separator (cs ++ separator :: ds) = splitAt separator cs ++ splitAt separator ds := by
  induction cs with
  | nil => simp [splitAt]
  | cons c cs ih =>
      rw [List.cons_append, splitAt, splitAt]
      split
      · rw [ih, List.cons_append]
      · rw [ih]
        cases parts : splitAt separator cs with
        | nil => exact absurd parts (splitAt_ne_nil cs)
        | cons part rest => rfl

theorem splitAt_eq_singleton {cs : List Char} (whole : separator ∉ cs) : splitAt separator cs = [cs] := by
  induction cs with
  | nil => rfl
  | cons c cs ih =>
      obtain ⟨other, whole⟩ := List.ne_and_not_mem_of_not_mem_cons whole
      rw [splitAt, if_neg (Ne.symm other), ih whole]

theorem splitAt_intercalate {parts : List (List Char)} (whole : ∀ part ∈ parts, separator ∉ part)
    (nonempty : parts ≠ []) : splitAt separator ([separator].intercalate parts) = parts := by
  induction parts with
  | nil => exact absurd rfl nonempty
  | cons part parts ih =>
      obtain ⟨first, rest⟩ := List.forall_mem_cons.mp whole
      cases parts with
      | nil => rw [List.intercalate_singleton, splitAt_eq_singleton first]
      | cons next parts =>
          rw [List.intercalate_cons_cons, List.append_assoc, List.singleton_append, splitAt_append_cons,
            splitAt_eq_singleton first, ih rest (List.cons_ne_nil next parts), List.singleton_append]

/-- The parts of a text that has been put together from parts are these, if no part has the separator. -/
theorem parts_intercalate {texts : List String} (whole : ∀ text ∈ texts, separator ∉ text.toList)
    (nonempty : texts ≠ []) : parts separator ((String.singleton separator).intercalate texts) = texts := by
  have whole : ∀ part ∈ texts.map String.toList, separator ∉ part := by
    simpa only [List.forall_mem_map] using whole
  rw [parts, String.toList_intercalate, String.toList_singleton,
    splitAt_intercalate whole (by simpa using nonempty), List.map_map]
  exact (List.map_congr_left fun text _ => String.ofList_toList).trans (List.map_id texts)

end RouteScribe.Text
