/-
Module: RouteScribe.Proofs.Text.Words
Layer: Proofs
Purpose: Words and the characters that end them. A text starts with one word only, up to the first character that ends
  it, so what was written as a word in front of such a character is read again.
Imports: Mathlib.Data.List.Basic
Trusted boundary: none
Main exports: Text.IsWord, Text.IsWord.of_all, Text.IsWord.append_inj, Text.IsWord.cons_inj
Open obligations: none
-/
import Mathlib.Data.List.Basic

namespace RouteScribe.Text

/-- Whether a text has none of the characters that end a word. -/
def IsWord (stops cs : List Char) : Prop := ∀ c ∈ cs, c ∉ stops

namespace IsWord

variable {stops cs cs' rest rest' : List Char} {c c' : Char}

theorem nil : IsWord stops [] := nofun

theorem append (word : IsWord stops cs) (word' : IsWord stops cs') : IsWord stops (cs ++ cs') :=
  List.forall_mem_append.mpr ⟨word, word'⟩

/-- A text of characters of one kind is a word if no character of this kind ends one. -/
theorem of_all {part : Char → Bool} (parts : cs.all part = true) (apart : stops.all (fun c => !part c) = true) :
    IsWord stops cs := by
  intro c mem stop
  have notPart := List.all_eq_true.mp apart c stop
  rw [List.all_eq_true.mp parts c mem] at notPart
  cases notPart

theorem takeWhile_append (word : IsWord stops cs) (stop : ∀ c ∈ rest.head?, c ∈ stops) :
    (cs ++ rest).takeWhile (fun c => decide (c ∉ stops)) = cs := by
  rw [List.takeWhile_append_of_pos fun c mem => decide_eq_true (word c mem)]
  cases rest with
  | nil => rw [List.takeWhile_nil, List.append_nil]
  | cons c rest => rw [List.takeWhile_cons_of_neg (by simp [stop c rfl]), List.append_nil]

/-- A text is divided in one way only into a word and a rest that starts with a character that ends it, -/
theorem append_inj (word : IsWord stops cs) (word' : IsWord stops cs') (stop : ∀ c ∈ rest.head?, c ∈ stops)
    (stop' : ∀ c ∈ rest'.head?, c ∈ stops) (same : cs ++ rest = cs' ++ rest') : cs = cs' ∧ rest = rest' := by
  obtain rfl : cs = cs' := by rw [← word.takeWhile_append stop, same, word'.takeWhile_append stop']
  exact ⟨rfl, List.append_cancel_left same⟩

/-- which character is then known, too. -/
theorem cons_inj (word : IsWord stops cs) (word' : IsWord stops cs') (stop : c ∈ stops) (stop' : c' ∈ stops)
    (same : cs ++ c :: rest = cs' ++ c' :: rest') : cs = cs' ∧ c = c' ∧ rest = rest' := by
  have head {c : Char} {rest : List Char} (stop : c ∈ stops) : ∀ d ∈ (c :: rest).head?, d ∈ stops := by
    rintro _ ⟨⟩
    exact stop
  obtain ⟨rfl, behind⟩ := append_inj word word' (head stop) (head stop') same
  exact ⟨rfl, List.cons.inj behind⟩

end IsWord

end RouteScribe.Text
