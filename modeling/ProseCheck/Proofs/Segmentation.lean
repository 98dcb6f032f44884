import ProseCheck.Text.Sentence
import Mathlib.Data.Nat.Notation

/-!
# Sentences and their words

A sentence is trimmed and not empty, so it has a character that is not blank, and the run of such
characters around it is a word.
-/

namespace ProseCheck.Text

/-- Putting a character in front of the first field leaves a field that is not empty. -/
theorem exists_mem_consHead_ne_nil (c : Char) (fs : List (List Char)) :
    ∃ f ∈ consHead c fs, f ≠ [] := by
  cases fs with
  | nil => exact ⟨[c], by simp [consHead], by simp⟩
  | cons f fs => exact ⟨c :: f, by simp [consHead], by simp⟩

/-- A text with a character that is no separator has a field that is not empty. -/
theorem exists_mem_fields_ne_nil {sep : Char → Bool} {s : List Char} {c : Char}
    (hmem : c ∈ s) (hc : sep c = false) : ∃ f ∈ fields sep s, f ≠ [] := by
  induction s with
  | nil => simp at hmem
  | cons d s ih =>
    by_cases hd : sep d = true
    · have htail : c ∈ s := by
        rcases List.mem_cons.mp hmem with rfl | htail
        · simp [hc] at hd
        · exact htail
      obtain ⟨f, hf, hne⟩ := ih htail
      exact ⟨f, by simp [fields, hd, hf], hne⟩
    · simp only [fields, if_neg hd]
      exact exists_mem_consHead_ne_nil d (fields sep s)

/-- A text that trimming leaves something of has a character outside the trimmed class. -/
theorem exists_mem_trimBy {p : Char → Bool} {s : List Char} (hne : trimBy p s ≠ []) :
    ∃ c ∈ trimBy p s, p c = false := by
  have hrest : (s.dropWhile p).reverse.dropWhile p ≠ [] := by
    simpa [trimBy] using hne
  refine ⟨((s.dropWhile p).reverse.dropWhile p).head hrest, ?_, ?_⟩
  · rw [trimBy, List.mem_reverse]
    exact List.head_mem hrest
  · exact List.head_dropWhile_not p hrest

/-- Every sentence has a word. The lower bound on words never spares a sentence for having
none. -/
theorem wordCount_pos_of_mem_sentences {s t : List Char} (hmem : s ∈ sentences t) :
    0 < wordCount s := by
  rw [sentences, List.mem_filter, List.mem_map] at hmem
  obtain ⟨⟨field, _, rfl⟩, hne⟩ := hmem
  have hne' : trim field ≠ [] := by simpa using hne
  obtain ⟨c, hc, hblank⟩ := exists_mem_trimBy hne'
  obtain ⟨word, hword, hword'⟩ := exists_mem_fields_ne_nil hc hblank
  rw [wordCount, List.length_pos_iff_exists_mem]
  exact ⟨word, List.mem_filter.mpr ⟨hword, by simpa using hword'⟩⟩

end ProseCheck.Text
