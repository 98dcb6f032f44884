import ProseCheck.Proofs.SentenceForm
import Mathlib.Algebra.BigOperators.Group.List.Basic
import Mathlib.Algebra.GroupWithZero.Nat

/-!
# The words of sentences

A blank takes the words on its two sides apart, and blanks at the ends of a text make no difference
to its words. So cutting a text into sentences and then each sentence into words gives the words
that the text has with blanks in place of its terminators.
-/

namespace ProseCheck.Text

/-! ### Words -/

section Word

variable {s u : List Char}

/-- A blank separates the words before it from those behind it. -/
theorem words_append_cons {c : Char} (hc : isBlank c = true) (a b : List Char) :
    words (a ++ c :: b) = words a ++ words b := by
  simp only [words, fields_eq_splitOnP]
  rw [List.splitOnP_append_cons a b hc, List.filter_append]

/-- Blanks in front of a text change none of its words. -/
theorem words_append_left (hu : ∀ c ∈ u, isBlank c = true) (s : List Char) :
    words (u ++ s) = words s := by
  induction u with
  | nil => rfl
  | cons c u ih =>
    obtain ⟨hc, hu⟩ := List.forall_mem_cons.mp hu
    have hcut := words_append_cons hc [] (u ++ s)
    rw [List.cons_append, ← ih hu]
    exact hcut

/-- A blank text has no words. -/
theorem words_of_blank (hu : ∀ c ∈ u, isBlank c = true) : words u = [] := by
  have hwords := words_append_left hu []
  rwa [List.append_nil] at hwords

/-- A run of blanks separates the words before it from those behind it. -/
theorem words_append_run (hne : u ≠ []) (hu : ∀ c ∈ u, isBlank c = true) (a b : List Char) :
    words (a ++ u ++ b) = words a ++ words b := by
  obtain ⟨c, u, rfl⟩ := List.exists_cons_of_ne_nil hne
  obtain ⟨hc, hu⟩ := List.forall_mem_cons.mp hu
  rw [List.append_assoc, List.cons_append, words_append_cons hc, words_append_left hu]

/-- Blanks behind a text change none of its words. -/
theorem words_append_right (s : List Char) (hu : ∀ c ∈ u, isBlank c = true) :
    words (s ++ u) = words s := by
  by_cases hne : u = []
  · rw [hne, List.append_nil]
  · have hcut := words_append_run hne hu s []
    rwa [List.append_nil, show words [] = [] from rfl, List.append_nil] at hcut

/-- A text without blanks is one word, unless it is empty. -/
theorem words_of_unbroken (hne : s ≠ []) (hs : ∀ c ∈ s, isBlank c = false) : words s = [s] := by
  rw [words, fields_eq_splitOnP, List.splitOnP_eq_singleton hs]
  simp [hne]

/-- A text is what trimming leaves of it between characters of the class. -/
theorem exists_eq_append_trimBy (p : Char → Bool) (s : List Char) :
    ∃ u v, (∀ c ∈ u, p c = true) ∧ (∀ c ∈ v, p c = true) ∧ s = u ++ trimBy p s ++ v := by
  refine ⟨s.takeWhile p, (s.dropWhile p).rtakeWhile p, fun c => List.mem_takeWhile_imp,
    fun c => List.mem_rtakeWhile_imp, ?_⟩
  rw [trimBy_eq_rdropWhile, List.append_assoc, List.rdropWhile_append_rtakeWhile,
    List.takeWhile_append_dropWhile]

/-- Trimming a text changes none of its words. -/
theorem words_trim (s : List Char) : words (trim s) = words s := by
  obtain ⟨u, v, hu, hv, hs⟩ := exists_eq_append_trimBy isBlank s
  have hwords : words s = words (u ++ trimBy isBlank s ++ v) := congrArg words hs
  rw [hwords, words_append_right _ hv, words_append_left hu, trim]

end Word

/-! ### Words between terminators -/

/-- A text with blanks in place of its terminators. -/
def unpunctuated (t : List Char) : List Char :=
  t.map fun c => if isTerminator c then ' ' else c

section Sentence

variable {t : List Char}

/-- A text without terminators stays as it is. -/
theorem unpunctuated_of_unended (ht : ∀ c ∈ t, isTerminator c = false) : unpunctuated t = t := by
  rw [unpunctuated, List.map_congr_left (g := id), List.map_id]
  intro c hc
  simp [ht c hc]

/-- A terminator separates the words of the text with blanks in place of terminators. -/
theorem words_unpunctuated_append_cons {c : Char} (hc : isTerminator c = true) (a b : List Char) :
    words (unpunctuated (a ++ c :: b)) = words (unpunctuated a) ++ words (unpunctuated b) := by
  rw [unpunctuated, List.map_append, List.map_cons, if_pos hc]
  exact words_append_cons rfl (unpunctuated a) (unpunctuated b)

/-- Without terminators the words of the sentences are those of the text. -/
theorem flatMap_words_sentences_of_unended (ht : ∀ c ∈ t, isTerminator c = false) :
    (sentences t).flatMap words = words t := by
  rw [sentences_of_unended ht]
  split
  · rename_i hblank
    rw [List.flatMap_nil, words_of_blank (List.all_eq_true.mp hblank)]
  · rw [List.flatMap_singleton, words_trim]

/-- The words of the sentences of a text are those of the text with blanks in place of its
terminators. The induction is on what stands behind a part without terminators. -/
theorem flatMap_words_sentences_append {a : List Char} (ha : ∀ c ∈ a, isTerminator c = false)
    (t : List Char) :
    (sentences (a ++ t)).flatMap words = words (unpunctuated (a ++ t)) := by
  induction t generalizing a with
  | nil =>
    rw [List.append_nil, flatMap_words_sentences_of_unended ha, unpunctuated_of_unended ha]
  | cons c t ih =>
    cases hc : isTerminator c with
    | true =>
      have htail : (sentences t).flatMap words = words (unpunctuated t) :=
        ih (a := []) (by simp)
      rw [sentences_append_cons hc, List.flatMap_append, flatMap_words_sentences_of_unended ha,
        htail, words_unpunctuated_append_cons hc, unpunctuated_of_unended ha]
    | false =>
      have hlonger : ∀ d ∈ a ++ [c], isTerminator d = false :=
        List.forall_mem_append.mpr ⟨ha, by simpa using hc⟩
      simpa only [List.append_assoc, List.singleton_append] using ih hlonger

end Sentence

/-- Cutting into sentences neither loses nor invents words: the words of the sentences, in order,
are the words of the text with blanks in place of its terminators, so there are as many of them. -/
theorem sentences_keep_words (t : List Char) :
    (sentences t).flatMap words = words (unpunctuated t) ∧
      ((sentences t).map wordCount).sum = wordCount (unpunctuated t) := by
  have hwords : (sentences t).flatMap words = words (unpunctuated t) :=
    flatMap_words_sentences_append (a := []) (by simp) t
  refine ⟨hwords, ?_⟩
  calc ((sentences t).map wordCount).sum
      = ((sentences t).flatMap words).length := List.length_flatMap.symm
    _ = wordCount (unpunctuated t) := congrArg List.length hwords

end ProseCheck.Text
