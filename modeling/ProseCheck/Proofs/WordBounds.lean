import ProseCheck.Proofs.Linting
import ProseCheck.Proofs.Segmentation
import Mathlib.Data.Int.Notation
import Mathlib.Data.List.Perm.Basic

/-!
# The two bounds on the words of a sentence

A sentence has fewer than `m` words or more than `m - 1`, never both. So the lower bound `m` and the
upper bound `m - 1` share the sentences of a document among them: a paragraph is flagged for each of
its sentences once, by one of the two checks. The lower bound spares sentences without words, but
there are none.
-/

namespace ProseCheck

open Document

namespace Check

/-- The sentences of a node with fewer than `m` words. -/
def shortSentences (m : ℤ) (n : Node) : List (List Char) :=
  (sentencesOf n).filter fun s => decide ((Text.wordCount s : ℤ) < m)

/-- The sentences of a node with at least `m` words. -/
def longSentences (m : ℤ) (n : Node) : List (List Char) :=
  (sentencesOf n).filter fun s => decide (m ≤ (Text.wordCount s : ℤ))

/-- The short and the long sentences of a node are all of its sentences. -/
theorem shortSentences_append_longSentences_perm (m : ℤ) (n : Node) :
    (shortSentences m n ++ longSentences m n).Perm (sentencesOf n) := by
  have hlong : longSentences m n =
      (sentencesOf n).filter fun s => !decide ((Text.wordCount s : ℤ) < m) := by
    rw [longSentences]
    apply List.filter_congr
    intro s _
    rw [← decide_not, decide_eq_decide]
    omega
  rw [hlong, shortSentences]
  exact List.filter_append_perm _ _

/-- The lower bound flags a paragraph for each of its short sentences. -/
theorem flagged_minimumWords (m : ℤ) (tree : Node) :
    (minimumWords m).flagged tree =
      tree.paragraphs.flatMap fun p => List.replicate (shortSentences m p).length p := by
  rw [flagged, flaggedBySentence]
  apply List.flatMap_congr
  intro p _
  have hguard : (sentencesOf p).filter
      (fun s => 0 < Text.wordCount s && decide ((Text.wordCount s : ℤ) < m)) =
        shortSentences m p := by
    apply List.filter_congr
    intro s hs
    have hpos := Text.wordCount_pos_of_mem_sentences hs
    simp [hpos]
  rw [hguard, List.map_const']

/-- The upper bound `m - 1` flags a paragraph for each of its long sentences. -/
theorem flagged_maxWords_pred (m : ℤ) (tree : Node) :
    (maxWords (m - 1)).flagged tree =
      tree.paragraphs.flatMap fun p => List.replicate (longSentences m p).length p := by
  rw [flagged, flaggedBySentence]
  apply List.flatMap_congr
  intro p _
  have hbound : (sentencesOf p).filter (fun s => decide (m - 1 < (Text.wordCount s : ℤ))) =
      longSentences m p := by
    apply List.filter_congr
    intro s _
    rw [decide_eq_decide]
    omega
  rw [hbound, List.map_const']

/-- Together the two bounds flag each paragraph once for each of its sentences. -/
theorem flagged_append_flagged_perm (m : ℤ) (tree : Node) :
    ((minimumWords m).flagged tree ++ (maxWords (m - 1)).flagged tree).Perm
      (tree.paragraphs.flatMap fun p => List.replicate (sentencesOf p).length p) := by
  rw [flagged_minimumWords, flagged_maxWords_pred]
  refine (List.flatMap_append_perm _ _ _).trans (List.Perm.flatMap_left _ fun p _ => ?_)
  rw [List.replicate_append_replicate, ← List.length_append,
    (shortSentences_append_longSentences_perm m p).length_eq]

end Check

/-- The diagnostics of an assignment are at the lines of the nodes that its check flags. -/
theorem Assignment.map_line_diagnostics (a : Assignment) (tree : Node) :
    (a.diagnostics tree).map Diagnostic.line = (a.check.flagged tree).map Node.lineNumber := by
  rw [diagnostics, List.map_map]
  rfl

/-- The lower bound `m` and the upper bound `m - 1` flag a paragraph as often as it has short and
long sentences, which are all its sentences, each once. Every sentence of a text has a word, so the
lower bound spares none. The diagnostics of the two rules with these bounds are as many at a line as
the paragraphs there have sentences. -/
theorem Check.flagged_wordBounds_complementary (m : ℤ) (tree : Node) :
    (minimumWords m).flagged tree =
      tree.paragraphs.flatMap (fun p => List.replicate (shortSentences m p).length p) ∧
    (maxWords (m - 1)).flagged tree =
      tree.paragraphs.flatMap (fun p => List.replicate (longSentences m p).length p) ∧
    (∀ p ∈ tree.paragraphs,
      (shortSentences m p).length + (longSentences m p).length = (sentencesOf p).length ∧
        (shortSentences m p ++ longSentences m p).Perm (sentencesOf p)) ∧
    (∀ t, ∀ s ∈ Text.sentences t, 0 < Text.wordCount s) ∧
    ∀ e e' : Entry, Rule.minimumWords.check e.args = .ok (.minimumWords m) →
      Rule.maxWords.check e'.args = .ok (.maxWords (m - 1)) →
      ∃ ds ds',
        Linter.evaluate .minimumWords Rule.minimumWords.evaluator e tree = .ok ds ∧
        Linter.evaluate .maxWords Rule.maxWords.evaluator e' tree = .ok ds' ∧
        ((ds ++ ds').map Diagnostic.line).Perm
          (tree.paragraphs.flatMap fun p => (sentencesOf p).map fun _ => p.lineNumber) := by
  refine ⟨flagged_minimumWords m tree, flagged_maxWords_pred m tree, fun p _ => ?_,
    fun t s => Text.wordCount_pos_of_mem_sentences, fun e e' he he' => ?_⟩
  · have hperm := shortSentences_append_longSentences_perm m p
    exact ⟨by rw [← List.length_append, hperm.length_eq], hperm⟩
  · have hds := Assignment.run_job (a := ⟨.minimumWords, e, .minimumWords m⟩) he tree
    have hds' := Assignment.run_job (a := ⟨.maxWords, e', .maxWords (m - 1)⟩) he' tree
    refine ⟨_, _, hds, hds', ?_⟩
    have hlines := (flagged_append_flagged_perm m tree).map Node.lineNumber
    rw [List.map_append, List.map_flatMap] at hlines
    simpa only [List.map_append, Assignment.map_line_diagnostics, List.map_replicate,
      List.map_const'] using hlines

/-- With bounds of three and two words, one sentence of a paragraph is too short and the other one
too long. -/
theorem Check.flagged_wordBounds_complementary_three :
    Rule.minimumWords.check [("min", .int 3)] = .ok (.minimumWords 3) ∧
      Rule.maxWords.check [("limit", .string " 2 ")] = .ok (.maxWords (3 - 1)) ∧
      ∃ ds ds',
        Linter.evaluate .minimumWords Rule.minimumWords.evaluator
          ⟨.error, "Short.", [("min", .int 3)]⟩
          (.mk .paragraph (some 4) [.mk (.text "It is. Or is it not?") none []]) = .ok ds ∧
        Linter.evaluate .maxWords Rule.maxWords.evaluator
          ⟨.info, "Long.", [("limit", .string " 2 ")]⟩
          (.mk .paragraph (some 4) [.mk (.text "It is. Or is it not?") none []]) = .ok ds' ∧
        ((ds ++ ds').map Diagnostic.line).Perm [4, 4] := by
  obtain ⟨_, _, _, _, hdiagnostics⟩ := flagged_wordBounds_complementary 3
    (.mk .paragraph (some 4) [.mk (.text "It is. Or is it not?") none []])
  exact ⟨rfl, rfl, hdiagnostics ⟨.error, "Short.", [("min", .int 3)]⟩
    ⟨.info, "Long.", [("limit", .string " 2 ")]⟩ rfl rfl⟩

end ProseCheck
