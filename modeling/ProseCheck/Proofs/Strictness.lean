import ProseCheck.Proofs.CanonicalForm
import Mathlib.Data.List.Forall2

/-!
# Looser and stricter configurations

A check is looser than another one of the same rule if its bounds allow more or it bans fewer
phrases. A configuration is looser if it has fewer rules, in the same order, with looser checks.
Whatever a looser configuration reports, the stricter one reports as well, in the same order.
-/

namespace ProseCheck

open Document

namespace Check

/-- A check allows everything that another one of the same rule allows. -/
inductive Looser : Check → Check → Prop where
  | headingCase : Looser .headingCase .headingCase
  | minimumWords {min min' : ℤ} (hmin : min ≤ min') :
      Looser (.minimumWords min) (.minimumWords min')
  | maxWords {limit limit' : ℤ} (hlimit : limit' ≤ limit) :
      Looser (.maxWords limit) (.maxWords limit')
  | maxSentences {limit limit' : ℤ} (hlimit : limit' ≤ limit) :
      Looser (.maxSentences limit) (.maxSentences limit')
  | bannedPhrases {phrases phrases' : List String} (hphrases : phrases.Sublist phrases') :
      Looser (.bannedPhrases phrases) (.bannedPhrases phrases')

variable {check check' : Check}

/-- A node violates a looser check at most as often. -/
theorem Looser.violations_le (h : check.Looser check') (n : Node) :
    check.violations n ≤ check'.violations n := by
  cases h with
  | headingCase => exact le_rfl
  | minimumWords hmin =>
    simp only [violations]
    split
    · refine List.countP_mono_left fun s _ hs => ?_
      rw [decide_eq_true_iff] at hs ⊢
      omega
    · exact le_rfl
  | maxWords hlimit =>
    simp only [violations]
    split
    · refine List.countP_mono_left fun s _ hs => ?_
      rw [decide_eq_true_iff] at hs ⊢
      omega
    · exact le_rfl
  | @maxSentences limit limit' hlimit =>
    simp only [violations, Bool.and_eq_true, decide_eq_true_eq]
    split
    · rename_i hflagged
      rw [if_pos ⟨hflagged.1, by omega⟩]
    · exact Nat.zero_le _
  | bannedPhrases hphrases =>
    simp only [violations]
    split
    · exact hphrases.countP_le
    · exact le_rfl

/-- Listing each element as often as it counts gives more where it counts more. -/
private theorem flatMap_replicate_sublist {α : Type} {f g : α → ℕ} (hle : ∀ a, f a ≤ g a)
    (l : List α) :
    (l.flatMap fun a => List.replicate (f a) a).Sublist
      (l.flatMap fun a => List.replicate (g a) a) := by
  induction l with
  | nil => exact .refl _
  | cons a l ih =>
    rw [List.flatMap_cons, List.flatMap_cons]
    exact (List.replicate_sublist_replicate a |>.mpr (hle a)).append ih

/-- A looser check flags fewer nodes. -/
theorem Looser.flagged_sublist (h : check.Looser check') (tree : Node) :
    (check.flagged tree).Sublist (check'.flagged tree) := by
  rw [flagged_eq_flatMap_violations, flagged_eq_flatMap_violations]
  exact flatMap_replicate_sublist h.violations_le tree.preorder

end Check

/-- An assignment of the same rule with the same severity and message and a looser check. -/
structure Assignment.Looser (a a' : Assignment) : Prop where
  rule : a.rule = a'.rule
  level : a.entry.level = a'.entry.level
  message : a.entry.message = a'.entry.message
  check : a.check.Looser a'.check

/-- A looser assignment has fewer diagnostics. -/
theorem Assignment.Looser.diagnostics_sublist {a a' : Assignment} (h : a.Looser a')
    (tree : Node) : (a.diagnostics tree).Sublist (a'.diagnostics tree) := by
  have hsame : Linter.diagnostic a.rule a.entry = Linter.diagnostic a'.rule a'.entry := by
    funext n
    simp only [Linter.diagnostic, h.rule, h.level, h.message]
  rw [diagnostics, diagnostics, hsame]
  exact (h.check.flagged_sublist tree).map _

/-- A configuration asks for some of the rules that another one asks for, in the same order, with
looser checks. -/
def Config.Looser (c c' : Config) : Prop :=
  List.SublistForall₂ Assignment.Looser c.assignments c'.assignments

/-- Looser assignments have fewer diagnostics together. -/
theorem flatMap_diagnostics_sublist {l l' : List Assignment}
    (h : List.SublistForall₂ Assignment.Looser l l') (tree : Node) :
    (l.flatMap (Assignment.diagnostics tree)).Sublist
      (l'.flatMap (Assignment.diagnostics tree)) := by
  induction h with
  | nil => exact List.nil_sublist _
  | cons hlooser _ ih =>
    rw [List.flatMap_cons, List.flatMap_cons]
    exact (hlooser.diagnostics_sublist tree).append ih
  | cons_right _ ih =>
    rw [List.flatMap_cons]
    exact ih.trans (List.sublist_append_right _ _)

/-- More diagnostics have no fewer errors. -/
theorem hasErrors_of_sublist {ds ds' : List Diagnostic} (hsub : ds.Sublist ds')
    (h : hasErrors ds = true) : hasErrors ds' = true := by
  rw [hasErrors, List.any_eq_true] at h ⊢
  obtain ⟨d, hd, herror⟩ := h
  exact ⟨d, hsub.subset hd, herror⟩

/-- The diagnostics of a looser configuration are some of those of the stricter one, in the same
order. So a document that has errors under the looser one has errors under the stricter one. -/
theorem Linter.lint_sublist_of_looser {c c' : Config} (hc : c.Accepted) (hc' : c'.Accepted)
    (hlooser : c.Looser c') (tree : Node) :
    ∃ ds ds', (Linter.standard c).lint tree = .ok ds ∧ (Linter.standard c').lint tree = .ok ds' ∧
      ds.Sublist ds' ∧ (hasErrors ds = true → hasErrors ds' = true) := by
  have hsub := sortByLine_sublist (flatMap_diagnostics_sublist hlooser tree)
  exact ⟨_, _, hc.wellformed.lint_eq tree, hc'.wellformed.lint_eq tree, hsub,
    hasErrors_of_sublist hsub⟩

/-- The built-in configuration without all rules but two, with a higher limit on words and fewer
phrases. -/
def loosened : Config where
  rules := [
    (Rule.maxWords.id, .entry ⟨.error, "Too many words in sentence.", [("limit", .int 40)]⟩),
    (Rule.bannedPhrases.key,
      .entry ⟨.error, "Banned phrase identified.",
        [("phrases", .array [.string "are used to", .string "has finished"])]⟩)]
  format := "json"

/-- What the loosened configuration reports is part of what the built-in one reports. -/
theorem Linter.lint_sublist_of_looser_default :
    loosened.Accepted ∧ Config.default.Accepted ∧ loosened.Looser Config.default ∧
      ∃ ds ds', (Linter.standard loosened).lint headingInParagraph = .ok ds ∧
        (Linter.standard Config.default).lint headingInParagraph = .ok ds' ∧ ds.Sublist ds' := by
  have hc : loosened.Accepted := @Config.Accepted.built loosened.rules "json" _ rfl
  have hlooser : loosened.Looser Config.default := by
    refine .cons_right (.cons_right (.cons ⟨rfl, rfl, rfl, .maxWords (by decide)⟩
      (.cons_right (.cons ⟨rfl, rfl, rfl, .bannedPhrases (by decide)⟩ .nil))))
  obtain ⟨ds, ds', hds, hds', hsub, _⟩ :=
    Linter.lint_sublist_of_looser hc Config.accepted_default hlooser headingInParagraph
  exact ⟨hc, Config.accepted_default, hlooser, ds, ds', hds, hds', hsub⟩

end ProseCheck
