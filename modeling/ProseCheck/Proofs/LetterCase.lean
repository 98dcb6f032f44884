import ProseCheck.Proofs.RuleKey

/-!
# The case of ASCII letters

Banned phrases are looked for without regard to the case of ASCII letters. A text may have any other
characters between these letters, and the lower case of a capital sigma depends on its neighbours;
but a letter in either case is cased, so it is the same neighbour.
-/

namespace ProseCheck

namespace Text

/-- Two texts differ in the case of ASCII letters at most. -/
def SameLetters (s t : String) : Prop :=
  s.toList.map Char.toLower = t.toList.map Char.toLower

instance (s t : String) : Decidable (SameLetters s t) :=
  inferInstanceAs (Decidable (_ = _))

/-- What an ASCII letter has in common with its capital is not changed by making letters small. -/
theorem apply_toLower {α : Type} {f : Char → α}
    (h : ∀ n, n < 128 → f (Char.ofNat n).toLower = f (Char.ofNat n)) (c : Char) :
    f c.toLower = f c := by
  by_cases hupper : c.isUpper = true
  · exact forall_ascii (P := fun c => f c.toLower = f c) h c (ascii_of_isUpper hupper)
  · rw [toLower_of_not_isUpper hupper]

/-- The lower case of an ASCII capital is that of its small letter. -/
theorem lowerChar_toLower (c : Char) : lowerChar c.toLower = lowerChar c :=
  apply_toLower (by decide) c

/-- An ASCII capital is cased as its small letter is. -/
theorem isCased_toLower (c : Char) : isCased c.toLower = isCased c :=
  apply_toLower (by decide) c

/-- An ASCII capital is looked past just if its small letter is. -/
theorem isCaseIgnorable_toLower (c : Char) : isCaseIgnorable c.toLower = isCaseIgnorable c :=
  apply_toLower (by decide) c

/-- No ASCII letter is a capital sigma. -/
theorem toLower_eq_capitalSigma (c : Char) :
    decide (c.toLower = capitalSigma) = decide (c = capitalSigma) :=
  apply_toLower (f := fun c => decide (c = capitalSigma)) (by decide) c

/-- Small ASCII letters do not change whether a text starts cased. -/
theorem startsCased_map_toLower (s : List Char) :
    startsCased (s.map Char.toLower) = startsCased s := by
  have hignorable : isCaseIgnorable ∘ Char.toLower = isCaseIgnorable :=
    funext isCaseIgnorable_toLower
  rw [startsCased, List.dropWhile_map, hignorable, List.head?_map, Option.any_map]
  simp only [isCased_toLower, startsCased]

/-- Making the ASCII letters of a text small does not change its lower case. -/
theorem lowerAfter_map_toLower (cased : Bool) (s : List Char) :
    lowerAfter cased (s.map Char.toLower) = lowerAfter cased s := by
  induction s generalizing cased with
  | nil => rfl
  | cons c s ih =>
    simp only [List.map_cons, lowerAfter, toLower_eq_capitalSigma, startsCased_map_toLower,
      lowerChar_toLower, isCaseIgnorable_toLower, isCased_toLower, ih]

namespace SameLetters

/-- Texts that differ in the case of ASCII letters have the same lower case. -/
theorem lower_eq {s t : String} (h : SameLetters s t) : lower s.toList = lower t.toList := by
  rw [lower, lower, ← lowerAfter_map_toLower, h, lowerAfter_map_toLower]

/-- Texts whose parts differ in the case of ASCII letters do so as a whole. -/
theorem join {ss ts : List String} (h : List.Forall₂ SameLetters ss ts) :
    SameLetters (String.join ss) (String.join ts) := by
  induction h with
  | nil => rfl
  | cons hst _ ih =>
    simp only [SameLetters] at hst ih
    simp only [SameLetters, String.join_cons, String.toList_append, List.map_append, hst, ih]

end SameLetters

end Text

namespace Document

open Text (SameLetters)

mutual

/-- Two trees have the same shape, classes and lines, and texts that differ in the case of ASCII
letters at most. Data that is not prose may differ. -/
inductive Node.Recased : Node → Node → Prop where
  | mk {content content' : Content} (line : Option ℤ) {children children' : List Node}
      (hclass : content.nodeClass = content'.nodeClass)
      (htext : SameLetters content.ownText content'.ownText)
      (hchildren : RecasedAll children children') :
      Node.Recased (.mk content line children) (.mk content' line children')

/-- Two lists of trees are the same, tree by tree, but for the case of ASCII letters. -/
inductive RecasedAll : List Node → List Node → Prop where
  | nil : RecasedAll [] []
  | cons {n n' : Node} {ns ns' : List Node} (hhead : n.Recased n') (htail : RecasedAll ns ns') :
      RecasedAll (n :: ns) (n' :: ns')

end

mutual

/-- The nodes of two such trees correspond to each other, as roots of such trees. -/
theorem Node.Recased.forall₂_preorder {n n' : Node} (h : n.Recased n') :
    List.Forall₂ Node.Recased n.preorder n'.preorder :=
  match h with
  | .mk line hclass htext hchildren =>
    .cons (.mk line hclass htext hchildren) hchildren.forall₂_preorderAll

/-- Documents that differ in the case of ASCII letters have such nodes in the same order. -/
theorem RecasedAll.forall₂_preorderAll {ns ns' : List Node} (h : RecasedAll ns ns') :
    List.Forall₂ Node.Recased (preorderAll ns) (preorderAll ns') :=
  match h with
  | .nil => .nil
  | .cons hhead htail => List.rel_append hhead.forall₂_preorder htail.forall₂_preorderAll

end

namespace Node.Recased

variable {n n' : Node}

/-- Nodes that differ in the case of ASCII letters are of the same class. -/
theorem isA_eq (h : n.Recased n') (c : NodeClass) : n.isA c = n'.isA c := by
  obtain ⟨line, hclass, _, _⟩ := h
  simp only [isA, content, hclass]

/-- Nodes that differ in the case of ASCII letters are on the same line. -/
theorem lineNumber_eq (h : n.Recased n') : n.lineNumber = n'.lineNumber := by
  obtain ⟨line, _, _, _⟩ := h
  rfl

/-- Nodes that differ in the case of ASCII letters have texts of their own that do so. -/
theorem ownText (h : n.Recased n') : SameLetters n.content.ownText n'.content.ownText := by
  obtain ⟨line, _, htext, _⟩ := h
  exact htext

/-- The texts of the two trees differ in the case of ASCII letters at most. The letters may be next
to a character of another text of the tree. -/
theorem text (h : n.Recased n') : SameLetters n.text n'.text := by
  rw [Node.text, Node.text, nodes_eq_preorder, nodes_eq_preorder]
  apply SameLetters.join
  rw [List.forall₂_map_left_iff, List.forall₂_map_right_iff]
  exact h.forall₂_preorder.imp fun _ _ hm => hm.ownText

end Node.Recased

end Document

open Document

/-- Nodes that differ in the case of ASCII letters violate the ban of phrases that differ so
equally often. -/
theorem Check.violations_bannedPhrases_of_recased {n n' : Node} (hn : n.Recased n')
    {phrases phrases' : List String} (hphrases : List.Forall₂ Text.SameLetters phrases phrases') :
    (bannedPhrases phrases).violations n = (bannedPhrases phrases').violations n' := by
  have hlower : phrases.map (fun phrase => Text.lower phrase.toList) =
      phrases'.map fun phrase => Text.lower phrase.toList := by
    rw [← List.forall₂_eq_eq_eq, List.forall₂_map_left_iff, List.forall₂_map_right_iff]
    exact hphrases.imp fun _ _ hphrase => hphrase.lower_eq
  have hcount (text : List Char) (ps : List String) :
      ps.countP (fun phrase => decide (Text.lower phrase.toList <:+: text)) =
        (ps.map fun phrase => Text.lower phrase.toList).countP fun p => decide (p <:+: text) := by
    rw [List.countP_map]
    rfl
  simp only [violations, hn.isA_eq, hn.text.lower_eq, hcount, hlower]

/-- The ban of phrases gives the same diagnostics on documents that differ in the case of ASCII
letters, with phrases that differ so. -/
theorem Linter.evaluate_bannedPhrases_of_recased {tree tree' : Node} (htree : tree.Recased tree')
    {phrases phrases' : List String} (hphrases : List.Forall₂ Text.SameLetters phrases phrases')
    {e e' : Entry} (hlevel : e.level = e'.level) (hmessage : e.message = e'.message)
    (hargs : Rule.bannedPhrases.check e.args = .ok (.bannedPhrases phrases))
    (hargs' : Rule.bannedPhrases.check e'.args = .ok (.bannedPhrases phrases')) :
    ∃ ds, Linter.evaluate .bannedPhrases Rule.bannedPhrases.evaluator e tree = .ok ds ∧
      Linter.evaluate .bannedPhrases Rule.bannedPhrases.evaluator e' tree' = .ok ds := by
  have hds := Assignment.run_job (a := ⟨.bannedPhrases, e, .bannedPhrases phrases⟩) hargs tree
  have hds' := Assignment.run_job (a := ⟨.bannedPhrases, e', .bannedPhrases phrases'⟩) hargs' tree'
  have hsame : (⟨.bannedPhrases, e, .bannedPhrases phrases⟩ : Assignment).diagnostics tree =
      (⟨.bannedPhrases, e', .bannedPhrases phrases'⟩ : Assignment).diagnostics tree' := by
    simp only [Assignment.diagnostics, Check.flagged_eq_flatMap_violations, List.map_flatMap,
      List.map_replicate]
    rw [← List.forall₂_eq_eq_eq]
    refine List.rel_flatMap htree.forall₂_preorder fun n n' hn => ?_
    rw [List.forall₂_eq_eq_eq, Check.violations_bannedPhrases_of_recased hn hphrases]
    simp only [Linter.diagnostic, hn.lineNumber_eq, hlevel, hmessage]
  exact ⟨_, hds, hsame ▸ hds'⟩

/-- A paragraph of two texts with code between them. -/
def interruptedText (first code second : String) : Node :=
  .mk .paragraph (some 5) [.mk (.text first) none [], .mk (.inlineCode code) none [],
    .mk (.text second) none []]

/-- An entry that bans phrases. -/
def banning (phrases : List String) : Entry :=
  ⟨.error, "Banned.", [("phrases", .array (phrases.map .string))]⟩

/-- A phrase goes on from one text of a paragraph to the next, with a sigma at the border. Letters
of both texts, of the code between them and of the phrases change their case. -/
theorem Linter.evaluate_bannedPhrases_of_recased_sigma :
    (interruptedText "It has bEEN Σ" "Code" "O").Recased
        (interruptedText "it Has been Σ" "no code" "o") ∧
      List.Forall₂ Text.SameLetters ["Has Been Σ", "ΣO"] ["has been Σ", "Σo"] ∧
      Linter.evaluate .bannedPhrases Rule.bannedPhrases.evaluator
          (banning ["Has Been Σ", "ΣO"]) (interruptedText "It has bEEN Σ" "Code" "O") =
        .ok [⟨5, "banned-phrases", .error, "Banned."⟩, ⟨5, "banned-phrases", .error, "Banned."⟩] ∧
      Linter.evaluate .bannedPhrases Rule.bannedPhrases.evaluator
          (banning ["has been Σ", "Σo"]) (interruptedText "it Has been Σ" "no code" "o") =
        .ok [⟨5, "banned-phrases", .error, "Banned."⟩,
          ⟨5, "banned-phrases", .error, "Banned."⟩] := by
  have htree : (interruptedText "It has bEEN Σ" "Code" "O").Recased
      (interruptedText "it Has been Σ" "no code" "o") :=
    .mk _ rfl rfl (.cons (.mk _ rfl (by decide) .nil) (.cons (.mk _ rfl rfl .nil)
      (.cons (.mk _ rfl (by decide) .nil) .nil)))
  have hphrases : List.Forall₂ Text.SameLetters ["Has Been Σ", "ΣO"] ["has been Σ", "Σo"] :=
    .cons (by decide) (.cons (by decide) .nil)
  have hlevel : (banning ["Has Been Σ", "ΣO"]).level = (banning ["has been Σ", "Σo"]).level := rfl
  obtain ⟨ds, hds, hds'⟩ :=
    Linter.evaluate_bannedPhrases_of_recased htree hphrases hlevel rfl rfl rfl
  have hfound : Linter.evaluate .bannedPhrases Rule.bannedPhrases.evaluator
      (banning ["Has Been Σ", "ΣO"]) (interruptedText "It has bEEN Σ" "Code" "O") =
        .ok [⟨5, "banned-phrases", .error, "Banned."⟩,
          ⟨5, "banned-phrases", .error, "Banned."⟩] := rfl
  exact ⟨htree, hphrases, hfound, hds'.trans (hds.symm.trans hfound)⟩

end ProseCheck
