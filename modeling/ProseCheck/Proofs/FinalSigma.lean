import ProseCheck.Proofs.Violation
import Mathlib.Data.List.TakeWhile

/-!
# Banned phrases and the final sigma

A phrase and a text are made small apart from each other, and the small form of a capital sigma
depends on its neighbours: at the end of a word it is the final form. A phrase that occurs verbatim
in a text is found there if each of its sigmas ends a word in the text exactly when it ends one in
the phrase. A sigma at an edge of the phrase may be loose: what stands next to the phrase decides
whether it ends a word. The phrases without a loose sigma are exactly those that are found wherever
they occur.
-/

namespace ProseCheck

namespace Text

/-! ### The lower case of a part of a text -/

/-- Whether the nearest character before the end of `s` that is not case-ignorable is cased, where
`cased` tells it for the place in front of `s`. -/
def casedAfter (cased : Bool) (s : List Char) : Bool :=
  s.foldl (fun cased c => if isCaseIgnorable c then cased else isCased c) cased

/-- The lower case of a part of a text that stands in front of `next`. -/
def lowerWithin (cased : Bool) : (part next : List Char) → List Char
  | [], _ => []
  | c :: s, next =>
    (if c = capitalSigma && cased && !startsCased (s ++ next) then [finalSigma] else lowerChar c) ++
      lowerWithin (if isCaseIgnorable c then cased else isCased c) s next

/-- What a text leaves behind is found by going through its parts in turn. -/
theorem casedAfter_append (cased : Bool) (s t : List Char) :
    casedAfter cased (s ++ t) = casedAfter (casedAfter cased s) t :=
  List.foldl_append

/-- The lower case of a text is that of its first part, then that of the rest. -/
theorem lowerAfter_append (cased : Bool) (s t : List Char) :
    lowerAfter cased (s ++ t) = lowerWithin cased s t ++ lowerAfter (casedAfter cased s) t := by
  induction s generalizing cased with
  | nil => rfl
  | cons c s ih =>
    rw [List.cons_append, lowerAfter, ih, lowerWithin, List.append_assoc]
    rfl

/-- The last part of a text has nothing behind it. -/
theorem lowerWithin_nil (cased : Bool) (s : List Char) :
    lowerWithin cased s [] = lowerAfter cased s := by
  simpa [lowerAfter] using (lowerAfter_append cased s []).symm

/-! ### Neighbours -/

section Neighbour

variable {s : List Char}

/-- Characters that are looked through do not change what stands before. -/
theorem casedAfter_of_ignorable (hs : ∀ c ∈ s, isCaseIgnorable c = true) (cased : Bool) :
    casedAfter cased s = cased := by
  induction s with
  | nil => rfl
  | cons c s ih =>
    obtain ⟨hc, hs⟩ := List.forall_mem_cons.mp hs
    rw [casedAfter, List.foldl_cons, if_pos hc]
    exact ih hs

/-- A character that is not looked through hides what stands before it. -/
theorem casedAfter_eq_of_exists (hs : ∃ c ∈ s, isCaseIgnorable c = false) (cased cased' : Bool) :
    casedAfter cased s = casedAfter cased' s := by
  obtain ⟨c, hc, hseen⟩ := hs
  obtain ⟨u, v, rfl⟩ := List.append_of_mem hc
  simp [casedAfter, hseen]

/-- Characters that are looked through do not change what stands behind. -/
theorem startsCased_append_of_ignorable (hs : ∀ c ∈ s, isCaseIgnorable c = true)
    (next : List Char) : startsCased (s ++ next) = startsCased next := by
  rw [startsCased, List.dropWhile_append_of_pos hs, startsCased]

/-- A character that is not looked through hides what stands behind it. -/
theorem startsCased_append_of_exists (hs : ∃ c ∈ s, isCaseIgnorable c = false)
    (next : List Char) : startsCased (s ++ next) = startsCased s := by
  have hne : s.dropWhile isCaseIgnorable ≠ [] := by
    rw [ne_eq, List.dropWhile_eq_nil_iff]
    intro hall
    obtain ⟨c, hc, hseen⟩ := hs
    simp [hall c hc] at hseen
  rw [startsCased, List.dropWhile_append, if_neg (by simpa using hne),
    List.head?_append_of_ne_nil _ hne, startsCased]

/-- A text that starts cased does so in front of any other text. -/
theorem startsCased_append_of_startsCased (hs : startsCased s = true) (next : List Char) :
    startsCased (s ++ next) = true := by
  rw [startsCased_append_of_exists _ next, hs]
  by_contra hall
  have hignorable : ∀ c ∈ s, isCaseIgnorable c = true := by simpa using hall
  have hnone := startsCased_append_of_ignorable hignorable []
  rw [List.append_nil, hs] at hnone
  cases hnone

/-- A capital sigma is not looked past. -/
theorem isCaseIgnorable_capitalSigma : isCaseIgnorable capitalSigma = false := by decide

end Neighbour

/-! ### The sigmas of a phrase -/

/-- The capital sigmas of a text, each by what stands before it and behind it. -/
def sigmas : List Char → List (List Char × List Char)
  | [] => []
  | c :: s =>
    (if c = capitalSigma then [([], s)] else []) ++ (sigmas s).map fun (u, v) => (c :: u, v)

/-- A text is cut at each of its sigmas. -/
theorem mem_sigmas_iff {s u v : List Char} : (u, v) ∈ sigmas s ↔ s = u ++ capitalSigma :: v := by
  induction s generalizing u with
  | nil => simp [sigmas]
  | cons c s ih =>
    cases u with
    | nil => simp [sigmas, List.mem_ite_nil_right, eq_comm]
    | cons d u => simp [sigmas, List.mem_ite_nil_right, ih, and_comm, eq_comm]

/-- Whether a capital sigma between two texts ends a word, and so gets the final form. -/
def endsWord (before after : List Char) : Bool :=
  casedAfter false before && !startsCased after

/-- Each sigma of a phrase between two texts ends a word exactly when it ends one in the phrase
alone. -/
def KeepsSigmas (before phrase after : List Char) : Prop :=
  ∀ uv ∈ sigmas phrase, endsWord (before ++ uv.1) (uv.2 ++ after) = endsWord uv.1 uv.2

/-- A phrase has a sigma that may or may not end a word, depending on the text around the phrase: it
is the first letter with no letter behind it, or the last letter with a letter before it. -/
def HasLooseSigma (phrase : List Char) : Prop :=
  ∃ uv ∈ sigmas phrase,
    uv.1.all isCaseIgnorable = true ∧ startsCased uv.2 = false ∨
      uv.2.all isCaseIgnorable = true ∧ casedAfter false uv.1 = true

instance (before phrase after : List Char) : Decidable (KeepsSigmas before phrase after) :=
  inferInstanceAs (Decidable (∀ uv ∈ sigmas phrase, _))

instance (phrase : List Char) : Decidable (HasLooseSigma phrase) :=
  inferInstanceAs (Decidable (∃ uv ∈ sigmas phrase, _))

/-- The lower case of a part is settled by which of its sigmas end a word. -/
theorem lowerWithin_congr {part next next' : List Char} {cased cased' : Bool}
    (h : ∀ uv ∈ sigmas part, (casedAfter cased uv.1 && !startsCased (uv.2 ++ next)) =
      (casedAfter cased' uv.1 && !startsCased (uv.2 ++ next'))) :
    lowerWithin cased part next = lowerWithin cased' part next' := by
  induction part generalizing cased cased' with
  | nil => rfl
  | cons c s ih =>
    have hrest : lowerWithin (if isCaseIgnorable c then cased else isCased c) s next =
        lowerWithin (if isCaseIgnorable c then cased' else isCased c) s next' := by
      apply ih
      intro uv huv
      exact h (c :: uv.1, uv.2) (List.mem_append_right _ (List.mem_map.mpr ⟨uv, huv, rfl⟩))
    rw [lowerWithin, lowerWithin, hrest]
    by_cases hc : c = capitalSigma
    · have hhere := h ([], s) (by simp [sigmas, hc])
      simp only [casedAfter, List.foldl_nil] at hhere
      simp only [hc, decide_true, Bool.true_and, hhere]
    · simp [hc]

/-- A phrase whose sigmas are kept is found in the lower case of the text. -/
theorem KeepsSigmas.lower_isInfix {before phrase after : List Char}
    (h : KeepsSigmas before phrase after) :
    lower phrase <:+: lower (before ++ phrase ++ after) := by
  have hpart : lowerWithin (casedAfter false before) phrase after = lower phrase := by
    rw [lower, ← lowerWithin_nil]
    apply lowerWithin_congr
    intro uv huv
    rw [← casedAfter_append, List.append_nil]
    exact h uv huv
  have htext : lower (before ++ phrase ++ after) = lowerWithin false before (phrase ++ after) ++
      (lower phrase ++ lowerAfter (casedAfter (casedAfter false before) phrase) after) := by
    rw [List.append_assoc, lower, lowerAfter_append, lowerAfter_append, hpart]
  rw [htext]
  exact ⟨_, _, List.append_assoc _ _ _⟩

/-- The sigmas of a phrase without a loose one are kept in every text. -/
theorem keepsSigmas_of_not_hasLooseSigma {phrase : List Char} (h : ¬HasLooseSigma phrase)
    (before after : List Char) : KeepsSigmas before phrase after := by
  rintro ⟨u, v⟩ huv
  simp only [endsWord]
  by_cases hu : ∀ c ∈ u, isCaseIgnorable c = true
  · -- Nothing in the phrase stands before the sigma, so a letter stands behind it.
    have hv : startsCased v = true := by
      by_contra hnot
      exact h ⟨(u, v), huv, Or.inl ⟨List.all_eq_true.mpr hu, by simpa using hnot⟩⟩
    rw [startsCased_append_of_startsCased hv, hv, Bool.not_true, Bool.and_false, Bool.and_false]
  · have hhidden : casedAfter false (before ++ u) = casedAfter false u := by
      rw [casedAfter_append]
      exact casedAfter_eq_of_exists (by simpa using hu) _ _
    rw [hhidden]
    cases hcased : casedAfter false u with
    | false => rfl
    | true =>
      have hv : ∃ c ∈ v, isCaseIgnorable c = false := by
        by_contra hall
        exact h ⟨(u, v), huv, Or.inr ⟨by simpa using hall, hcased⟩⟩
      rw [startsCased_append_of_exists hv]

/-- The small letter sigma inside a word. -/
def smallSigma : Char := Char.ofNat 0x3C3

/-- The lower case of a capital sigma at the front depends on both of its sides. -/
theorem lowerAfter_sigma_cons (cased : Bool) (s : List Char) :
    lowerAfter cased (capitalSigma :: s) =
      (if cased && !startsCased s then finalSigma else smallSigma) :: lowerAfter true s := by
  have hlower : lowerChar capitalSigma = [smallSigma] := by decide
  have hcased : isCased capitalSigma = true := by decide
  simp only [lowerAfter, isCaseIgnorable_capitalSigma, hcased, hlower, decide_true, Bool.true_and]
  split <;> rfl

/-- Characters that are looked through have no sigma among them. -/
theorem sigmas_eq_nil_of_ignorable {s : List Char} (hs : ∀ c ∈ s, isCaseIgnorable c = true) :
    sigmas s = [] := by
  rw [List.eq_nil_iff_forall_not_mem]
  rintro ⟨u, v⟩ huv
  rw [mem_sigmas_iff] at huv
  have hsigma := hs capitalSigma (by simp [huv])
  rw [isCaseIgnorable_capitalSigma] at hsigma
  cases hsigma

/-- A phrase whose first letter is a sigma with no letter behind it is lost behind a letter: the
sigma ends a word there. -/
theorem not_isInfix_of_first {u v : List Char} (hu : ∀ c ∈ u, isCaseIgnorable c = true)
    (hv : startsCased v = false) :
    ¬lower (u ++ capitalSigma :: v) <:+: lower (['a'] ++ (u ++ capitalSigma :: v)) := by
  intro hinfix
  have hsame : lowerWithin true u (capitalSigma :: v) = lowerWithin false u (capitalSigma :: v) :=
    lowerWithin_congr (by simp [sigmas_eq_nil_of_ignorable hu])
  have halone : lower (u ++ capitalSigma :: v) =
      lowerWithin false u (capitalSigma :: v) ++ smallSigma :: lowerAfter true v := by
    rw [lower, lowerAfter_append, casedAfter_of_ignorable hu, lowerAfter_sigma_cons]
    rfl
  have hbehind : lower (['a'] ++ (u ++ capitalSigma :: v)) =
      'a' :: (lowerWithin false u (capitalSigma :: v) ++ finalSigma :: lowerAfter true v) := by
    have ha : lowerWithin false ['a'] (u ++ capitalSigma :: v) = ['a'] := rfl
    have hcased : casedAfter false ['a'] = true := by decide
    rw [lower, lowerAfter_append, ha, hcased, lowerAfter_append, casedAfter_of_ignorable hu, hsame,
      lowerAfter_sigma_cons, hv]
    rfl
  have hcount := hinfix.count_le smallSigma
  have hne : smallSigma ≠ 'a' ∧ smallSigma ≠ finalSigma := by decide
  rw [halone, hbehind, List.count_cons_of_ne hne.1.symm, List.count_append, List.count_append,
    List.count_cons_self, List.count_cons_of_ne hne.2.symm] at hcount
  omega

/-- A phrase whose last letter is a sigma with a letter before it is lost in front of a letter: the
sigma does not end a word there. -/
theorem not_isInfix_of_last {u v : List Char} (hv : ∀ c ∈ v, isCaseIgnorable c = true)
    (hu : casedAfter false u = true) :
    ¬lower (u ++ capitalSigma :: v) <:+: lower (u ++ capitalSigma :: v ++ ['a']) := by
  intro hinfix
  have hsame : lowerWithin false u (capitalSigma :: v ++ ['a']) =
      lowerWithin false u (capitalSigma :: v) := by
    apply lowerWithin_congr
    intro uv _
    -- The sigma hides what stands behind the phrase from all that stands before the sigma.
    have hseen : ∃ c ∈ uv.2 ++ capitalSigma :: v, isCaseIgnorable c = false :=
      ⟨capitalSigma, by simp, isCaseIgnorable_capitalSigma⟩
    rw [← startsCased_append_of_exists hseen ['a'], List.append_assoc]
  have htail : lowerAfter true (v ++ ['a']) = lowerAfter true v ++ ['a'] := by
    have hnext : lowerWithin true v ['a'] = lowerWithin true v [] :=
      lowerWithin_congr (by simp [sigmas_eq_nil_of_ignorable hv])
    have ha : lowerAfter (casedAfter true v) ['a'] = ['a'] := rfl
    rw [lowerAfter_append, hnext, lowerWithin_nil, ha]
  have halone : lower (u ++ capitalSigma :: v) =
      lowerWithin false u (capitalSigma :: v) ++ finalSigma :: lowerAfter true v := by
    have hnone : startsCased v = false := by
      rw [← List.append_nil v, startsCased_append_of_ignorable hv]
      rfl
    rw [lower, lowerAfter_append, hu, lowerAfter_sigma_cons, hnone]
    rfl
  have hbefore : lower (u ++ capitalSigma :: v ++ ['a']) =
      lowerWithin false u (capitalSigma :: v) ++
        smallSigma :: (lowerAfter true v ++ ['a']) := by
    have hcased : startsCased (v ++ ['a']) = true := by
      rw [startsCased_append_of_ignorable hv]
      decide
    rw [lower, List.append_assoc, lowerAfter_append, hsame, hu, List.cons_append,
      lowerAfter_sigma_cons, hcased, htail]
    rfl
  have hcount := hinfix.count_le finalSigma
  have hne : finalSigma ≠ 'a' ∧ finalSigma ≠ smallSigma := by decide
  have hzero : List.count finalSigma ['a'] = 0 := List.count_eq_zero.mpr (by simpa using hne.1)
  rw [halone, hbefore, List.count_append, List.count_append, List.count_cons_self,
    List.count_cons_of_ne hne.2.symm, List.count_append, hzero] at hcount
  omega

/-- A phrase with a loose sigma is lost in some text that it occurs in. -/
theorem HasLooseSigma.exists_not_isInfix {phrase : List Char} (h : HasLooseSigma phrase) :
    ∃ before after, ¬lower phrase <:+: lower (before ++ phrase ++ after) := by
  obtain ⟨⟨u, v⟩, huv, hloose⟩ := h
  rw [mem_sigmas_iff] at huv
  subst huv
  rcases hloose with ⟨hu, hv⟩ | ⟨hv, hu⟩
  · exact ⟨['a'], [], by simpa using not_isInfix_of_first (List.all_eq_true.mp hu) hv⟩
  · exact ⟨[], ['a'], not_isInfix_of_last (List.all_eq_true.mp hv) hu⟩

end Text

namespace Check

open Document

/-- The phrases of a list that are found in a node, each as often as it is in the list. -/
def foundPhrases (phrases : List String) (n : Node) : List String :=
  phrases.filter fun phrase => Text.occursIn (Text.lower phrase.toList) (Text.lower n.text.toList)

/-- A phrase that is found once is found as often as it is in the list. -/
theorem count_foundPhrases {phrases : List String} {n : Node} {phrase : String}
    (h : Text.lower phrase.toList <:+: Text.lower n.text.toList) :
    (foundPhrases phrases n).count phrase = phrases.count phrase :=
  List.count_filter ((Text.occursIn_iff_isInfix _ _).mpr h)

/-- A phrase whose sigmas are kept at some place of a node is found there. -/
theorem count_foundPhrases_of_keepsSigmas {phrases : List String} {n : Node} {phrase : String}
    {before after : List Char} (htext : n.text.toList = before ++ phrase.toList ++ after)
    (hkeeps : Text.KeepsSigmas before phrase.toList after) :
    (foundPhrases phrases n).count phrase = phrases.count phrase := by
  apply count_foundPhrases
  rw [htext]
  exact hkeeps.lower_isInfix

/-- A paragraph of one text. -/
def textParagraph (text : String) : Node :=
  .mk .paragraph (some 1) [.mk (.text text) none []]

/-- A paragraph of one text is flagged for the phrases that are found in the text. -/
theorem flagged_textParagraph (phrases : List String) (text : String) :
    (bannedPhrases phrases).flagged (textParagraph text) =
      (phrases.filter fun phrase =>
        decide (Text.lower phrase.toList <:+: Text.lower text.toList)).map
          fun _ => textParagraph text := by
  have hfound : (textParagraph text).findAll [.paragraph, .heading] = [textParagraph text] := rfl
  have htext : (textParagraph text).text = text := by
    rw [Node.text, Node.nodes_eq_preorder]
    simp [textParagraph, Node.preorder, preorderAll, Content.ownText, Node.content]
  simp only [flagged, flaggedByPhrase, hfound, List.flatMap_singleton, htext,
    Text.occursIn_eq_decide]

/-- The ban of phrases flags a heading or a paragraph once for each phrase that is found in it.
Among these is every phrase that occurs verbatim where its sigmas are kept, which is everywhere for
a phrase without a loose sigma. A phrase with a loose sigma is missed in some paragraph that has it
verbatim. -/
theorem flagged_verbatim_phrases (phrases : List String) (tree : Node) :
    (bannedPhrases phrases).flagged tree =
      (tree.findAll [.paragraph, .heading]).flatMap
        (fun n => (foundPhrases phrases n).map fun _ => n) ∧
    (∀ n ∈ tree.findAll [.paragraph, .heading], ∀ (phrase : String) (before after : List Char),
      n.text.toList = before ++ phrase.toList ++ after →
      Text.KeepsSigmas before phrase.toList after →
      (foundPhrases phrases n).count phrase = phrases.count phrase) ∧
    (∀ n ∈ tree.findAll [.paragraph, .heading], ∀ phrase : String,
      ¬Text.HasLooseSigma phrase.toList → phrase.toList <:+: n.text.toList →
      (foundPhrases phrases n).count phrase = phrases.count phrase) ∧
    ∀ phrase : String, Text.HasLooseSigma phrase.toList →
      ∃ text : String, phrase.toList <:+: text.toList ∧
        (bannedPhrases [phrase]).flagged (textParagraph text) = [] := by
  refine ⟨rfl, fun n _ phrase before after => count_foundPhrases_of_keepsSigmas,
    fun n _ phrase hloose hinfix => ?_, fun phrase hloose => ?_⟩
  · obtain ⟨before, after, htext⟩ := hinfix
    exact count_foundPhrases_of_keepsSigmas htext.symm
      (Text.keepsSigmas_of_not_hasLooseSigma hloose before after)
  · obtain ⟨before, after, hlost⟩ := hloose.exists_not_isInfix
    refine ⟨String.ofList (before ++ phrase.toList ++ after), ⟨before, after, by simp⟩, ?_⟩
    rw [flagged_textParagraph, String.toList_ofList, List.filter_singleton,
      decide_eq_false hlost]
    rfl

/-- A phrase with a sigma at its end is found in front of a full stop, and twice if it is listed
twice. One with sigmas at the ends of inner words is found in front of a letter. -/
theorem flagged_verbatim_phrases_stop :
    Text.KeepsSigmas "Η ".toList "ΟΔΟΣ".toList ".".toList ∧
      (foundPhrases ["ΟΔΟΣ", "ΟΔΟΣ"] (textParagraph "Η ΟΔΟΣ.")).count "ΟΔΟΣ" = 2 ∧
      ¬Text.HasLooseSigma "ΜΑΣ ΑΣ Δ".toList ∧
      (foundPhrases ["ΜΑΣ ΑΣ Δ"] (textParagraph "ΜΑΣ ΑΣ ΔΟΥΜΕ")).count "ΜΑΣ ΑΣ Δ" = 1 := by
  have hkeeps : Text.KeepsSigmas "Η ".toList "ΟΔΟΣ".toList ".".toList := by decide
  have hloose : ¬Text.HasLooseSigma "ΜΑΣ ΑΣ Δ".toList := by decide
  obtain ⟨_, hplace, _, _⟩ :=
    flagged_verbatim_phrases ["ΟΔΟΣ", "ΟΔΟΣ"] (textParagraph "Η ΟΔΟΣ.")
  obtain ⟨_, _, hanywhere, _⟩ :=
    flagged_verbatim_phrases ["ΜΑΣ ΑΣ Δ"] (textParagraph "ΜΑΣ ΑΣ ΔΟΥΜΕ")
  refine ⟨hkeeps, ?_, hloose, ?_⟩
  · exact hplace _ (List.mem_singleton_self _) _ "Η ".toList ".".toList (by decide) hkeeps
  · exact hanywhere _ (List.mem_singleton_self _) _ hloose (by decide)

/-- A phrase that is a text of its own is found in it. The same phrase at the start of a longer word
is not, for its last letter does not end the word there. -/
theorem flagged_phrase_in_longer_word :
    "ΟΔΟΣ".toList <:+: (textParagraph "ΟΔΟΣΤΡΩΜΑ").text.toList ∧
      (bannedPhrases ["ΟΔΟΣ"]).flagged (textParagraph "ΟΔΟΣ") = [textParagraph "ΟΔΟΣ"] ∧
      (bannedPhrases ["ΟΔΟΣ"]).flagged (textParagraph "ΟΔΟΣΤΡΩΜΑ") = [] :=
  ⟨by decide, rfl, rfl⟩

end Check

end ProseCheck
