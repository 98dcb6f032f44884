import ProseCheck.Text.Sentence
import Mathlib.Data.List.DropRight

/-!
# The form of sentences

Cutting a text into sentences takes the texts on both sides of a run of terminators apart: the
sentences of the whole are those of the two sides. A text without terminators is one sentence after
trimming, or none if it is blank. Sentences are in a form that cutting leaves alone, so they can be
joined again by any separator with a terminator in it.
-/

namespace ProseCheck.Text

/-! ### Fields -/

/-- Putting a character in front of the first field changes that field. -/
theorem consHead_eq_modifyHead (c : Char) {fs : List (List Char)} (hne : fs ≠ []) :
    consHead c fs = fs.modifyHead (c :: ·) := by
  obtain ⟨f, fs, rfl⟩ := List.exists_cons_of_ne_nil hne
  rfl

/-- The fields of a text are what the library cuts at the separators. -/
theorem fields_eq_splitOnP (sep : Char → Bool) (s : List Char) :
    fields sep s = s.splitOnP sep := by
  induction s with
  | nil => rfl
  | cons c s ih =>
    rw [fields, ih, consHead_eq_modifyHead c (List.splitOnP_ne_nil sep s),
      List.splitOnP_cons_eq_if_modifyHead]

/-- A text has at least one field. -/
theorem exists_fields_eq_cons (sep : Char → Bool) (s : List Char) :
    ∃ f fs, fields sep s = f :: fs := by
  rw [fields_eq_splitOnP]
  exact List.exists_cons_of_ne_nil (List.splitOnP_ne_nil sep s)

/-- No separator is left in a field. -/
theorem sep_eq_false_of_mem_fields {sep : Char → Bool} {s f : List Char} (hf : f ∈ fields sep s) :
    ∀ c ∈ f, sep c = false := by
  induction s generalizing f with
  | nil =>
    obtain rfl : f = [] := by simpa [fields] using hf
    simp
  | cons d s ih =>
    by_cases hd : sep d = true
    · rw [fields, if_pos hd, List.mem_cons] at hf
      rcases hf with rfl | hf
      · simp
      · exact ih hf
    · rw [fields, if_neg hd] at hf
      obtain ⟨g, gs, hgs⟩ := exists_fields_eq_cons sep s
      rw [hgs, consHead, List.mem_cons] at hf
      rcases hf with rfl | hf
      · have hg : ∀ c ∈ g, sep c = false := ih (by simp [hgs])
        simpa [hd] using hg
      · exact ih (by simp [hgs, hf])

/-- The pieces between runs of separators and the fields between separators start alike. They go on
alike but for fields that are empty, and trimming leaves those empty. -/
theorem exists_pieces_eq_cons (sep : Char → Bool) (s : List Char) :
    ∃ f ps fs, pieces sep s = f :: ps ∧ fields sep s = f :: fs ∧
      (ps.map trim).filter (fun t => !t.isEmpty) = (fs.map trim).filter (fun t => !t.isEmpty) := by
  induction s with
  | nil => exact ⟨[], [], [], rfl, rfl, rfl⟩
  | cons c s ih =>
    obtain ⟨f, ps, fs, hps, hfs, hrest⟩ := ih
    by_cases hc : sep c = true
    · by_cases hrun : s.head?.any sep = true
      · -- The run goes on, so the fields have one more empty field than the pieces.
        have hf : f = [] := by
          cases s with
          | nil => simp at hrun
          | cons d s =>
            have hd : sep d = true := by simpa using hrun
            rw [fields, if_pos hd] at hfs
            exact (List.cons.inj hfs).1.symm
        subst hf
        exact ⟨[], ps, [] :: fs, by rw [pieces, if_pos hc, if_pos hrun, hps],
          by rw [fields, if_pos hc, hfs], hrest⟩
      · refine ⟨[], f :: ps, f :: fs, by rw [pieces, if_pos hc, if_neg hrun, hps],
          by rw [fields, if_pos hc, hfs], ?_⟩
        simp only [List.map_cons, List.filter_cons, hrest]
    · exact ⟨c :: f, ps, fs, by rw [pieces, if_neg hc, hps, consHead],
        by rw [fields, if_neg hc, hfs, consHead], hrest⟩

/-- Cutting at every terminator gives the same sentences as cutting at runs of them. -/
theorem sentences_eq_fields (s : List Char) :
    sentences s = ((fields isTerminator s).map trim).filter (fun t => !t.isEmpty) := by
  obtain ⟨f, ps, fs, hps, hfs, hrest⟩ := exists_pieces_eq_cons isTerminator s
  rw [sentences, hps, hfs]
  simp only [List.map_cons, List.filter_cons, hrest]

/-! ### Trimming -/

/-- A text has no character of a class at its two ends. -/
structure Trimmed (p : Char → Bool) (s : List Char) : Prop where
  first : ∀ c, s.head? = some c → p c = false
  last : ∀ c, s.getLast? = some c → p c = false

section Trim

variable {p : Char → Bool} {s u : List Char}

/-- Trimming drops the class at the front and then at the back. -/
theorem trimBy_eq_rdropWhile (p : Char → Bool) (s : List Char) :
    trimBy p s = (s.dropWhile p).rdropWhile p := rfl

/-- Trimming leaves nothing of a text exactly when all of it is in the class. -/
theorem trimBy_eq_nil_iff : trimBy p s = [] ↔ ∀ c ∈ s, p c = true := by
  rw [trimBy_eq_rdropWhile, List.rdropWhile_eq_nil_iff, ← List.dropWhile_eq_nil_iff,
    List.dropWhile_idempotent, List.dropWhile_eq_nil_iff]

/-- What trimming leaves stands in one piece in the text. -/
theorem trimBy_isInfix (p : Char → Bool) (s : List Char) : trimBy p s <:+: s := by
  rw [trimBy_eq_rdropWhile]
  exact (List.rdropWhile_prefix p _).isInfix.trans (List.dropWhile_suffix p).isInfix

/-- Trimming leaves a text that is trimmed. -/
theorem trimmed_trimBy (p : Char → Bool) (s : List Char) : Trimmed p (trimBy p s) := by
  constructor
  · intro c hc
    obtain ⟨tail, htail⟩ := List.rdropWhile_prefix p (s.dropWhile p)
    -- The first character that is left is also the first one after the front is dropped.
    have hhead : (s.dropWhile p).head? = some c := by
      rw [← htail, ← trimBy_eq_rdropWhile, List.head?_append, hc]
      rfl
    have hnot := List.head?_dropWhile_not p s
    rwa [hhead] at hnot
  · intro c hc
    have hne : trimBy p s ≠ [] := by
      rintro hnil
      simp [hnil] at hc
    rw [List.getLast?_eq_some_getLast hne, Option.some.injEq] at hc
    rw [← hc, ← Bool.not_eq_true]
    exact List.rdropWhile_last_not p (s.dropWhile p) hne

/-- Trimming leaves a trimmed text alone. -/
theorem Trimmed.trimBy_eq (h : Trimmed p s) : trimBy p s = s := by
  have hfront : s.dropWhile p = s := by
    cases s with
    | nil => rfl
    | cons c s => exact List.dropWhile_cons_of_neg (by simp [h.first c rfl])
  rw [trimBy_eq_rdropWhile, hfront, List.rdropWhile_eq_self_iff]
  intro hne
  simp [h.last _ (List.getLast?_eq_some_getLast hne)]

/-- Characters of the class in front of a text are trimmed. -/
theorem trimBy_append_left (hu : ∀ c ∈ u, p c = true) (s : List Char) :
    trimBy p (u ++ s) = trimBy p s := by
  rw [trimBy_eq_rdropWhile, List.dropWhile_append_of_pos hu, trimBy_eq_rdropWhile]

/-- Characters of the class behind a text are trimmed. -/
theorem trimBy_append_right (s : List Char) (hu : ∀ c ∈ u, p c = true) :
    trimBy p (s ++ u) = trimBy p s := by
  rw [trimBy_eq_rdropWhile, trimBy_eq_rdropWhile, List.dropWhile_append]
  split
  · rename_i hempty
    rw [List.isEmpty_iff.mp hempty, List.dropWhile_eq_nil_iff.mpr hu]
  · rw [List.rdropWhile, List.rdropWhile, List.reverse_append,
      List.dropWhile_append_of_pos (by simpa using hu)]

end Trim

/-! ### Sentences -/

/-- A text that cutting into sentences leaves alone. -/
structure IsSentence (s : List Char) : Prop where
  ne_nil : s ≠ []
  unended : ∀ c ∈ s, isTerminator c = false
  trimmed : Trimmed isBlank s

/-- A text that may stand between sentences, of blanks and terminators. -/
def IsGap (gap : List Char) : Prop :=
  ∀ c ∈ gap, isBlank c = true ∨ isTerminator c = true

section Sentence

variable {s t : List Char}

/-- A terminator separates the sentences before it from those behind it. -/
theorem sentences_append_cons {c : Char} (hc : isTerminator c = true) (a b : List Char) :
    sentences (a ++ c :: b) = sentences a ++ sentences b := by
  simp only [sentences_eq_fields, fields_eq_splitOnP]
  rw [List.splitOnP_append_cons a b hc, List.map_append, List.filter_append]

/-- A text without terminators is one sentence, unless it is blank. -/
theorem sentences_of_unended (ht : ∀ c ∈ t, isTerminator c = false) :
    sentences t = if t.all isBlank then [] else [trim t] := by
  rw [sentences_eq_fields, fields_eq_splitOnP, List.splitOnP_eq_singleton ht, List.map_singleton]
  by_cases hblank : t.all isBlank = true
  · have hnil : trim t = [] := trimBy_eq_nil_iff.mpr (List.all_eq_true.mp hblank)
    simp [hblank, hnil]
  · have hne : trim t ≠ [] := fun hnil => hblank (List.all_eq_true.mpr (trimBy_eq_nil_iff.mp hnil))
    simp [hblank, hne]

/-- Sentences have the form of a sentence. -/
theorem isSentence_of_mem_sentences (hs : s ∈ sentences t) : IsSentence s := by
  rw [sentences_eq_fields, List.mem_filter, List.mem_map] at hs
  obtain ⟨⟨f, hf, rfl⟩, hne⟩ := hs
  refine ⟨by simpa using hne, fun c hc => ?_, trimmed_trimBy isBlank f⟩
  exact sep_eq_false_of_mem_fields hf c ((trimBy_isInfix isBlank f).subset hc)

/-- A sentence with blanks behind it is that sentence. -/
theorem IsSentence.sentences_append (hs : IsSentence s) {u : List Char}
    (hblank : ∀ c ∈ u, isBlank c = true) (hended : ∀ c ∈ u, isTerminator c = false) :
    sentences (s ++ u) = [s] := by
  have hunended : ∀ c ∈ s ++ u, isTerminator c = false :=
    List.forall_mem_append.mpr ⟨hs.unended, hended⟩
  have htrim : trim (s ++ u) = s := (trimBy_append_right s hblank).trans hs.trimmed.trimBy_eq
  have hnot : ¬(s ++ u).all isBlank = true := by
    rw [List.all_eq_true, ← trimBy_eq_nil_iff]
    exact fun hnil => hs.ne_nil (htrim.symm.trans hnil)
  rw [sentences_of_unended hunended, if_neg hnot, htrim]

/-- A blank in front of a text changes none of its sentences. -/
theorem sentences_cons_of_blank {c : Char} (hblank : isBlank c = true)
    (hended : isTerminator c = false) (t : List Char) : sentences (c :: t) = sentences t := by
  obtain ⟨f, fs, hfs⟩ := exists_fields_eq_cons isTerminator t
  have htrim : trim (c :: f) = trim f := trimBy_append_left (u := [c]) (by simpa using hblank) f
  rw [sentences_eq_fields, sentences_eq_fields, fields, if_neg (by simp [hended]), hfs, consHead,
    List.map_cons, List.map_cons, htrim]

/-- A gap in front of a text changes none of its sentences. -/
theorem IsGap.sentences_append {gap : List Char} (hgap : IsGap gap) (t : List Char) :
    sentences (gap ++ t) = sentences t := by
  induction gap with
  | nil => rfl
  | cons c gap ih =>
    obtain ⟨hc, hgap⟩ := List.forall_mem_cons.mp hgap
    rw [← ih hgap, List.cons_append]
    cases hended : isTerminator c with
    | true => exact sentences_append_cons hended [] (gap ++ t)
    | false => exact sentences_cons_of_blank (by simpa [hended] using hc) hended (gap ++ t)

/-- A run of terminators separates the sentences before it from those behind it. -/
theorem sentences_append_run {r : List Char} (hne : r ≠ [])
    (hr : ∀ c ∈ r, isTerminator c = true) (a b : List Char) :
    sentences (a ++ r ++ b) = sentences a ++ sentences b := by
  obtain ⟨c, r, rfl⟩ := List.exists_cons_of_ne_nil hne
  obtain ⟨hc, hr⟩ := List.forall_mem_cons.mp hr
  have hgap : IsGap r := fun d hd => Or.inr (hr d hd)
  rw [List.append_assoc, List.cons_append, sentences_append_cons hc, hgap.sentences_append]

/-- Sentences that are joined by gaps with a terminator are found again. -/
theorem sentences_intercalate {gap : List Char} (hgap : IsGap gap)
    (hend : ∃ c ∈ gap, isTerminator c = true) {ss : List (List Char)}
    (hss : ∀ s ∈ ss, IsSentence s) : sentences (gap.intercalate ss) = ss := by
  -- The gap is cut at its first terminator; what stands before it is blank.
  obtain ⟨c, hfirst⟩ := Option.isSome_iff_exists.mp (List.find?_isSome.mpr hend)
  obtain ⟨hc, u, v, rfl, hu⟩ := List.find?_eq_some_iff_append.mp hfirst
  obtain ⟨hgapu, hgapv⟩ := List.forall_mem_append.mp hgap
  have hended : ∀ d ∈ u, isTerminator d = false := fun d hd => by simpa using hu d hd
  have hblank : ∀ d ∈ u, isBlank d = true := fun d hd => by simpa [hended d hd] using hgapu d hd
  have hrest : IsGap v := (List.forall_mem_cons.mp hgapv).2
  induction ss with
  | nil => rfl
  | cons s ss ih =>
    obtain ⟨hs, hss⟩ := List.forall_mem_cons.mp hss
    by_cases hnil : ss = []
    · subst hnil
      have halone := hs.sentences_append (u := []) (by simp) (by simp)
      rw [List.append_nil] at halone
      rwa [List.intercalate_singleton]
    · have hcut : s ++ (u ++ c :: v) ++ (u ++ c :: v).intercalate ss =
          (s ++ u) ++ c :: (v ++ (u ++ c :: v).intercalate ss) := by simp
      rw [List.intercalate_cons_of_ne_nil hnil, hcut, sentences_append_cons hc,
        hs.sentences_append hblank hended, hrest.sentences_append, ih hss]
      rfl

end Sentence

/-- Cutting into sentences turns a run of terminators into an append, and gives a text without
terminators as it is, trimmed, unless it is blank. So every sentence has characters, none of them a
terminator and neither the first nor the last one a blank, and sentences that are joined by blanks
and terminators, with a terminator among them, are cut into the same sentences. -/
theorem sentences_cut_and_join :
    (∀ a r b : List Char, r ≠ [] → (∀ c ∈ r, isTerminator c = true) →
      sentences (a ++ r ++ b) = sentences a ++ sentences b) ∧
    (∀ t : List Char, (∀ c ∈ t, isTerminator c = false) →
      sentences t = if t.all isBlank then [] else [trim t]) ∧
    (∀ t, ∀ s ∈ sentences t, s ≠ [] ∧ (∀ c ∈ s, isTerminator c = false) ∧
      (∀ c, s.head? = some c → isBlank c = false) ∧
      ∀ c, s.getLast? = some c → isBlank c = false) ∧
    ∀ t gap : List Char, (∀ c ∈ gap, isBlank c = true ∨ isTerminator c = true) →
      (∃ c ∈ gap, isTerminator c = true) →
      sentences (gap.intercalate (sentences t)) = sentences t := by
  refine ⟨fun a r b hne hr => sentences_append_run hne hr a b, fun t => sentences_of_unended,
    fun t s hs => ?_, fun t gap hgap hend => ?_⟩
  · have hform := isSentence_of_mem_sentences hs
    exact ⟨hform.ne_nil, hform.unended, hform.trimmed.first, hform.trimmed.last⟩
  · exact sentences_intercalate hgap hend fun s => isSentence_of_mem_sentences

/-- Terminators at the edges of both sides join the run between them, and the blanks around them go
with it. -/
theorem sentences_cut_and_join_run :
    sentences ("Wait.".toList ++ "?!".toList ++ ". Now ".toList) =
        sentences "Wait.".toList ++ sentences ". Now ".toList ∧
      sentences "\t\n".toList = [] ∧
      (∀ c, "Now".toList.head? = some c → isBlank c = false) ∧
      sentences (" !\t".toList.intercalate (sentences "Wait.?!. Now ".toList)) =
        ["Wait".toList, "Now".toList] := by
  obtain ⟨hrun, hunended, hform, hjoin⟩ := sentences_cut_and_join
  refine ⟨hrun _ _ _ (by simp) (by simp [isTerminator]),
    hunended _ (by simp [isTerminator]), ?_, ?_⟩
  · exact (hform ". Now ".toList _ (by decide)).2.2.1
  · have hgap : ∀ c ∈ " !\t".toList, isBlank c = true ∨ isTerminator c = true := by
      simp [isBlank, isTerminator]
    exact (hjoin _ _ hgap ⟨'!', by simp, rfl⟩).trans (by decide)

end ProseCheck.Text
