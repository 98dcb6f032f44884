import ProseCheck.Proofs.SentenceWords
import Mathlib.Data.Nat.Notation

/-!
# Sentence case

The pieces between runs of blanks are the words of a text, with an empty piece at each end where the
text has a blank. So whether a text is in sentence case depends on its first character, its words
and the blanks at its two ends: fewer than half of the pieces are capitalised words after the first
one. Which blanks stand between words, and how many, makes no difference, and a word that is
appended moves the answer in one direction only.
-/

namespace ProseCheck.Text

/-! ### Pieces and words -/

/-- Whether a text starts with a blank. -/
def startsBlank (t : List Char) : Bool :=
  t.head?.any isBlank

/-- Whether a text ends with a blank. -/
def endsBlank (t : List Char) : Bool :=
  t.getLast?.any isBlank

/-- The pieces that the end of a text adds to its words. -/
def outerPieces (blank : Bool) : List (List Char) :=
  if blank then [[]] else []

section Piece

variable {c d : Char} {t : List Char}

/-- The first word of a text that starts with no blank starts the text. -/
theorem exists_words_cons (hc : isBlank c = false) (s : List Char) :
    ∃ w ws, words (c :: s) = (c :: w) :: ws := by
  obtain ⟨f, fs, hfs⟩ := exists_fields_eq_cons isBlank s
  exact ⟨f, fs.filter fun w => !w.isEmpty, by simp [words, fields, hc, hfs, consHead]⟩

/-- A character that is not blank joins the first word when that starts right behind it. -/
theorem words_cons_cons (hc : isBlank c = false) (hd : isBlank d = false) (s : List Char) :
    words (c :: d :: s) = consHead c (words (d :: s)) := by
  obtain ⟨f, fs, hfs⟩ := exists_fields_eq_cons isBlank s
  simp [words, fields, hc, hd, hfs, consHead]

/-- The pieces of a text are its words, with an empty piece for a blank at either end. -/
theorem pieces_eq_words (hne : t ≠ []) :
    pieces isBlank t = outerPieces (startsBlank t) ++ words t ++ outerPieces (endsBlank t) := by
  induction t with
  | nil => exact absurd rfl hne
  | cons c s ih =>
    cases s with
    | nil =>
      cases hc : isBlank c <;>
        simp [pieces, words, fields, consHead, outerPieces, startsBlank, endsBlank, hc]
    | cons d s =>
      have hpieces := ih (by simp)
      have hends : endsBlank (c :: d :: s) = endsBlank (d :: s) := by
        rw [endsBlank, List.getLast?_cons_cons, endsBlank]
      rw [hends]
      cases hc : isBlank c with
      | true =>
        have hwords : words (c :: d :: s) = words (d :: s) := words_append_cons hc [] (d :: s)
        cases hd : isBlank d with
        | true => simpa [pieces, hc, hd, hwords, startsBlank] using hpieces
        | false =>
          have hcut : pieces isBlank (c :: d :: s) = [] :: pieces isBlank (d :: s) := by
            rw [pieces, if_pos hc, if_neg (by simp [hd])]
          rw [hcut, hpieces, hwords]
          simp [startsBlank, hc, hd, outerPieces]
      | false =>
        have hcut : pieces isBlank (c :: d :: s) = consHead c (pieces isBlank (d :: s)) := by
          rw [pieces, if_neg (by simp [hc])]
        rw [hcut, hpieces]
        cases hd : isBlank d with
        | true =>
          have hfirst : words [c] = [[c]] := words_of_unbroken (by simp) (by simpa using hc)
          have hlater : words (d :: s) = words s := words_append_cons hd [] s
          have hwords : words (c :: d :: s) = [c] :: words (d :: s) := by
            rw [hlater, ← List.singleton_append (l := words s), ← hfirst]
            exact words_append_cons hd [c] s
          rw [hwords]
          simp [startsBlank, hc, hd, outerPieces, consHead]
        | false =>
          obtain ⟨w, ws, hw⟩ := exists_words_cons hd s
          rw [words_cons_cons hc hd, hw]
          simp [startsBlank, hc, hd, outerPieces, consHead]

end Piece

/-! ### The counts -/

/-- The number of pieces of a text that is not empty: its words and the empty pieces at its ends. -/
def pieceTotal (t : List Char) : ℕ :=
  (words t).length + (if startsBlank t then 1 else 0) + if endsBlank t then 1 else 0

/-- The number of capitalised words after the first piece. The first word is the first piece unless
a blank stands in front of it. -/
def laterCapitals (t : List Char) : ℕ :=
  (if startsBlank t then words t else (words t).tail).countP isCapitalized

section Count

variable {t : List Char}

/-- The number of pieces is counted by words and outer blanks. -/
theorem length_pieces (hne : t ≠ []) : (pieces isBlank t).length = pieceTotal t := by
  rw [pieces_eq_words hne, pieceTotal]
  cases startsBlank t <;> cases endsBlank t <;> simp [outerPieces]

/-- A text that is not empty starts with a blank or has a word. -/
theorem startsBlank_or_words_ne_nil (hne : t ≠ []) : startsBlank t = true ∨ words t ≠ [] := by
  obtain ⟨c, s, rfl⟩ := List.exists_cons_of_ne_nil hne
  cases hc : isBlank c with
  | true => exact Or.inl hc
  | false =>
    obtain ⟨w, ws, hw⟩ := exists_words_cons hc s
    exact Or.inr (by simp [hw])

/-- The capitalised pieces after the first one are counted by words. -/
theorem countP_tail_pieces (hne : t ≠ []) :
    (pieces isBlank t).tail.countP isCapitalized = laterCapitals t := by
  have hlast : (outerPieces (endsBlank t)).countP isCapitalized = 0 := by
    cases endsBlank t <;> rfl
  have htail : (pieces isBlank t).tail =
      (if startsBlank t then words t else (words t).tail) ++ outerPieces (endsBlank t) := by
    rw [pieces_eq_words hne]
    rcases startsBlank_or_words_ne_nil hne with hstart | hwords
    · simp [hstart, outerPieces]
    · cases startsBlank t <;> simp [outerPieces, List.tail_append_of_ne_nil hwords]
  rw [htail, List.countP_append, hlast, Nat.add_zero, laterCapitals]

/-- The first piece is not among the capitalised words after it. -/
theorem laterCapitals_lt_pieceTotal (hne : t ≠ []) : laterCapitals t < pieceTotal t := by
  have hcount := List.countP_le_length (p := isCapitalized) (l := (pieces isBlank t).tail)
  have hpieces : 0 < (pieces isBlank t).length := by
    rw [length_pieces hne, pieceTotal]
    rcases startsBlank_or_words_ne_nil hne with hstart | hwords
    · simp only [hstart, if_true]
      omega
    · have hlength := List.length_pos_of_ne_nil hwords
      omega
  rw [countP_tail_pieces hne, List.length_tail] at hcount
  rw [length_pieces hne] at hcount hpieces
  omega

/-- A text that is not empty is in sentence case when its first character is a capital and fewer
than half of its pieces are capitalised words after the first. A single piece is no case of its
own. -/
theorem isSentenceCase_iff_of_ne_nil (hne : t ≠ []) :
    isSentenceCase t = true ↔ isCapitalized t = true ∧ 2 * laterCapitals t < pieceTotal t := by
  have hfewer := laterCapitals_lt_pieceTotal hne
  have hcount := countP_tail_pieces hne
  rw [List.countP_eq_length_filter] at hcount
  simp only [isSentenceCase, List.isEmpty_iff, hne, if_false, hcount, length_pieces hne]
  cases isCapitalized t with
  | false => simp
  | true =>
    simp only [Bool.not_true, Bool.false_eq_true, if_false, Bool.or_eq_true, decide_eq_true_eq,
      true_and]
    omega

end Count

/-! ### Runs of blanks -/

/-- The code points of blanks. -/
def blankCodes : List ℕ :=
  List.range' 0x09 5 ++ List.range' 0x1C 5 ++ [0x85, 0xA0, 0x1680] ++ List.range' 0x2000 11 ++
    [0x2028, 0x2029, 0x202F, 0x205F, 0x3000]

/-- Every blank is in the list of their numbers. -/
theorem toNat_mem_blankCodes {c : Char} (hc : isBlank c = true) : c.toNat ∈ blankCodes := by
  simp only [isBlank, Bool.or_eq_true, Bool.and_eq_true, decide_eq_true_eq, beq_iff_eq] at hc
  simp only [blankCodes, List.mem_append, List.mem_range'_1, List.mem_cons, List.not_mem_nil,
    or_false]
  omega

/-- A blank is its own upper case. -/
theorem upperChar_of_blank {c : Char} (hc : isBlank c = true) : upperChar c = [c] := by
  have hcodes : ∀ n ∈ blankCodes,
      shift? upperShifts n = none ∧ upperExpansions.lookup n = none := by
    decide +kernel
  obtain ⟨hshift, hexpansion⟩ := hcodes c.toNat (toNat_mem_blankCodes hc)
  rw [upperChar, mapCase, hshift, hexpansion]

section Run

variable {u : List Char}

/-- A run of blanks in front of `b` and behind `a`: whether a blank comes first depends on `a`. -/
theorem startsBlank_append_run (hne : u ≠ []) (hu : ∀ c ∈ u, isBlank c = true) (a b : List Char) :
    startsBlank (a ++ u ++ b) = (a.isEmpty || startsBlank a) := by
  obtain ⟨c, u, rfl⟩ := List.exists_cons_of_ne_nil hne
  cases a with
  | nil => exact hu c List.mem_cons_self
  | cons d a => rfl

/-- A run of blanks in front of `b` and behind `a`: whether a blank comes last depends on `b`. -/
theorem endsBlank_append_run (hne : u ≠ []) (hu : ∀ c ∈ u, isBlank c = true) (a b : List Char) :
    endsBlank (a ++ u ++ b) = (b.isEmpty || endsBlank b) := by
  cases b with
  | nil =>
    have hlast := hu (u.getLast hne) (List.getLast_mem hne)
    simp [endsBlank, List.getLast?_eq_some_getLast hne, hlast]
  | cons d b =>
    rw [endsBlank, List.getLast?_append_of_ne_nil _ (List.cons_ne_nil d b)]
    rfl

/-- A run of blanks in front of `b` and behind `a`: whether a capital comes first depends on `a`,
as a blank counts for one. -/
theorem isCapitalized_append_run (hne : u ≠ []) (hu : ∀ c ∈ u, isBlank c = true)
    (a b : List Char) : isCapitalized (a ++ u ++ b) = (a.isEmpty || isCapitalized a) := by
  obtain ⟨c, u, rfl⟩ := List.exists_cons_of_ne_nil hne
  cases a with
  | nil =>
    have hupper := upperChar_of_blank (hu c List.mem_cons_self)
    simp [isCapitalized, hupper]
  | cons d a => rfl

/-- Whether a text with a run of blanks in it is in sentence case does not depend on the run. -/
theorem isSentenceCase_append_run {v : List Char} (hne : u ≠ []) (hne' : v ≠ [])
    (hu : ∀ c ∈ u, isBlank c = true) (hv : ∀ c ∈ v, isBlank c = true) (a b : List Char) :
    isSentenceCase (a ++ u ++ b) = isSentenceCase (a ++ v ++ b) := by
  have hwhole : a ++ u ++ b ≠ [] := by simp [hne]
  have hwhole' : a ++ v ++ b ≠ [] := by simp [hne']
  rw [Bool.eq_iff_iff, isSentenceCase_iff_of_ne_nil hwhole, isSentenceCase_iff_of_ne_nil hwhole']
  simp only [laterCapitals, pieceTotal, words_append_run hne hu, words_append_run hne' hv,
    startsBlank_append_run hne hu, startsBlank_append_run hne' hv, endsBlank_append_run hne hu,
    endsBlank_append_run hne' hv, isCapitalized_append_run hne hu, isCapitalized_append_run hne' hv]

end Run

/-- A text is in sentence case when it is empty, or its first character is its own upper case and it
has at most one piece or fewer than half of its pieces are capitalised words after the first piece.
The pieces are counted by the words of the text and the blanks at its ends. So any run of blanks in
it may be replaced by any other one. -/
theorem isSentenceCase_by_counts :
    (∀ t : List Char, isSentenceCase t = true ↔ t = [] ∨
      (∃ c, t.head? = some c ∧ upperChar c = [c]) ∧
        (pieceTotal t ≤ 1 ∨ 2 * laterCapitals t < pieceTotal t)) ∧
    ∀ a u v b : List Char, u ≠ [] → v ≠ [] → (∀ c ∈ u, isBlank c = true) →
      (∀ c ∈ v, isBlank c = true) →
      isSentenceCase (a ++ u ++ b) = isSentenceCase (a ++ v ++ b) := by
  refine ⟨fun t => ?_, fun a u v b hne hne' hu hv => isSentenceCase_append_run hne hne' hu hv a b⟩
  cases t with
  | nil => simp [isSentenceCase]
  | cons c s =>
    have hfewer := laterCapitals_lt_pieceTotal (List.cons_ne_nil c s)
    have hhalf : pieceTotal (c :: s) ≤ 1 ∨ 2 * laterCapitals (c :: s) < pieceTotal (c :: s) ↔
        2 * laterCapitals (c :: s) < pieceTotal (c :: s) := by
      omega
    rw [isSentenceCase_iff_of_ne_nil (List.cons_ne_nil c s), hhalf]
    simp [isCapitalized]

/-- With blanks at both ends half of the pieces are capitalised words after the first piece, which
is empty. Other blanks in front leave it at that. -/
theorem isSentenceCase_by_counts_outer :
    pieceTotal " Über Ǆ 42 uns\n".toList = 6 ∧ laterCapitals " Über Ǆ 42 uns\n".toList = 3 ∧
      isSentenceCase " Über Ǆ 42 uns\n".toList = false ∧
      "\t\u3000".toList ≠ [] ∧ (∀ c ∈ "\t\u3000".toList, isBlank c = true) ∧
      isSentenceCase ([] ++ "\t\u3000".toList ++ "Über Ǆ 42 uns\n".toList) = false := by
  obtain ⟨hcounts, hrun⟩ := isSentenceCase_by_counts
  have htotal : pieceTotal " Über Ǆ 42 uns\n".toList = 6 := by decide
  have hcapitals : laterCapitals " Über Ǆ 42 uns\n".toList = 3 := by decide +kernel
  have hblank : ∀ c ∈ "\t\u3000".toList, isBlank c = true := by simp [isBlank]
  have hnot : isSentenceCase " Über Ǆ 42 uns\n".toList = false := by
    rw [← Bool.not_eq_true, hcounts, htotal, hcapitals]
    simp
  refine ⟨htotal, hcapitals, hnot, by simp, hblank, ?_⟩
  have hcut : " Über Ǆ 42 uns\n".toList = [] ++ " ".toList ++ "Über Ǆ 42 uns\n".toList := by simp
  rw [hrun [] "\t\u3000".toList " ".toList _ (by simp) (by simp) hblank (by simp [isBlank]), ← hcut]
  exact hnot

/-! ### Appending a word -/

section Append

variable {w : List Char} (hne : w ≠ []) (hw : ∀ c ∈ w, isBlank c = false) (t : List Char)

include hne hw

/-- A text keeps its words when a word is appended to it, and the word is the last one. -/
theorem words_append_word : words (t ++ ' ' :: w) = words t ++ [w] := by
  rw [words_append_cons rfl, words_of_unbroken hne hw]

/-- An appended word is counted with the capitalised words if it is one. -/
theorem laterCapitals_append_word :
    laterCapitals (t ++ ' ' :: w) = laterCapitals t + if isCapitalized w then 1 else 0 := by
  rw [laterCapitals, laterCapitals, words_append_word hne hw]
  cases t with
  | nil =>
    have hstart : startsBlank ([] ++ ' ' :: w) = true := rfl
    have hnone : words [] = [] := rfl
    rw [if_pos hstart, hnone, List.nil_append, List.countP_singleton, List.tail_nil, ite_self,
      List.countP_nil, Nat.zero_add]
  | cons c s =>
    have hstart : startsBlank (c :: s ++ ' ' :: w) = startsBlank (c :: s) := rfl
    rw [hstart]
    rcases startsBlank_or_words_ne_nil (List.cons_ne_nil c s) with hblank | hwords
    · simp [hblank, List.countP_append]
    · cases startsBlank (c :: s) <;>
        simp [List.countP_append, List.tail_append_of_ne_nil hwords]

/-- A text with a word appended to it does not end with a blank. -/
theorem endsBlank_append_word : endsBlank (t ++ ' ' :: w) = false := by
  have hlast : isBlank (w.getLast hne) = false := hw _ (List.getLast_mem hne)
  rw [endsBlank, List.getLast?_append_of_ne_nil _ (List.cons_ne_nil ' ' w),
    List.getLast?_cons_of_ne_nil hne, List.getLast?_eq_some_getLast hne, Option.any_some, hlast]

/-- An appended word is one more piece, or takes the place of the empty piece at the end. -/
theorem pieceTotal_append_word (ht : t ≠ []) :
    pieceTotal (t ++ ' ' :: w) + (if endsBlank t then 1 else 0) = pieceTotal t + 1 := by
  have hstart : startsBlank (t ++ ' ' :: w) = startsBlank t := by
    obtain ⟨c, s, rfl⟩ := List.exists_cons_of_ne_nil ht
    rfl
  rw [pieceTotal, pieceTotal, hstart, endsBlank_append_word hne hw, words_append_word hne hw,
    List.length_append, List.length_singleton, if_neg Bool.false_ne_true]
  omega

end Append

/-- A word that is appended to a text in sentence case leaves it in sentence case unless the word is
capitalised, and a capitalised one never brings a text into sentence case. -/
theorem isSentenceCase_append_word {t w : List Char} (hne : w ≠ [])
    (hw : ∀ c ∈ w, isBlank c = false) :
    (isCapitalized w = false → isSentenceCase t = true →
      isSentenceCase (t ++ ' ' :: w) = true) ∧
    (isCapitalized w = true → isSentenceCase t = false →
      isSentenceCase (t ++ ' ' :: w) = false) := by
  have hlonger : t ++ ' ' :: w ≠ [] := by simp
  have hcapitals := laterCapitals_append_word hne hw t
  by_cases ht : t = []
  · -- The empty text is in sentence case, and the blank in front of the word counts for a capital.
    subst ht
    refine ⟨fun hword _ => ?_, fun _ hnot => by simp [isSentenceCase] at hnot⟩
    have hnone : laterCapitals ([] ++ ' ' :: w) = 0 := by
      rw [hcapitals, hword]
      rfl
    have hfewer := laterCapitals_lt_pieceTotal hlonger
    rw [isSentenceCase_iff_of_ne_nil hlonger]
    exact ⟨isCapitalized_append_run (by simp) (by simp [isBlank]) [] w (u := [' ']), by omega⟩
  · have hfirst : isCapitalized (t ++ ' ' :: w) = isCapitalized t := by
      obtain ⟨c, s, rfl⟩ := List.exists_cons_of_ne_nil ht
      rfl
    have htotal := pieceTotal_append_word hne hw t ht
    have hcase := isSentenceCase_iff_of_ne_nil ht
    have hcase' := isSentenceCase_iff_of_ne_nil hlonger
    rw [hfirst] at hcase'
    constructor
    · intro hword hyes
      obtain ⟨hcapital, hhalf⟩ := hcase.mp hyes
      rw [hword, if_neg Bool.false_ne_true] at hcapitals
      refine hcase'.mpr ⟨hcapital, ?_⟩
      split at htotal <;> omega
    · intro hword hno
      rw [← Bool.not_eq_true] at hno ⊢
      intro hyes
      obtain ⟨hcapital, hhalf⟩ := hcase'.mp hyes
      rw [hword, if_pos rfl] at hcapitals
      refine hno (hcase.mpr ⟨hcapital, ?_⟩)
      split at htotal <;> omega

/-- A word in place of the empty piece at the end leaves the number of pieces as it is, and a text
with exactly half of its pieces capitalised is out of sentence case already. -/
theorem isSentenceCase_append_word_outer :
    "mit".toList ≠ [] ∧ (∀ c ∈ "mit".toList, isBlank c = false) ∧
      isCapitalized "mit".toList = false ∧ isSentenceCase "Über Uns ".toList = true ∧
      isSentenceCase ("Über Uns ".toList ++ ' ' :: "mit".toList) = true ∧
      isCapitalized "42".toList = true ∧ isSentenceCase "Über Uns".toList = false ∧
      isSentenceCase ("Über Uns".toList ++ ' ' :: "42".toList) = false := by
  have hword : ∀ c ∈ "mit".toList, isBlank c = false := by simp [isBlank]
  have hnumber : ∀ c ∈ "42".toList, isBlank c = false := by simp [isBlank]
  have hsmall : isCapitalized "mit".toList = false := by decide +kernel
  have hcapital : isCapitalized "42".toList = true := by decide +kernel
  have hyes : isSentenceCase "Über Uns ".toList = true := by decide +kernel
  have hno : isSentenceCase "Über Uns".toList = false := by decide +kernel
  exact ⟨by simp, hword, hsmall, hyes, (isSentenceCase_append_word (by simp) hword).1 hsmall hyes,
    hcapital, hno, (isSentenceCase_append_word (by simp) hnumber).2 hcapital hno⟩

end ProseCheck.Text
