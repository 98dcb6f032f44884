import ProseCheck.Proofs.CanonicalForm

/-!
# The keys of a rule

A key of a configuration names a rule if it puts together the words of the identifier of the rule:
the first word as it is or with a capital, and every other word after a hyphen or with a capital.
The reader of keys looks at the lower case of a whole text, and a character may have a lower case of
several characters or an ASCII letter for its lower case. No such character is part of a key.
-/

namespace ProseCheck

namespace Text

/-! ### Capitals and small letters -/

/-- A property of the ASCII characters, one by one. -/
theorem forall_ascii {P : Char → Prop} (h : ∀ n, n < 128 → P (Char.ofNat n)) (c : Char)
    (hc : c.toNat < 128) : P c := by
  have hP := h c.toNat hc
  rwa [Char.ofNat_toNat] at hP

/-- The capitals are those from `A` to `Z`. -/
theorem isUpper_iff {c : Char} : c.isUpper = true ↔ 'A' ≤ c ∧ c ≤ 'Z' :=
  decide_eq_true_iff

/-- The small letters are those from `a` to `z`. -/
theorem isLower_iff {c : Char} : c.isLower = true ↔ 'a' ≤ c ∧ c ≤ 'z' :=
  Bool.and_eq_true_iff.trans (and_congr decide_eq_true_iff decide_eq_true_iff)

/-- A capital is an ASCII character. -/
theorem ascii_of_isUpper {c : Char} (hc : c.isUpper = true) : c.toNat < 128 :=
  Nat.lt_of_le_of_lt (isUpper_iff.mp hc).2 (by decide)

/-- A small letter is an ASCII character. -/
theorem ascii_of_isLower {c : Char} (hc : c.isLower = true) : c.toNat < 128 :=
  Nat.lt_of_le_of_lt (isLower_iff.mp hc).2 (by decide)

/-- Only a capital is changed to a small letter. -/
theorem toLower_of_not_isUpper {c : Char} (hc : ¬c.isUpper = true) : c.toLower = c :=
  dif_neg (mt isUpper_iff.mpr hc)

/-- A capital is the capital of its small letter. -/
theorem toUpper_toLower_of_isUpper {c : Char} (hc : c.isUpper = true) : c.toLower.toUpper = c :=
  forall_ascii (P := fun c => c.isUpper = true → c.toLower.toUpper = c) (by decide) c
    (ascii_of_isUpper hc) hc

/-- A small letter is none but that of its capital. -/
theorem not_isUpper_and_toUpper {c : Char} (hc : c.isLower = true) :
    ¬c.isUpper = true ∧ c.toUpper.isUpper = true ∧ c.toUpper.toLower = c :=
  forall_ascii (P := fun c => c.isLower = true →
    ¬c.isUpper = true ∧ c.toUpper.isUpper = true ∧ c.toUpper.toLower = c) (by decide) c
    (ascii_of_isLower hc) hc

/-! ### The lower case of a text -/

/-- Whether `c` may be in an identifier: a hyphen or a small ASCII letter other than `k`, which is
in no identifier. It is the one small letter that is the lower case of a character beyond ASCII, the
Kelvin sign. -/
def isIdentifierChar (c : Char) : Bool :=
  ('a' ≤ c && c ≤ 'z' && c != 'k') || c == '-'

/-- The lower case of an ASCII character is an ASCII character. -/
theorem lowerChar_ascii {c : Char} (hc : c.toNat < 128) : lowerChar c = [c.toLower] :=
  forall_ascii (P := fun c => lowerChar c = [c.toLower]) (by decide) c hc

/-- A code point is moved by a row of the table that it lies in. -/
theorem exists_row_of_shift? {rows : List (Nat × Nat × Nat × Nat)} {n m : Nat}
    (h : shift? rows n = some m) :
    ∃ row ∈ rows, row.1 ≤ n ∧ n ≤ row.2.1 ∧ m = row.2.2.2 + (n - row.1) := by
  induction rows with
  | nil => simp [shift?] at h
  | cons row rows ih =>
    obtain ⟨first, last, step, image⟩ := row
    simp only [shift?] at h
    split at h
    · cases h
    · split at h
      · rename_i hfirst hlast
        simp only [Bool.and_eq_true, decide_eq_true_eq] at hlast
        exact ⟨_, List.mem_cons_self, by omega, hlast.1, (Option.some.inj h).symm⟩
      · obtain ⟨row, hrow, hshift⟩ := ih h
        exact ⟨row, List.mem_cons_of_mem _ hrow, hshift⟩

/-- The rows of the table beyond ASCII lead beyond ASCII, except for the row of the Kelvin sign. -/
theorem lowerShifts_beyond : ∀ row ∈ lowerShifts,
    row.2.1 < 128 ∨ 128 ≤ row.2.2.2 ∨ (row.1 = row.2.1 ∧ row.2.2.2 = 'k'.toNat) := by
  decide +kernel

/-- The characters of identifiers are ASCII characters. -/
theorem ascii_of_isIdentifierChar {c : Char} (hc : isIdentifierChar c = true) : c.toNat < 128 := by
  simp only [isIdentifierChar, Bool.or_eq_true, Bool.and_eq_true, decide_eq_true_eq,
    beq_iff_eq] at hc
  rcases hc with ⟨⟨_, hz⟩, _⟩ | rfl
  · exact Nat.lt_of_le_of_lt (Char.le_def.mp hz) (by decide)
  · decide

/-- No code point beyond ASCII stands for a character of an identifier. -/
theorem isIdentifierChar_ofNat {n : Nat} (hn : 128 ≤ n) :
    isIdentifierChar (Char.ofNat n) = false := by
  by_contra hchar
  have hascii := ascii_of_isIdentifierChar (by simpa using hchar)
  by_cases hvalid : n.isValidChar
  · have htoNat : (Char.ofNat n).toNat = n := by
      rw [Char.ofNat, dif_pos hvalid]
      rfl
    omega
  · rw [Char.ofNat, dif_neg hvalid] at hchar
    exact hchar (by decide)

/-- The lower case of a character beyond ASCII has a character that is in no identifier. -/
theorem exists_mem_lowerChar {c : Char} (hc : 128 ≤ c.toNat) :
    ∃ d ∈ lowerChar c, isIdentifierChar d = false := by
  unfold lowerChar mapCase
  split
  · rename_i image himage
    obtain ⟨row, hrow, hfirst, hlast, rfl⟩ := exists_row_of_shift? himage
    refine ⟨_, List.mem_singleton_self _, ?_⟩
    rcases lowerShifts_beyond row hrow with hascii | hbeyond | ⟨hsingle, hkelvin⟩
    · omega
    · exact isIdentifierChar_ofNat (by omega)
    · rw [hkelvin, show c.toNat - row.1 = 0 by omega]
      decide
  · split
    · rename_i images himages
      -- The only expansion is that of a dotted capital I, an `i` with a dot above it.
      obtain rfl : images = [0x69, 0x307] := by
        obtain ⟨_, _, hexpansions, _⟩ := List.lookup_eq_some_iff.mp himages
        have hmem : (c.toNat, images) ∈ lowerExpansions := by simp [hexpansions]
        simp only [lowerExpansions, List.mem_singleton, Prod.mk.injEq] at hmem
        exact hmem.2
      exact ⟨Char.ofNat 0x307, by decide, by decide⟩
    · refine ⟨c, List.mem_singleton_self c, ?_⟩
      rw [← Char.ofNat_toNat c]
      exact isIdentifierChar_ofNat hc

/-- The lower case of an ASCII text is the lower case of its characters one by one. -/
theorem lowerAfter_of_ascii {s : List Char} (hs : ∀ c ∈ s, c.toNat < 128) (cased : Bool) :
    lowerAfter cased s = s.map Char.toLower := by
  induction s generalizing cased with
  | nil => rfl
  | cons c s ih =>
    obtain ⟨hc, hs⟩ := List.forall_mem_cons.mp hs
    have hsigma : c ≠ capitalSigma := by
      rintro rfl
      exact absurd hc (by decide)
    simp [lowerAfter, hsigma, lowerChar_ascii hc, ih hs]

/-- A text with a lower case of small letters and hyphens is ASCII. -/
theorem ascii_of_lowerAfter {s : List Char} {cased : Bool}
    (h : ∀ d ∈ lowerAfter cased s, isIdentifierChar d = true) : ∀ c ∈ s, c.toNat < 128 := by
  induction s generalizing cased with
  | nil => simp
  | cons c s ih =>
    simp only [lowerAfter, List.mem_append, or_imp, forall_and] at h
    refine List.forall_mem_cons.mpr ⟨?_, ih h.2⟩
    by_contra hc
    obtain ⟨d, hd, hbad⟩ : ∃ d ∈ (if c = capitalSigma && cased && !startsCased s then [finalSigma]
        else lowerChar c), isIdentifierChar d = false := by
      split
      · exact ⟨finalSigma, List.mem_singleton_self _, by decide⟩
      · exact exists_mem_lowerChar (Nat.not_lt.mp hc)
    rw [h.1 d hd] at hbad
    cases hbad

/-- The texts with a lower case of small letters and hyphens. -/
theorem lower_eq_iff {s t : List Char} (ht : ∀ d ∈ t, isIdentifierChar d = true) :
    lower s = t ↔ s.map Char.toLower = t := by
  constructor
  · rintro rfl
    exact (lowerAfter_of_ascii (ascii_of_lowerAfter ht) false).symm
  · rintro rfl
    refine lowerAfter_of_ascii (fun c hc => ?_) false
    have hascii : c.toLower.toNat < 128 :=
      ascii_of_isIdentifierChar (ht c.toLower (List.mem_map_of_mem hc))
    by_cases hupper : c.isUpper = true
    · exact ascii_of_isUpper hupper
    · rwa [toLower_of_not_isUpper hupper] at hascii

end Text

namespace Rule

/-! ### Putting words together -/

/-- A later word of an identifier, after a hyphen or with a capital. -/
def IsLaterWord (word spelled : String) : Prop :=
  spelled = "-" ++ word ∨ spelled = capitalize word

/-- A key is put together from the words of the identifier of a rule. -/
def Spells (r : Rule) (key : Str) : Prop :=
  ∃ first others t ts, r.segments = first :: others ∧ (t = first ∨ t = capitalize first) ∧
    List.Forall₂ IsLaterWord others ts ∧ key = Str.ofString (String.join (t :: ts))

/-- A text of small ASCII letters that is not empty. -/
def IsWord (word : String) : Prop :=
  word.toList ≠ [] ∧ word.toList.all Char.isLower = true

instance (word : String) : Decidable (IsWord word) :=
  inferInstanceAs (Decidable (_ ∧ _))

/-- A word has a first letter, and all its letters are small. -/
theorem IsWord.exists_cons {word : String} (h : IsWord word) :
    ∃ d w, word.toList = d :: w ∧ ∀ c ∈ d :: w, c.isLower = true := by
  obtain ⟨d, w, hchars⟩ := List.exists_cons_of_ne_nil h.1
  exact ⟨d, w, hchars, List.all_eq_true.mp (hchars ▸ h.2)⟩

/-- Identifiers are put together from words. -/
theorem isWord_of_mem_segments {r : Rule} : ∀ word ∈ r.segments, IsWord word := by
  cases r <;> decide

/-- Identifiers have a first word. -/
theorem exists_segments (r : Rule) : ∃ first others, r.segments = first :: others := by
  cases r <;> exact ⟨_, _, rfl⟩

/-- The capitals that start a word of a key are those of ASCII. -/
theorem isAsciiCapital_eq_isUpper (c : Char) : isAsciiCapital c = c.isUpper := by
  rw [Bool.eq_iff_iff, Text.isUpper_iff]
  simp [isAsciiCapital]

/-- A small letter is the lower case of itself and of its capital. -/
theorem toLower_eq_iff {c d : Char} (hd : d.isLower = true) :
    c.toLower = d ↔ c = d ∨ c = d.toUpper := by
  constructor
  · rintro rfl
    by_cases hupper : c.isUpper = true
    · exact Or.inr (Text.toUpper_toLower_of_isUpper hupper).symm
    · exact Or.inl (Text.toLower_of_not_isUpper hupper).symm
  · obtain ⟨hupper, _, htoUpper⟩ := Text.not_isUpper_and_toUpper hd
    rintro (rfl | rfl)
    · exact Text.toLower_of_not_isUpper hupper
    · exact htoUpper

/-- A text behind the first character of a key, with hyphens for its capitals. -/
def hyphenated (s : List Char) : List Char :=
  (hyphenateAll s).map Char.toLower

/-- There is nothing to hyphenate in the empty text. -/
@[simp]
theorem hyphenated_nil : hyphenated [] = [] := rfl

/-- A capital gets a hyphen in front and becomes a small letter. -/
theorem hyphenated_cons_upper {c : Char} (hc : c.isUpper) (s : List Char) :
    hyphenated (c :: s) = '-' :: c.toLower :: hyphenated s := by
  simp [hyphenated, hyphenateAll, isAsciiCapital_eq_isUpper, hc]

/-- What is no capital stays as it is. -/
theorem hyphenated_cons_of_not_upper {c : Char} (hc : ¬c.isUpper) (s : List Char) :
    hyphenated (c :: s) = c :: hyphenated s := by
  simp [hyphenated, hyphenateAll, isAsciiCapital_eq_isUpper, hc, Text.toLower_of_not_isUpper hc]

/-- Small letters come from themselves. -/
theorem hyphenated_eq_append_iff {w s t : List Char} (hw : ∀ d ∈ w, d.isLower = true) :
    hyphenated s = w ++ t ↔ ∃ s', s = w ++ s' ∧ hyphenated s' = t := by
  induction w generalizing s with
  | nil => simp
  | cons d w ih =>
    obtain ⟨hd, hletters⟩ := List.forall_mem_cons.mp hw
    have hdupper := (Text.not_isUpper_and_toUpper hd).1
    constructor
    · intro h
      cases s with
      | nil => simp at h
      | cons c s =>
        by_cases hc : c.isUpper
        · rw [hyphenated_cons_upper hc] at h
          obtain ⟨rfl, _⟩ := List.cons.inj h
          cases hd
        · rw [hyphenated_cons_of_not_upper hc] at h
          obtain ⟨rfl, hs⟩ := List.cons.inj h
          obtain ⟨s', rfl, hs'⟩ := (ih hletters).mp hs
          exact ⟨s', rfl, hs'⟩
    · rintro ⟨s', rfl, hs'⟩
      rw [List.cons_append, hyphenated_cons_of_not_upper hdupper,
        (ih hletters).mpr ⟨s', rfl, hs'⟩]
      rfl

/-- A word with a capital. -/
theorem toList_capitalize {word : String} {d : Char} {w : List Char}
    (hword : word.toList = d :: w) : (capitalize word).toList = d.toUpper :: w := by
  simp [capitalize, hword]

/-- A word with a hyphen in front of it comes from a later word. -/
theorem hyphenated_eq_hyphen_append_iff {word : String} (hword : IsWord word) {s t : List Char} :
    hyphenated s = '-' :: (word.toList ++ t) ↔
      ∃ spelled s', IsLaterWord word spelled ∧ s = spelled.toList ++ s' ∧ hyphenated s' = t := by
  obtain ⟨d, w, hchars, hletters⟩ := hword.exists_cons
  obtain ⟨hd, hw⟩ := List.forall_mem_cons.mp hletters
  constructor
  · intro h
    cases s with
    | nil => simp at h
    | cons c s =>
      by_cases hc : c.isUpper
      · rw [hyphenated_cons_upper hc, hchars] at h
        obtain ⟨hlower, hs⟩ : c.toLower = d ∧ hyphenated s = w ++ t := by simpa using h
        obtain ⟨s', rfl, hs'⟩ := (hyphenated_eq_append_iff hw).mp hs
        refine ⟨capitalize word, s', Or.inr rfl, ?_, hs'⟩
        have hupper : d.toUpper = c := by
          rw [← hlower, Text.toUpper_toLower_of_isUpper hc]
        rw [toList_capitalize hchars, hupper]
        rfl
      · rw [hyphenated_cons_of_not_upper hc, hchars] at h
        obtain ⟨rfl, hs⟩ := List.cons.inj h
        obtain ⟨s', rfl, hs'⟩ := (hyphenated_eq_append_iff hletters).mp hs
        exact ⟨"-" ++ word, s', Or.inl rfl, by simp [hchars], hs'⟩
  · rintro ⟨spelled, s', rfl | rfl, rfl, hs'⟩
    · have hhyphen : ¬Char.isUpper '-' := by decide
      have hrest : hyphenated (d :: w ++ s') = d :: w ++ t :=
        (hyphenated_eq_append_iff hletters).mpr ⟨s', rfl, hs'⟩
      simp only [String.toList_append, hchars]
      exact (hyphenated_cons_of_not_upper hhyphen _).trans (congrArg _ hrest)
    · obtain ⟨_, hupper, hlower⟩ := Text.not_isUpper_and_toUpper hd
      rw [toList_capitalize hchars, List.cons_append, hyphenated_cons_upper hupper, hlower,
        (hyphenated_eq_append_iff hw).mpr ⟨s', rfl, hs'⟩, hchars]
      rfl

/-- Words with hyphens in front of them come from later words. -/
theorem hyphenated_eq_flatMap_iff {words : List String} (hwords : ∀ w ∈ words, IsWord w)
    {s : List Char} :
    hyphenated s = words.flatMap (fun w => '-' :: w.toList) ↔
      ∃ ts, List.Forall₂ IsLaterWord words ts ∧ s = (String.join ts).toList := by
  induction words generalizing s with
  | nil =>
    constructor
    · intro h
      cases s with
      | nil => exact ⟨[], .nil, by simp⟩
      | cons c s =>
        by_cases hc : c.isUpper
        · simp [hyphenated_cons_upper hc] at h
        · simp [hyphenated_cons_of_not_upper hc] at h
    · rintro ⟨ts, hts, rfl⟩
      cases hts
      simp
  | cons word words ih =>
    obtain ⟨hword, hwords⟩ := List.forall_mem_cons.mp hwords
    rw [List.flatMap_cons, List.cons_append, hyphenated_eq_hyphen_append_iff hword]
    simp only [ih hwords]
    constructor
    · rintro ⟨spelled, s', hspelled, rfl, ts, hts, rfl⟩
      exact ⟨spelled :: ts, .cons hspelled hts, by simp⟩
    · rintro ⟨ts, hts, rfl⟩
      cases hts with
      | cons hspelled hts => exact ⟨_, _, hspelled, by simp, _, hts, rfl⟩

/-- The identifier of a rule is its first word and the others with hyphens in front of them. -/
theorem toList_id {r : Rule} {first : String} {others : List String}
    (hsegments : r.segments = first :: others) :
    r.id.toList = first.toList ++ others.flatMap fun w => '-' :: w.toList := by
  rw [id, hsegments, String.toList_intercalate]
  clear hsegments
  induction others generalizing first with
  | nil => simp
  | cons second others ih =>
    rw [List.map_cons, List.map_cons, List.intercalate_cons_cons, ← List.map_cons, ih]
    simp

/-- The identifiers are in small letters and hyphens. -/
theorem isIdentifierChar_of_mem_id (r : Rule) :
    ∀ d ∈ r.id.toList, Text.isIdentifierChar d = true := by
  rw [← List.all_eq_true]
  cases r <;> decide

/-- The first word comes from itself or from the word with a capital. -/
theorem map_hyphenate_eq_append_iff {first : String} (hfirst : IsWord first) {s t : List Char} :
    (hyphenate s).map Char.toLower = first.toList ++ t ↔
      ∃ spelled s', (spelled = first ∨ spelled = capitalize first) ∧
        s = spelled.toList ++ s' ∧ hyphenated s' = t := by
  obtain ⟨d, w, hchars, hletters⟩ := hfirst.exists_cons
  rw [hchars]
  obtain ⟨hd, hw⟩ := List.forall_mem_cons.mp hletters
  cases s with
  | nil =>
    constructor
    · simp [hyphenate]
    · rintro ⟨spelled, s', rfl | rfl, hs, _⟩
      · simp [hchars] at hs
      · simp [toList_capitalize hchars] at hs
  | cons c s =>
    have hstart : (hyphenate (c :: s)).map Char.toLower = d :: w ++ t ↔
        (c = d ∨ c = d.toUpper) ∧ hyphenated s = w ++ t := by
      rw [hyphenate, List.map_cons, List.cons_append, List.cons.injEq, toLower_eq_iff hd]
      rfl
    rw [hstart, hyphenated_eq_append_iff hw]
    constructor
    · rintro ⟨rfl | rfl, s', rfl, hs'⟩
      · exact ⟨first, s', Or.inl rfl, by simp [hchars], hs'⟩
      · exact ⟨capitalize first, s', Or.inr rfl, by simp [toList_capitalize hchars], hs'⟩
    · rintro ⟨spelled, s', rfl | rfl, hs, hs'⟩
      · obtain ⟨rfl, rfl⟩ : c = d ∧ s = w ++ s' := by simpa [hchars] using hs
        exact ⟨Or.inl rfl, s', rfl, hs'⟩
      · obtain ⟨rfl, rfl⟩ : c = d.toUpper ∧ s = w ++ s' := by
          simpa [toList_capitalize hchars] using hs
        exact ⟨Or.inr rfl, s', rfl, hs'⟩

/-- A key has the identifier of a rule for its lower case, with hyphens, if it spells the rule. -/
theorem lower_hyphenate_eq_id_iff (r : Rule) (key : List Char) :
    Text.lower (hyphenate key) = r.id.toList ↔ r.Spells (.ofChars key) := by
  rw [Text.lower_eq_iff (isIdentifierChar_of_mem_id r)]
  obtain ⟨first, others, hsegments⟩ := r.exists_segments
  have hwords : ∀ word ∈ first :: others, IsWord word := hsegments ▸ isWord_of_mem_segments
  obtain ⟨hfirst, hothers⟩ := List.forall_mem_cons.mp hwords
  rw [toList_id hsegments, map_hyphenate_eq_append_iff hfirst]
  simp only [hyphenated_eq_flatMap_iff hothers]
  constructor
  · rintro ⟨t, _, ht, hkey, ts, hts, rfl⟩
    exact ⟨first, others, t, ts, hsegments, ht, hts, by simp [hkey, Str.ofString]⟩
  · rintro ⟨first', others', t, ts, hsegments', ht, hts, hkey⟩
    obtain ⟨rfl, rfl⟩ := List.cons.inj (hsegments'.symm.trans hsegments)
    exact ⟨t, _, ht, by simpa [Str.ofString] using Str.ofChars_injective hkey, ts, hts, rfl⟩

/-- A key of characters names the rule with the identifier that it is read as. -/
theorem ofChars?_eq_some_iff_lower (key : List Char) (r : Rule) :
    ofChars? key = some r ↔ Text.lower (hyphenate key) = r.id.toList := by
  constructor
  · intro h
    have hfound := List.find?_some h
    exact (beq_iff_eq.mp hfound).symm
  · intro h
    have hcatalog : ∃ r' ∈ catalog, (r'.id.toList == Text.lower (hyphenate key)) = true :=
      ⟨r, by cases r <;> decide, by simp [h]⟩
    obtain ⟨r', hr'⟩ := Option.isSome_iff_exists.mp (List.find?_isSome.mpr hcatalog)
    have hfound := List.find?_some hr'
    have hid : r'.id.toList = r.id.toList := (beq_iff_eq.mp hfound).trans h
    rw [← Rule.id_injective (String.toList_inj.mp hid)]
    exact hr'

/-- A key names the rules that it spells. -/
theorem ofKey?_eq_some_iff (key : Str) (r : Rule) : ofKey? key = some r ↔ r.Spells key := by
  constructor
  · intro h
    obtain ⟨chars, hchars, hr⟩ := Option.bind_eq_some_iff.mp h
    rw [Str.chars?_eq_some_iff.mp hchars]
    exact (lower_hyphenate_eq_id_iff r chars).mp ((ofChars?_eq_some_iff_lower chars r).mp hr)
  · intro h
    -- A spelling has no surrogates, since the words have none.
    obtain ⟨chars, rfl⟩ : ∃ chars, key = .ofChars chars := by
      obtain ⟨_, _, t, ts, _, _, _, rfl⟩ := h
      exact ⟨_, rfl⟩
    rw [ofKey?, Str.chars?_ofChars]
    exact (ofChars?_eq_some_iff_lower chars r).mpr ((lower_hyphenate_eq_id_iff r chars).mpr h)

section Spelled

variable {r : Rule} {first : String} {others : List String}

/-- The identifier has a hyphen in front of all words but the first. -/
theorem spells_id (hsegments : r.segments = first :: others) : r.Spells r.id := by
  refine ⟨first, others, first, others.map ("-" ++ ·), hsegments, Or.inl rfl, ?_, ?_⟩
  · exact List.forall₂_map_right_iff.mpr (List.forall₂_same.mpr fun _ _ => Or.inl rfl)
  · rw [Str.ofString_inj, ← String.toList_inj, toList_id hsegments]
    simp [List.flatMap_map]

/-- The key has a capital in all words but the first. -/
theorem spells_key (hsegments : r.segments = first :: others) : r.Spells r.key := by
  refine ⟨first, others, first, others.map capitalize, hsegments, Or.inl rfl, ?_, ?_⟩
  · exact List.forall₂_map_right_iff.mpr (List.forall₂_same.mpr fun _ _ => Or.inr rfl)
  · simp only [key, hsegments]

end Spelled

/-- The keys of a rule are exactly those that spell it, its identifier and its key among them. A key
is that of one rule at most, and any other text is the key of none. -/
theorem ofKey?_eq_some_iff_spells :
    (∀ (key : Str) r, ofKey? key = some r ↔ r.Spells key) ∧
    (∀ r : Rule, ofKey? r.id = some r ∧ ofKey? r.key = some r) ∧
    (∀ key (r r' : Rule), r.Spells key → r'.Spells key → r = r') ∧
    ∀ key, ofKey? key = none ↔ ∀ r : Rule, ¬r.Spells key := by
  have hkeys := ofKey?_eq_some_iff
  refine ⟨hkeys, fun r => ?_, fun key r r' hr hr' => ?_, fun key => ?_⟩
  · obtain ⟨_, _, hsegments⟩ := r.exists_segments
    exact ⟨(hkeys _ r).mpr (spells_id hsegments), (hkeys _ r).mpr (spells_key hsegments)⟩
  · have hsame := (hkeys key r).mpr hr
    rw [(hkeys key r').mpr hr'] at hsame
    exact (Option.some.inj hsame).symm
  · rw [Option.eq_none_iff_forall_ne_some]
    exact forall_congr' fun r => not_congr (hkeys key r)

example : ofKey? "Minimum-wordsIn-sentence" = some .minimumWords := by decide

example : ofKey? "heading-Case" = none := by decide

end Rule

end ProseCheck
