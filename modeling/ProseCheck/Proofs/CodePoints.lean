import ProseCheck.Text.Point
import Mathlib.Data.List.Basic

/-!
# Characters among code points

The characters of a text without surrogates determine it and are determined by it: a text has
characters just if it is the text of them. Such a text can be encoded, and no other one. Main
statements: `Str.chars?_eq_some_iff` and `Str.encodable_iff_exists`.
-/

namespace ProseCheck.Str

/-- A text that can be encoded: it has no surrogates. -/
def Encodable (s : Str) : Prop :=
  ∀ half, Point.surrogate half ∉ s

/-! ### Texts of characters -/

/-- The empty text has no characters. -/
@[simp] theorem ofChars_nil : ofChars [] = [] := rfl

/-- The text of a character and more starts with it. -/
@[simp] theorem ofChars_cons (c : Char) (cs : List Char) :
    ofChars (c :: cs) = .scalar c :: ofChars cs := rfl

/-- The text of joined lists of characters is the join of their texts. -/
@[simp] theorem ofChars_append (cs ds : List Char) :
    ofChars (cs ++ ds) = ofChars cs ++ ofChars ds :=
  List.map_append

/-- A text has as many code points as characters. -/
@[simp] theorem length_ofChars (cs : List Char) : (ofChars cs).length = cs.length :=
  List.length_map ..

/-- The code points of the text of characters are those characters. -/
@[simp] theorem mem_ofChars {p : Point} {cs : List Char} :
    p ∈ ofChars cs ↔ ∃ c ∈ cs, p = .scalar c := by
  simp [ofChars, eq_comm]

/-- Different characters have different texts. -/
theorem ofChars_injective : Function.Injective ofChars :=
  List.map_injective_iff.mpr fun _ _ => Point.scalar.inj

/-- The text of a string is empty just if the string is. -/
@[simp] theorem ofString_empty : ofString "" = [] := by
  simp [ofString]

/-- The text of joined strings is the join of their texts. -/
@[simp] theorem ofString_append (s t : String) : ofString (s ++ t) = ofString s ++ ofString t := by
  simp [ofString]

/-- The text of a string of characters is the text of the characters. -/
@[simp] theorem ofString_ofList (cs : List Char) : ofString (String.ofList cs) = ofChars cs := by
  simp [ofString]

/-- Strings with the same text are equal. -/
theorem ofString_injective : Function.Injective ofString := fun _ _ h =>
  String.toList_inj.mp (ofChars_injective h)

/-- Texts of strings are equal just if the strings are. -/
@[simp] theorem ofString_inj {s t : String} : ofString s = ofString t ↔ s = t :=
  ofString_injective.eq_iff

/-! ### The characters of a text -/

/-- The text of characters has just those characters. -/
@[simp] theorem charsFrom_ofChars (position : ℕ) (cs : List Char) :
    charsFrom position (ofChars cs) = .ok cs := by
  induction cs generalizing position with
  | nil => rfl
  | cons c cs ih => simp [charsFrom, ih, Except.map]

/-- A text that has characters is the text of them. -/
theorem eq_ofChars_of_charsFrom {position : ℕ} {s : Str} {cs : List Char}
    (h : charsFrom position s = .ok cs) : s = ofChars cs := by
  induction s generalizing position cs with
  | nil => simp_all [charsFrom]
  | cons p s ih =>
    cases p with
    | surrogate half => simp [charsFrom] at h
    | scalar c =>
      rw [charsFrom] at h
      cases hrest : charsFrom (position + 1) s with
      | error lone => simp [hrest, Except.map] at h
      | ok ds =>
        simp only [hrest, Except.map, Except.ok.injEq] at h
        rw [← h, ofChars_cons, ← ih hrest]

/-- The characters of a text are those it is the text of. -/
theorem chars_eq_ok_iff {s : Str} {cs : List Char} : s.chars = .ok cs ↔ s = ofChars cs :=
  ⟨eq_ofChars_of_charsFrom, fun h => h ▸ charsFrom_ofChars 0 cs⟩

/-- The text of characters has just those characters. -/
@[simp] theorem chars_ofChars (cs : List Char) : (ofChars cs).chars = .ok cs :=
  charsFrom_ofChars 0 cs

/-- The characters of a text are those it is the text of. -/
theorem chars?_eq_some_iff {s : Str} {cs : List Char} : s.chars? = some cs ↔ s = ofChars cs := by
  rw [← chars_eq_ok_iff, chars?]
  cases s.chars <;> simp [Except.toOption]

/-- The text of characters has just those characters. -/
@[simp] theorem chars?_ofChars (cs : List Char) : (ofChars cs).chars? = some cs :=
  chars?_eq_some_iff.mpr rfl

/-! ### Texts that can be encoded -/

/-- The texts that can be encoded are those of characters. -/
theorem encodable_iff_exists {s : Str} : s.Encodable ↔ ∃ cs, s = ofChars cs := by
  constructor
  · intro h
    induction s with
    | nil => exact ⟨[], rfl⟩
    | cons p s ih =>
      obtain ⟨cs, rfl⟩ := ih fun half hmem => h half (by simp [hmem])
      cases p with
      | surrogate half => exact absurd List.mem_cons_self (h half)
      | scalar c => exact ⟨c :: cs, rfl⟩
  · rintro ⟨cs, rfl⟩ half hmem
    simp at hmem

/-- A text of characters can be encoded. -/
@[simp] theorem encodable_ofChars (cs : List Char) : (ofChars cs).Encodable :=
  encodable_iff_exists.mpr ⟨cs, rfl⟩

/-- The text of a string can be encoded. -/
@[simp] theorem encodable_ofString (s : String) : (ofString s).Encodable :=
  encodable_ofChars _

/-- The empty text can be encoded. -/
@[simp] theorem encodable_nil : Encodable [] :=
  encodable_ofChars []

/-- A character in front does not matter. -/
@[simp] theorem encodable_cons_scalar {c : Char} {s : Str} :
    Encodable (.scalar c :: s) ↔ s.Encodable := by
  simp [Encodable]

/-- Texts can be encoded together just if each of them can be. -/
@[simp] theorem encodable_append {s t : Str} :
    (s ++ t).Encodable ↔ s.Encodable ∧ t.Encodable := by
  simp only [Encodable, List.mem_append, not_or, forall_and]

/-- A text can be encoded just if it is that of a string. -/
theorem encodable_iff_exists_ofString {s : Str} : s.Encodable ↔ ∃ t, s = ofString t := by
  rw [encodable_iff_exists]
  constructor
  · rintro ⟨cs, rfl⟩
    exact ⟨String.ofList cs, (ofString_ofList cs).symm⟩
  · rintro ⟨t, rfl⟩
    exact ⟨t.toList, rfl⟩

/-- No run of surrogates is found just if a text can be encoded. -/
theorem lone?_eq_none_iff {s : Str} : s.lone? = none ↔ s.Encodable := by
  simp only [encodable_iff_exists, ← chars_eq_ok_iff, lone?]
  cases s.chars <;> simp

/-! ### Digits and other classes of characters -/

/-- The characters of the text of characters are those. -/
@[simp] theorem scalars_ofChars (cs : List Char) : (ofChars cs).scalars = cs := by
  simp [scalars, ofChars, List.filterMap_map, Function.comp_def, Point.char?]

/-- A text whose code points are all of one class of characters is the text of them. -/
theorem ofChars_scalars {property : Char → Bool} {s : Str}
    (h : ∀ p ∈ s, Point.has property p = true) : ofChars s.scalars = s := by
  induction s with
  | nil => rfl
  | cons p s ih =>
    cases p with
    | surrogate half => simp [Point.has] at h
    | scalar c =>
      have hrest := ih fun q hq => h q (by simp [hq])
      simpa [scalars, Point.char?] using hrest

end ProseCheck.Str
