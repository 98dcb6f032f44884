import ProseCheck.Proofs.JsonRoundTrip
import Mathlib.Data.List.Infix
import Mathlib.Data.List.TakeWhile

/-!
# How far a JSON reader gets

A reader takes a part of a text from its front and leaves the rest. If it refuses an integer for
having too many digits, there is a run of so many digits in the text.
-/

namespace ProseCheck.Json

variable {α β : Type} {s t : Str}

/-- A text has a run of `n` digits, more than an integer may have. -/
def HasLongRun (s : Str) (n : ℕ) : Prop :=
  Text.digitLimit < n ∧ ∃ digits, digits <:+: s ∧ digits.length = n ∧ ∀ c ∈ digits, isDigit c = true

/-- A run in an end of a text is in the text. -/
theorem HasLongRun.of_suffix {n : ℕ} (h : HasLongRun s n) (hsuffix : s <:+ t) : HasLongRun t n := by
  obtain ⟨hlimit, digits, hinfix, hdigits⟩ := h
  exact ⟨hlimit, digits, hinfix.trans hsuffix.isInfix, hdigits⟩

/-- What comes out of reading a text: a value with an end of the text, a malformation, or an integer
with too many digits that are all in the text. -/
def ReadsFrom (s : Str) : Except Fault (α × Str) → Prop
  | .ok (_, rest) => rest <:+ s
  | .error (.malformed _ _) => True
  | .error (.tooManyDigits integer) => HasLongRun s integer.count

/-- Reading an end of a text is reading the text. -/
theorem ReadsFrom.of_suffix {reading : Except Fault (α × Str)} (h : ReadsFrom s reading)
    (hsuffix : s <:+ t) : ReadsFrom t reading := by
  match reading, h with
  | .ok (_, _), hrest => exact hrest.trans hsuffix
  | .error (.malformed _ _), _ => trivial
  | .error (.tooManyDigits _), hrun => exact HasLongRun.of_suffix hrun hsuffix

/-- One reading after the other. -/
theorem ReadsFrom.bind {reading : Except Fault (α × Str)}
    {next : α × Str → Except Fault (β × Str)} (h : ReadsFrom s reading)
    (hnext : ∀ a rest, rest <:+ s → ReadsFrom s (next (a, rest))) :
    ReadsFrom s (reading >>= next) := by
  match reading, h with
  | .ok (a, rest), hrest => exact hnext a rest hrest
  | .error (.malformed _ _), _ => trivial
  | .error (.tooManyDigits _), hrun => exact hrun

/-- Skipping white space leaves an end of the text. -/
theorem skipSpace_suffix (s : Str) : skipSpace s <:+ s :=
  List.dropWhile_suffix _

/-! ### Strings -/

/-- Four hexadecimal digits leave an end of the text. -/
theorem suffix_of_readUnit? {u : ℕ} {rest : Str} (h : readUnit? s = some (u, rest)) :
    rest <:+ s := by
  match s, h with
  | a :: b :: c :: d :: e :: s, h =>
    simp only [readUnit?, Option.bind_eq_bind, Option.bind_eq_some_iff, Option.pure_def,
      Option.some.injEq, Prod.mk.injEq] at h
    obtain ⟨_, _, _, _, _, _, _, _, _, rfl⟩ := h
    exact List.suffix_append [a, b, c, d] (e :: s)

/-- An escape is read from the text, by itself or as the first half of a pair. -/
theorem readsFrom_readUnicodeEscape (s : Str) : ReadsFrom s (readUnicodeEscape s) := by
  unfold readUnicodeEscape
  split
  · trivial
  · rename_i u rest hunit
    have hrest := suffix_of_readUnit? hunit
    split
    · rename_i t
      have htail : t <:+ s :=
        (List.suffix_append [Point.scalar '\\', Point.scalar 'u'] t).trans hrest
      split
      · split
        · trivial
        · rename_i v after hpair
          split
          · exact (suffix_of_readUnit? hpair).trans htail
          · exact hrest
      · exact hrest
    · exact hrest

/-- A string is read from the text. The induction is on the steps, with one case for a quote, for an
escape of either kind and for any other code point. -/
theorem readsFrom_readString (opened fuel : ℕ) (s : Str) :
    ReadsFrom s (readString opened fuel s) := by
  induction fuel generalizing s with
  | zero => trivial
  | succ fuel ih =>
    cases s with
    | nil => trivial
    | cons c s =>
      have hchars {rest : Str} (hrest : rest <:+ c :: s) :
          ReadsFrom (c :: s) (readString opened fuel rest) :=
        (ih rest).of_suffix hrest
      unfold readString
      split
      · exact List.suffix_cons c s
      split
      · split
        · trivial
        · rename_i d t
          have ht : t <:+ c :: d :: t := List.suffix_append [c, d] t
          split
          · refine ((readsFrom_readUnicodeEscape t).of_suffix ht).bind fun e rest hrest => ?_
            exact (hchars hrest).bind fun _ _ hafter => hafter
          · split
            · trivial
            · exact (hchars ht).bind fun _ _ hafter => hafter
      split
      · trivial
      · exact (hchars (List.suffix_cons c s)).bind fun _ _ hafter => hafter

/-- A string after its opening quote is read from the text. -/
theorem readsFrom_readQuoted (s : Str) : ReadsFrom s (readQuoted s) :=
  readsFrom_readString _ _ s

/-! ### Numbers and words -/

/-- A fraction leaves an end of the text. -/
theorem readFraction_suffix (s : Str) : (readFraction s).2 <:+ s := by
  unfold readFraction
  split
  · rename_i t
    split
    · exact (List.dropWhile_suffix _).trans (List.suffix_cons (.scalar '.') t)
    · exact List.suffix_rfl
  · exact List.suffix_rfl

/-- The digits of an exponent are skipped if there are any. -/
private theorem exponent_suffix {digits : Str} (hdigits : digits <:+ s)
    (exponent : Option Int) :
    (if digits.head?.any isDigit then (exponent, digits.dropWhile isDigit) else (none, s)).2 <:+
      s := by
  split
  · exact (List.dropWhile_suffix _).trans hdigits
  · exact List.suffix_rfl

/-- An exponent leaves an end of the text. -/
theorem readExponent_suffix (s : Str) : (readExponent s).2 <:+ s := by
  unfold readExponent
  split
  · rename_i c t
    split
    · simp only
      split
      · exact exponent_suffix (List.suffix_append [c, .scalar '-'] _) _
      · exact exponent_suffix (List.suffix_append [c, .scalar '+'] _) _
      · exact exponent_suffix (List.suffix_cons c t) _
    · exact List.suffix_rfl
  · exact List.suffix_rfl

/-- The digits of an integer are the first digits of the text. -/
theorem isPrefix_integerDigits (s : Str) : integerDigits s <+: s := by
  unfold integerDigits
  split
  · exact List.prefix_append [Point.scalar '0'] _
  · exact List.takeWhile_prefix _

/-- The digits of an integer are digits. -/
theorem isDigit_of_mem_integerDigits {c : Point} (hc : c ∈ integerDigits s) : isDigit c = true := by
  unfold integerDigits at hc
  split at hc
  · obtain rfl := List.mem_singleton.mp hc
    decide
  · exact List.mem_takeWhile_imp hc

/-- A number is read from the text, and one that is refused has its digits there. -/
theorem readsFrom_readNumber (left : ℕ) (negative : Bool) (s : Str) :
    ReadsFrom s (readNumber left negative s) := by
  have hrest : (readExponent (readFraction (s.drop (integerDigits s).length)).2).2 <:+ s :=
    (readExponent_suffix _).trans ((readFraction_suffix _).trans (List.drop_suffix _ s))
  unfold readNumber
  simp only
  split
  · trivial
  · split
    · split
      · rename_i hlimit
        exact ⟨hlimit, _, (isPrefix_integerDigits s).isInfix, rfl,
          fun _ => isDigit_of_mem_integerDigits⟩
      · exact hrest
    · exact hrest

/-- A word or a number is read from the text. -/
theorem readsFrom_readScalar (s : Str) : ReadsFrom s (readScalar s) := by
  unfold readScalar
  split
  · rename_i reading hreading
    obtain ⟨⟨word, value⟩, _, rfl⟩ := Option.map_eq_some_iff.mp hreading
    exact List.drop_suffix _ s
  · split
    · rename_i t _
      exact (readsFrom_readNumber _ _ t).of_suffix (List.suffix_cons (.scalar '-') t)
    · exact readsFrom_readNumber _ _ s

/-! ### Values -/

section Step

variable {fuel : ℕ}

end Step

end ProseCheck.Json
