import ProseCheck.Report.Line
import ProseCheck.Proofs.CodePoints
import ProseCheck.Proofs.WrittenInteger
import Mathlib.Data.List.TakeWhile

/-!
# The grammar of a report line

A line is cut into a file name, the digits of a line number, a message, a rule and a severity. It
may be possible to cut it in several ways. The reader takes the shortest file name with which it is
possible at all, and then the longest message.
-/

namespace ProseCheck.Report

/-- A text is a rule and a severity in brackets, with a blank in front of each, and perhaps a line
feed at the end. -/
def IsEnding (s rule : Str) (severity : Severity) : Prop :=
  .scalar ']' ∉ rule ∧ ∃ feed, (feed = [] ∨ feed = [.scalar '\n']) ∧
    s = .scalar ' ' :: .scalar '[' :: (rule ++ .scalar ']' :: .scalar ' ' :: .scalar '[' ::
      (Str.ofString severity.name ++ .scalar ']' :: feed))

/-- A text is a message without a line feed, followed by an ending. -/
def IsRemark (s : Str) (r : Remark) : Prop :=
  .scalar '\n' ∉ r.message ∧ ∃ t, s = r.message ++ t ∧ IsEnding t r.rule r.severity

/-- Digits of a line number, with the colon and the blank that follow them. -/
def IsNumbered (s : Str) (digits : List Char) (rest : Str) : Prop :=
  digits ≠ [] ∧ (∀ c ∈ digits, Text.isDecimalDigit c = true) ∧
    s = .ofChars digits ++ .scalar ':' :: .scalar ' ' :: rest

/-! ### Cutting a list at an element -/

section Cut

variable {α : Type} {a : α} {left left' right right' : List α}

/-- A list has one first occurrence of an element. -/
theorem append_cons_inj_of_not_mem_left (hleft : a ∉ left) (hleft' : a ∉ left')
    (h : left ++ a :: right = left' ++ a :: right') : left = left' ∧ right = right' := by
  induction left generalizing left' with
  | nil =>
    cases left' with
    | nil => simpa using h
    | cons b left' =>
      obtain ⟨rfl, _⟩ : a = b ∧ _ := by simpa using h
      simp at hleft'
  | cons b left ih =>
    cases left' with
    | nil =>
      obtain ⟨rfl, _⟩ : b = a ∧ _ := by simpa using h
      simp at hleft
    | cons b' left' =>
      obtain ⟨rfl, htail⟩ : b = b' ∧ left ++ a :: right = left' ++ a :: right' := by simpa using h
      obtain ⟨rfl, rfl⟩ := ih (fun hmem => hleft (by simp [hmem]))
        (fun hmem => hleft' (by simp [hmem])) htail
      exact ⟨rfl, rfl⟩

/-- A list has one last occurrence of an element. -/
theorem append_cons_inj_of_not_mem_right (hright : a ∉ right) (hright' : a ∉ right')
    (h : left ++ a :: right = left' ++ a :: right') : left = left' ∧ right = right' := by
  have hreverse : right.reverse ++ a :: left.reverse = right'.reverse ++ a :: left'.reverse := by
    simpa using congrArg List.reverse h
  obtain ⟨hr, hl⟩ := append_cons_inj_of_not_mem_left (by simpa using hright)
    (by simpa using hright') hreverse
  exact ⟨List.reverse_inj.mp hl, List.reverse_inj.mp hr⟩

end Cut

/-! ### Endings -/

/-- A severity is found in front of the bracket that closes it. -/
theorem severity?_eq_some_iff {s : Str} {severity : Severity} :
    severity? s = some severity ↔
      ∃ feed, (feed = [] ∨ feed = [.scalar '\n']) ∧
        s = Str.ofString severity.name ++ .scalar ']' :: feed := by
  constructor
  · intro h
    have hfound := List.find?_some h
    simp only [Bool.or_eq_true, beq_iff_eq] at hfound
    rcases hfound with hfound | hfound
    · exact ⟨[], Or.inl rfl, hfound⟩
    · exact ⟨[.scalar '\n'], Or.inr rfl, hfound⟩
  · rintro ⟨feed, rfl | rfl, rfl⟩ <;> cases severity <;> decide

/-- Up to the first closing bracket. -/
theorem takeWhile_append_bracket {rule : Str} (hrule : .scalar ']' ∉ rule) (rest : Str) :
    (rule ++ .scalar ']' :: rest).takeWhile (· != .scalar ']') = rule ∧
      (rule ++ .scalar ']' :: rest).dropWhile (· != .scalar ']') = .scalar ']' :: rest := by
  have hall : ∀ c ∈ rule, (c != .scalar ']') = true := by
    intro c hc
    simp only [bne_iff_ne, ne_eq]
    rintro rfl
    exact hrule hc
  rw [List.takeWhile_append_of_pos hall, List.dropWhile_append_of_pos hall]
  simp

/-- The ending of a line is found exactly where there is one. -/
theorem ending?_eq_some_iff {s rule : Str} {severity : Severity} :
    ending? s = some (rule, severity) ↔ IsEnding s rule severity := by
  constructor
  · intro h
    unfold ending? at h
    split at h
    · rename_i s
      split at h
      · rename_i t hdrop
        obtain ⟨severity', hseverity, heq⟩ := Option.map_eq_some_iff.mp h
        obtain ⟨hrule, rfl⟩ : s.takeWhile (· != .scalar ']') = rule ∧ severity' = severity := by
          simpa using heq
        obtain ⟨feed, hfeed, rfl⟩ := severity?_eq_some_iff.mp hseverity
        refine ⟨?_, feed, hfeed, ?_⟩
        · intro hmem
          rw [← hrule] at hmem
          simpa using List.mem_takeWhile_imp hmem
        · rw [← hrule, ← hdrop, List.takeWhile_append_dropWhile]
      · simp at h
    · simp at h
  · rintro ⟨hrule, feed, hfeed, rfl⟩
    obtain ⟨htake, hdrop⟩ := takeWhile_append_bracket hrule
      (.scalar ' ' :: .scalar '[' :: (Str.ofString severity.name ++ .scalar ']' :: feed))
    have hseverity :
        severity? (Str.ofString severity.name ++ .scalar ']' :: feed) = some severity :=
      severity?_eq_some_iff.mpr ⟨feed, hfeed, rfl⟩
    simp only [ending?, htake, hdrop, hseverity, Option.map_some]

/-! ### Remarks -/

/-- The remarks of a text that starts with a character: those of the rest with the character in
front of the message, and the ending that starts there. -/
theorem isRemark_cons_iff {c : Point} {s : Str} {r : Remark} :
    IsRemark (c :: s) r ↔
      (c ≠ .scalar '\n' ∧ ∃ message, r.message = c :: message ∧
        IsRemark s ⟨message, r.rule, r.severity⟩) ∨
      r.message = [] ∧ IsEnding (c :: s) r.rule r.severity := by
  obtain ⟨message, rule, severity⟩ := r
  cases message with
  | nil => simp [IsRemark]
  | cons d message =>
    simp only [IsRemark, List.mem_cons, not_or, List.cons_append, List.cons.injEq, reduceCtorEq,
      false_and, or_false]
    constructor
    · rintro ⟨⟨hd, hmessage⟩, t, ⟨rfl, rfl⟩, hending⟩
      exact ⟨Ne.symm hd, message, ⟨rfl, rfl⟩, hmessage, t, rfl, hending⟩
    · rintro ⟨hc, message', ⟨rfl, rfl⟩, hmessage, t, rfl, hending⟩
      exact ⟨⟨Ne.symm hc, hmessage⟩, t, ⟨rfl, rfl⟩, hending⟩

/-- No ending starts with a line feed. -/
theorem not_isEnding_feed {s rule : Str} {severity : Severity} :
    ¬IsEnding (.scalar '\n' :: s) rule severity := by
  rintro ⟨_, feed, _, h⟩
  simp at h

section Found

variable {c : Point} {s : Str} {r : Remark}

/-- A message that is found in the rest of a text is made longer by the character in front of it. -/
private theorem remark?_cons_of_some (hc : c ≠ .scalar '\n') (hrest : remark? s = some r) :
    remark? (c :: s) = some { r with message := c :: r.message } := by
  simp [remark?, hc, hrest]

/-- Where nothing is found in the rest of a text, the ending has to start here. -/
private theorem remark?_cons_of_none (hc : c ≠ .scalar '\n') (hrest : remark? s = none) :
    remark? (c :: s) = (ending? (c :: s)).map fun p => ⟨[], p.1, p.2⟩ := by
  simp [remark?, hc, hrest]

/-- A remark is found unless there is none. -/
theorem remark?_eq_none_iff : remark? s = none ↔ ∀ r, ¬IsRemark s r := by
  induction s with
  | nil =>
    simp only [remark?, true_iff]
    rintro r ⟨_, t, hsplit, _, feed, _, rfl⟩
    simp at hsplit
  | cons c s ih =>
    by_cases hc : c = .scalar '\n'
    · subst hc
      simp only [remark?, beq_self_eq_true, if_true, true_iff]
      intro r hr
      rcases isRemark_cons_iff.mp hr with ⟨hne, _⟩ | ⟨_, hending⟩
      · exact hne rfl
      · exact not_isEnding_feed hending
    cases hrest : remark? s with
    | some rest =>
      rw [remark?_cons_of_some hc hrest]
      refine ⟨nofun, fun hno => ?_⟩
      have hnone : remark? s = none := ih.mpr fun r hr =>
        hno ⟨c :: r.message, r.rule, r.severity⟩
          (isRemark_cons_iff.mpr (Or.inl ⟨hc, r.message, rfl, hr⟩))
      simp [hrest] at hnone
    | none =>
      rw [remark?_cons_of_none hc hrest, Option.map_eq_none_iff]
      constructor
      · intro hnone r hr
        rcases isRemark_cons_iff.mp hr with ⟨_, message, _, hr'⟩ | ⟨_, hending⟩
        · exact ih.mp hrest _ hr'
        · simp [ending?_eq_some_iff.mpr hending] at hnone
      · intro hno
        refine Option.eq_none_iff_forall_ne_some.mpr ?_
        rintro ⟨rule, severity⟩ hsome
        exact hno ⟨[], rule, severity⟩
          (isRemark_cons_iff.mpr (Or.inr ⟨rfl, ending?_eq_some_iff.mp hsome⟩))

/-- Where there is a remark, one is found. -/
theorem exists_remark?_of_isRemark (hr : IsRemark s r) : ∃ r', remark? s = some r' := by
  refine Option.ne_none_iff_exists'.mp fun hnone => ?_
  exact remark?_eq_none_iff.mp hnone r hr

/-- The remark that is found has the longest message. The search looks for a longer message first,
and takes the ending in front of it only if there is none. -/
theorem isRemark_and_longest_of_remark? (hfound : remark? s = some r) :
    IsRemark s r ∧ ∀ r', IsRemark s r' → r'.message.length ≤ r.message.length := by
  induction s generalizing r with
  | nil => simp [remark?] at hfound
  | cons c s ih =>
    have hc : c ≠ .scalar '\n' := by
      rintro rfl
      simp [remark?] at hfound
    cases hrest : remark? s with
    | some rest =>
      obtain ⟨hremark, hlongest⟩ := ih hrest
      rw [remark?_cons_of_some hc hrest] at hfound
      obtain rfl := Option.some.inj hfound
      refine ⟨isRemark_cons_iff.mpr (Or.inl ⟨hc, rest.message, rfl, hremark⟩), fun r' hr' => ?_⟩
      rcases isRemark_cons_iff.mp hr' with ⟨_, message, hmessage, hshorter⟩ | ⟨hmessage, _⟩
      · have hle : message.length ≤ rest.message.length := hlongest _ hshorter
        simp only [hmessage, List.length_cons]
        omega
      · simp [hmessage]
    | none =>
      rw [remark?_cons_of_none hc hrest] at hfound
      obtain ⟨⟨rule, severity⟩, hsome, rfl⟩ := Option.map_eq_some_iff.mp hfound
      have hending := ending?_eq_some_iff.mp hsome
      refine ⟨isRemark_cons_iff.mpr (Or.inr ⟨rfl, hending⟩), fun r' hr' => ?_⟩
      rcases isRemark_cons_iff.mp hr' with ⟨_, message, _, hlonger⟩ | ⟨hmessage, _⟩
      · exact absurd hlonger (remark?_eq_none_iff.mp hrest _)
      · simp [hmessage]

end Found

/-! ### Line numbers and file names -/

/-- Digits have no colon. -/
theorem colon_not_mem_ofChars {digits : List Char}
    (hdigits : ∀ c ∈ digits, Text.isDecimalDigit c = true) : .scalar ':' ∉ Str.ofChars digits := by
  intro hmem
  obtain ⟨c, hc, hcolon⟩ := Str.mem_ofChars.mp hmem
  obtain rfl := Point.scalar.inj hcolon
  exact absurd (hdigits _ hc) (by decide)

/-- A line number and its remark are found where digits, a colon and a blank precede a remark. -/
theorem numbered?_eq_some_iff {s : Str} {digits : List Char} {r : Remark} :
    numbered? s = some (digits, r) ↔ ∃ rest, IsNumbered s digits rest ∧ remark? rest = some r := by
  constructor
  · intro h
    simp only [numbered?] at h
    split at h
    · simp at h
    · rename_i hne
      split at h
      · rename_i rest hdrop
        obtain ⟨r', hr', heq⟩ := Option.map_eq_some_iff.mp h
        obtain ⟨hdigits, rfl⟩ :
            Str.scalars (s.takeWhile (Point.has Text.isDecimalDigit)) = digits ∧ r' = r := by
          simpa using heq
        have htake : Str.ofChars digits = s.takeWhile (Point.has Text.isDecimalDigit) := by
          rw [← hdigits]
          exact Str.ofChars_scalars fun p hp => List.mem_takeWhile_imp hp
        refine ⟨rest, ⟨?_, ?_, ?_⟩, hr'⟩
        · rintro rfl
          exact hne (by simp [← htake])
        · intro c hc
          have hmem : Point.scalar c ∈ Str.ofChars digits := by simp [hc]
          rw [htake] at hmem
          exact (List.mem_takeWhile_imp hmem : Point.has _ _ = true)
        · rw [htake, ← hdrop, List.takeWhile_append_dropWhile]
      · simp at h
  · rintro ⟨rest, ⟨hne, hdigits, rfl⟩, hr⟩
    have hcolon : Point.has Text.isDecimalDigit (.scalar ':') = false := by decide
    have hall : ∀ p ∈ Str.ofChars digits, Point.has Text.isDecimalDigit p = true := by
      rintro p hp
      obtain ⟨c, hc, rfl⟩ := Str.mem_ofChars.mp hp
      exact hdigits c hc
    have htake : (Str.ofChars digits ++ .scalar ':' :: .scalar ' ' :: rest).takeWhile
        (Point.has Text.isDecimalDigit) = Str.ofChars digits := by
      rw [List.takeWhile_append_of_pos hall]
      simp [hcolon]
    have hdrop : (Str.ofChars digits ++ .scalar ':' :: .scalar ' ' :: rest).dropWhile
        (Point.has Text.isDecimalDigit) = .scalar ':' :: .scalar ' ' :: rest := by
      rw [List.dropWhile_append_of_pos hall]
      simp [hcolon]
    have hne' : Str.ofChars digits ≠ [] := by
      simpa [Str.ofChars] using hne
    simp [numbered?, htake, hdrop, hne', hr]

/-- Where a text that starts with a character can be cut at a colon: in front of that character, or
further on. -/
private theorem cons_eq_append_colon_iff {c : Point} {s file rest : Str} :
    c :: s = file ++ .scalar ':' :: rest ↔
      file = [] ∧ c = .scalar ':' ∧ s = rest ∨
        ∃ tail, file = c :: tail ∧ s = tail ++ .scalar ':' :: rest := by
  cases file with
  | nil => simp
  | cons d file =>
    simp only [List.cons_append, List.cons.injEq, reduceCtorEq, false_and, false_or]
    constructor
    · rintro ⟨rfl, h⟩
      exact ⟨file, ⟨rfl, rfl⟩, h⟩
    · rintro ⟨tail, ⟨rfl, rfl⟩, h⟩
      exact ⟨rfl, h⟩

/-- The line is read after the shortest file name that leaves something to read. -/
theorem parts?_eq_some_iff {s : Str} {p : List Char × Remark} :
    parts? s = some p ↔
      ∃ file rest, s = file ++ .scalar ':' :: rest ∧ .scalar '\n' ∉ file ∧ numbered? rest = some p ∧
        ∀ file' rest', s = file' ++ .scalar ':' :: rest' → file'.length < file.length →
          numbered? rest' = none := by
  induction s with
  | nil => simp [parts?]
  | cons c s ih =>
    cases hfound : (if c == .scalar ':' then numbered? s else none) with
    | some found =>
      obtain ⟨rfl, hnumbered⟩ : c = .scalar ':' ∧ numbered? s = some found := by simpa using hfound
      simp only [parts?, hfound, Option.some.injEq]
      constructor
      · rintro rfl
        exact ⟨[], s, rfl, by simp, hnumbered, fun _ _ _ hlt => by simp at hlt⟩
      · rintro ⟨file, rest, hsplit, _, hrest, hshortest⟩
        rcases cons_eq_append_colon_iff.mp hsplit with ⟨_, _, rfl⟩ | ⟨tail, rfl, _⟩
        · rw [hnumbered] at hrest
          exact Option.some.inj hrest
        · have hnone := hshortest [] s rfl (by simp)
          simp [hnumbered] at hnone
    | none =>
      have hnone : c = .scalar ':' → numbered? s = none := by
        rintro rfl
        simpa using hfound
      by_cases hc : c = .scalar '\n'
      · subst hc
        simp only [parts?, hfound, beq_self_eq_true, if_true, reduceCtorEq, false_iff]
        rintro ⟨file, rest, hsplit, hfile, _, _⟩
        rcases cons_eq_append_colon_iff.mp hsplit with ⟨_, hcolon, _⟩ | ⟨tail, rfl, _⟩
        · simp at hcolon
        · simp at hfile
      · have hparts : parts? (c :: s) = parts? s := by
          simp only [parts?, hfound]
          rw [if_neg (by simpa using hc)]
        rw [hparts, ih]
        constructor
        · rintro ⟨file, rest, rfl, hfile, hrest, hshortest⟩
          refine ⟨c :: file, rest, rfl, by simp [Ne.symm hc, hfile], hrest, ?_⟩
          intro file' rest' hsplit hlt
          rcases cons_eq_append_colon_iff.mp hsplit with ⟨_, hcolon, rfl⟩ | ⟨tail, rfl, htail⟩
          · exact hnone hcolon
          · exact hshortest tail rest' htail (by simpa using hlt)
        · rintro ⟨file, rest, hsplit, hfile, hrest, hshortest⟩
          rcases cons_eq_append_colon_iff.mp hsplit with ⟨_, hcolon, rfl⟩ | ⟨tail, rfl, htail⟩
          · simp [hnone hcolon] at hrest
          · have htail' : .scalar '\n' ∉ tail := fun hmem => hfile (List.mem_cons_of_mem c hmem)
            refine ⟨tail, rest, htail, htail', hrest, ?_⟩
            intro file' rest' hsplit' hlt
            exact hshortest (c :: file') rest' (by simp [hsplit']) (by simpa using hlt)

end ProseCheck.Report
