import ProseCheck.Proofs.LineGrammar
import Mathlib.Algebra.Order.Group.Nat

/-!
# Reading a line that was written

The line of a diagnostic gives the diagnostic back exactly when it can be cut in no other place
that the reader prefers: the file name has nothing that looks like a line number, the rule closes no
bracket, and opens none before a line feed. The message may be any text of one line.
-/

namespace ProseCheck.Report

/-- A text has digits between a colon and a colon with a blank, as a line number has. -/
def HasLineMark (s : Str) : Prop :=
  ∃ before digits after,
    s = before ++ .scalar ':' :: (Str.ofChars digits ++ .scalar ':' :: .scalar ' ' :: after) ∧
      digits ≠ [] ∧ ∀ c ∈ digits, Text.isDecimalDigit c = true

/-- A text has a blank and an opening bracket before its first line feed, if it has one. -/
def OpensBracket (s : Str) : Prop :=
  ∃ before after, s = before ++ .scalar ' ' :: .scalar '[' :: after ∧ .scalar '\n' ∉ before

/-- What follows the message in a line that is written. -/
def writtenEnding (rule : Str) (severity : Severity) : Str :=
  .scalar ' ' :: .scalar '[' :: (rule ++ .scalar ']' :: .scalar ' ' :: .scalar '[' ::
    (Str.ofString severity.name ++ [.scalar ']']))

/-- A line that is written. -/
def writtenLine (file : Str) (line : ℤ) (r : Remark) : Str :=
  file ++ .scalar ':' :: (Str.ofChars (Text.writeInteger line) ++ .scalar ':' :: .scalar ' ' ::
    (r.message ++ writtenEnding r.rule r.severity))

/-- The line of a diagnostic, part by part. -/
theorem writeLine_eq_writtenLine (file : Str) (d : Diagnostic) :
    writeLine file d = writtenLine file d.line ⟨d.message, d.rule, d.severity⟩ := by
  simp [writeLine, writtenLine, writtenEnding, Str.ofString]

/-! ### The ending -/

/-- A rule that closes no bracket is the rule of the ending that is written for it. -/
theorem isEnding_writtenEnding {rule : Str} (hrule : .scalar ']' ∉ rule) (severity : Severity) :
    IsEnding (writtenEnding rule severity) rule severity :=
  ⟨hrule, [], Or.inl rfl, rfl⟩

/-- The name of a severity has no bracket. -/
theorem count_bracket_name (severity : Severity) :
    (Str.ofString severity.name).count (.scalar ']') = 0 := by
  cases severity <;> decide

/-- No other ending is in a written one, unless the rule opens a bracket. The brackets that close an
ending are those that close the written one, so that the other one starts inside the rule. -/
theorem eq_nil_of_writtenEnding_eq {rule rule' skipped t : Str} {severity severity' : Severity}
    (hrule : .scalar ']' ∉ rule) (hopens : ¬OpensBracket rule) (hskipped : .scalar '\n' ∉ skipped)
    (hending : IsEnding t rule' severity')
    (h : writtenEnding rule severity = skipped ++ t) : skipped = [] := by
  obtain ⟨hrule', feed, _, rfl⟩ := hending
  have hclosed : .scalar ']' ∉ skipped := by
    have hcount := congrArg (List.count (Point.scalar ']')) h
    have hzero : rule.count (.scalar ']') = 0 := List.count_eq_zero.mpr hrule
    simp only [writtenEnding, List.count_append, List.count_cons, count_bracket_name,
      hzero] at hcount
    rw [← List.count_eq_zero]
    simp at hcount
    omega
  have hcut : (.scalar ' ' :: .scalar '[' :: rule) ++ .scalar ']' :: .scalar ' ' :: .scalar '[' ::
        (Str.ofString severity.name ++ [.scalar ']']) =
      (skipped ++ .scalar ' ' :: .scalar '[' :: rule') ++ .scalar ']' :: .scalar ' ' ::
        .scalar '[' :: (Str.ofString severity'.name ++ .scalar ']' :: feed) := by
    simpa [writtenEnding] using h
  obtain ⟨hfront, _⟩ := append_cons_inj_of_not_mem_left (by simpa using hrule)
    (by simpa using ⟨hclosed, hrule'⟩) hcut
  rcases skipped with _ | ⟨a, _ | ⟨b, before⟩⟩
  · rfl
  · simp at hfront
  · obtain ⟨_, rfl, hsplit⟩ : (.scalar ' ') = a ∧ (.scalar '[') = b ∧
        rule = before ++ .scalar ' ' :: .scalar '[' :: rule' := by
      simpa using hfront
    exact absurd ⟨before, rule', hsplit, fun hmem => hskipped (by simp [hmem])⟩ hopens

/-- The remark of a written line is read back exactly when its message has no line feed and its rule
closes no bracket and opens none. -/
theorem remark?_writtenEnding_iff {r : Remark} :
    remark? (r.message ++ writtenEnding r.rule r.severity) = some r ↔
      .scalar '\n' ∉ r.message ∧ .scalar ']' ∉ r.rule ∧ ¬OpensBracket r.rule := by
  obtain ⟨message, rule, severity⟩ := r
  constructor
  · intro h
    obtain ⟨⟨hmessage, t, _, hrule, _⟩, hlongest⟩ := isRemark_and_longest_of_remark? h
    refine ⟨hmessage, hrule, ?_⟩
    rintro ⟨before, after, hsplit, hbefore⟩
    simp only at hmessage hrule hsplit
    have hlonger : IsRemark (message ++ writtenEnding rule severity)
        ⟨message ++ .scalar ' ' :: .scalar '[' :: before, after, severity⟩ := by
      refine ⟨by simp [hmessage, hbefore], writtenEnding after severity, ?_, ?_⟩
      · simp [hsplit, writtenEnding]
      · refine isEnding_writtenEnding (fun hmem => hrule ?_) severity
        simp [hsplit, hmem]
    have hle := hlongest _ hlonger
    simp only [List.length_append, List.length_cons] at hle
    omega
  · rintro ⟨hmessage, hrule, hopens⟩
    simp only at hmessage hrule hopens
    have hremark : IsRemark (message ++ writtenEnding rule severity) ⟨message, rule, severity⟩ :=
      ⟨hmessage, _, rfl, isEnding_writtenEnding hrule severity⟩
    obtain ⟨r, hr⟩ := exists_remark?_of_isRemark hremark
    obtain ⟨⟨hnofeed, t, hsplit, hending⟩, hlongest⟩ := isRemark_and_longest_of_remark? hr
    have hwhole : message <+: r.message ++ t := hsplit ▸ List.prefix_append _ _
    obtain ⟨skipped, hskipped⟩ := List.prefix_of_prefix_length_le hwhole (List.prefix_append _ _)
      (hlongest _ hremark)
    have hrest : writtenEnding rule severity = skipped ++ t := by
      rw [← hskipped, List.append_assoc] at hsplit
      exact List.append_cancel_left hsplit
    have hnil : skipped = [] := by
      refine eq_nil_of_writtenEnding_eq hrule hopens (fun hmem => hnofeed ?_) hending hrest
      simp [← hskipped, hmem]
    subst hnil
    rw [List.nil_append] at hrest
    subst hrest
    have hsame := ending?_eq_some_iff.mpr hending
    rw [ending?_eq_some_iff.mpr (isEnding_writtenEnding hrule severity)] at hsame
    obtain ⟨hrule', hseverity'⟩ : rule = r.rule ∧ severity = r.severity := by simpa using hsame
    rw [hr, hrule', hseverity', ← List.append_nil message, hskipped]

/-! ### The file name -/

/-- The number of a line has only digits, and a minus in front if it is negative. -/
theorem not_mem_ofChars_writeInteger {c : Char} (hminus : c ≠ '-')
    (hdigit : Text.isDecimalDigit c = false) (line : ℤ) :
    .scalar c ∉ Str.ofChars (Text.writeInteger line) := by
  simpa using Text.not_mem_writeInteger hminus hdigit line

/-- The number of a line does not start with a blank. -/
private theorem writeInteger_append_ne_blank (line : ℤ) (tail rest : Str) :
    Str.ofChars (Text.writeInteger line) ++ tail ≠ .scalar ' ' :: rest := by
  intro h
  rcases hnumber : Text.writeInteger line with _ | ⟨c, number⟩
  · exact Text.writeInteger_ne_nil line hnumber
  · rw [hnumber, Str.ofChars_cons, List.cons_append, List.cons.injEq] at h
    have hblank : ' ' ∈ Text.writeInteger line := by simp [hnumber, Point.scalar.inj h.1]
    exact Text.not_mem_writeInteger (by decide) (by decide) line hblank

/-- A line number that is found before the end of the file name is one in the file name: the colon
after the file name is followed by a number and not by a blank. -/
theorem hasLineMark_of_isNumbered {file front rest rest' tail : Str} {digits : List Char} {line : ℤ}
    (hsplit : file ++ .scalar ':' :: (Str.ofChars (Text.writeInteger line) ++ tail) =
      front ++ .scalar ':' :: rest)
    (hlt : front.length < file.length) (hnumbered : IsNumbered rest digits rest') :
    HasLineMark file := by
  obtain ⟨hne, hdigits, rfl⟩ := hnumbered
  have hcolon := colon_not_mem_ofChars hdigits
  rcases List.append_eq_append_iff.mp hsplit with ⟨more, rfl, _⟩ | ⟨inside, rfl, hrest⟩
  · simp only [List.length_append] at hlt
    omega
  cases inside with
  | nil => simp at hlt
  | cons c inside =>
    obtain ⟨rfl, hinside⟩ : (.scalar ':') = c ∧
        Str.ofChars digits ++ .scalar ':' :: .scalar ' ' :: rest' =
          inside ++ .scalar ':' :: (Str.ofChars (Text.writeInteger line) ++ tail) := by
      simpa using hrest
    by_cases hmem : .scalar ':' ∈ inside
    · obtain ⟨number, after, rfl, hnumber⟩ := List.eq_append_cons_of_mem hmem
      rw [List.append_assoc, List.cons_append] at hinside
      obtain ⟨rfl, hafter⟩ := append_cons_inj_of_not_mem_left hcolon hnumber hinside
      cases after with
      | nil => simp at hafter
      | cons c after =>
        obtain ⟨rfl, _⟩ : (.scalar ' ') = c ∧ _ := by simpa using hafter
        exact ⟨front, digits, after, rfl, hne, hdigits⟩
    · -- Otherwise the digits end with the file name, and a blank stands where the number starts.
      obtain ⟨_, hblank⟩ := append_cons_inj_of_not_mem_left hcolon hmem hinside
      exact absurd hblank.symm (writeInteger_append_ne_blank line tail rest')

/-- A written line can be cut in one way only into a file name, a number and the remark that was
written. -/
theorem eq_of_writtenLine_eq {file file' t : Str} {digits : List Char} {line : ℤ}
    {r : Remark}
    (hdigits : ∀ c ∈ digits, Text.isDecimalDigit c = true)
    (hending : IsEnding t r.rule r.severity)
    (h : writtenLine file line r = file' ++ .scalar ':' ::
      (Str.ofChars digits ++ .scalar ':' :: .scalar ' ' :: (r.message ++ t))) :
    file = file' ∧ Text.writeInteger line = digits ∧ t = writtenEnding r.rule r.severity := by
  have hcolon := colon_not_mem_ofChars hdigits
  have hcolon' : .scalar ':' ∉ Str.ofChars (Text.writeInteger line) :=
    not_mem_ofChars_writeInteger (by decide) (by decide) line
  obtain ⟨_, feed, rfl | rfl, rfl⟩ := hending
  · have hcut : (file ++ .scalar ':' :: Str.ofChars (Text.writeInteger line)) ++
        .scalar ':' :: .scalar ' ' :: (r.message ++ writtenEnding r.rule r.severity) =
        (file' ++ .scalar ':' :: Str.ofChars digits) ++
          .scalar ':' :: .scalar ' ' :: (r.message ++ writtenEnding r.rule r.severity) := by
      simpa [writtenLine, writtenEnding] using h
    obtain ⟨hfile, hnumber⟩ := append_cons_inj_of_not_mem_right hcolon' hcolon
      (List.append_cancel_right hcut)
    exact ⟨hfile, Str.ofChars_injective hnumber, rfl⟩
  · -- A written line does not end in a line feed.
    have hlast := congrArg List.getLast? h
    simp [writtenLine, writtenEnding, List.getLast?_cons] at hlast

/-- A line number in the file name of a written line is read in place of the number of the line:
what is left of the file name becomes a part of the message. -/
theorem exists_numbered?_of_hasLineMark {file : Str} {r : Remark} (line : ℤ)
    (hfile : .scalar '\n' ∉ file) (hmark : HasLineMark file) (hmessage : .scalar '\n' ∉ r.message)
    (hrule : .scalar ']' ∉ r.rule) :
    ∃ front rest p, writtenLine file line r = front ++ .scalar ':' :: rest ∧
      front.length < file.length ∧ numbered? rest = some p := by
  obtain ⟨before, digits, after, rfl, hne, hdigits⟩ := hmark
  have hafter : .scalar '\n' ∉ after := fun hmem => hfile (by simp [hmem])
  have hnumber : .scalar '\n' ∉ Str.ofChars (Text.writeInteger line) :=
    not_mem_ofChars_writeInteger (by decide) (by decide) line
  have hremark : IsRemark
      (after ++ .scalar ':' :: (Str.ofChars (Text.writeInteger line) ++ .scalar ':' ::
        .scalar ' ' :: (r.message ++ writtenEnding r.rule r.severity)))
      ⟨after ++ .scalar ':' ::
        (Str.ofChars (Text.writeInteger line) ++ .scalar ':' :: .scalar ' ' :: r.message),
        r.rule, r.severity⟩ :=
    ⟨by simp [hafter, hnumber, hmessage], _, by simp, isEnding_writtenEnding hrule r.severity⟩
  obtain ⟨r', hr'⟩ := exists_remark?_of_isRemark hremark
  refine ⟨before, _, (digits, r'), ?_, by simp, numbered?_eq_some_iff.mpr
    ⟨_, ⟨hne, hdigits, rfl⟩, hr'⟩⟩
  simp [writtenLine]

/-- A written line is cut as it was put together exactly when nothing else looks like the end of its
file name or of its message. -/
theorem parts?_writtenLine_iff {file : Str} {digits : List Char} {line : ℤ} {r : Remark} :
    parts? (writtenLine file line r) = some (digits, r) ↔
      digits = Text.writeInteger line ∧ 0 ≤ line ∧ .scalar '\n' ∉ file ∧ ¬HasLineMark file ∧
        .scalar '\n' ∉ r.message ∧ .scalar ']' ∉ r.rule ∧ ¬OpensBracket r.rule := by
  constructor
  · intro h
    obtain ⟨file', rest, hsplit, hfile, hnumbered, hshortest⟩ := parts?_eq_some_iff.mp h
    obtain ⟨rest', ⟨_, hdigits, rfl⟩, hremark⟩ := numbered?_eq_some_iff.mp hnumbered
    obtain ⟨⟨_, t, rfl, hending⟩, _⟩ := isRemark_and_longest_of_remark? hremark
    obtain ⟨rfl, rfl, rfl⟩ := eq_of_writtenLine_eq hdigits hending hsplit
    obtain ⟨hmessage, hrule, hopens⟩ := remark?_writtenEnding_iff.mp hremark
    refine ⟨rfl, Text.nonneg_of_forall_isDecimalDigit hdigits, hfile, ?_, hmessage, hrule, hopens⟩
    intro hmark
    obtain ⟨front, rest, p, hfront, hlt, hsome⟩ :=
      exists_numbered?_of_hasLineMark line hfile hmark hmessage hrule
    simp [hshortest front rest hfront hlt] at hsome
  · rintro ⟨rfl, hline, hfile, hmark, hremark⟩
    have hdigits : ∀ c ∈ Text.writeInteger line, Text.isDecimalDigit c = true :=
      Text.isDecimalDigit_of_mem_writeInteger hline
    refine parts?_eq_some_iff.mpr ⟨file, _, rfl, hfile, numbered?_eq_some_iff.mpr
      ⟨_, ⟨Text.writeInteger_ne_nil line, hdigits, rfl⟩, remark?_writtenEnding_iff.mpr hremark⟩, ?_⟩
    intro front rest hsplit hlt
    refine Option.eq_none_iff_forall_ne_some.mpr ?_
    rintro ⟨digits, r'⟩ hnumbered
    obtain ⟨rest', hisNumbered, _⟩ := numbered?_eq_some_iff.mp hnumbered
    exact hmark (hasLineMark_of_isNumbered hsplit hlt hisNumbered)

/-! ### The whole line -/

/-- What a line is read as is what it can be cut into, with a number that is not too long. -/
theorem readLine_eq_ok_some_iff {s : Str} {d : Diagnostic} :
    readLine s = .ok (some d) ↔
      ∃ digits, parts? s = some (digits, ⟨d.message, d.rule, d.severity⟩) ∧
        digits.length ≤ Text.digitLimit ∧ d.line = Text.decimalValue digits := by
  unfold readLine
  constructor
  · intro h
    split at h
    · simp at h
    · rename_i digits remark hparts
      split at h
      · simp at h
      · rename_i hlength
        obtain rfl : _ = d := by simpa using h
        exact ⟨digits, by simp [hparts], by omega, rfl⟩
  · rintro ⟨digits, hparts, hlength, hvalue⟩
    simp only [hparts]
    rw [if_neg (by omega)]
    simp [← hvalue]

/-- The line of a diagnostic is read as that diagnostic exactly when its line number is not
negative, the file name has neither a line feed nor anything that looks like a line number, the
message has no line feed, and the rule neither closes a bracket nor opens one before its first line
feed. The message may look like another line. -/
theorem readLine_writeLine_iff {file : Str} {d : Diagnostic}
    (hnumber : d.line.natAbs < 10 ^ Text.digitLimit) :
    readLine (writeLine file d) = .ok (some d) ↔
      0 ≤ d.line ∧ .scalar '\n' ∉ file ∧ ¬HasLineMark file ∧ .scalar '\n' ∉ d.message ∧
        .scalar ']' ∉ d.rule ∧ ¬OpensBracket d.rule := by
  simp only [readLine_eq_ok_some_iff, writeLine_eq_writtenLine, parts?_writtenLine_iff]
  constructor
  · rintro ⟨digits, ⟨_, hconditions⟩, _⟩
    exact hconditions
  · intro hconditions
    have hdigits := Text.writeInteger_of_nonneg hconditions.1
    have hlength : (Text.writeInteger d.line).length ≤ Text.digitLimit := by
      rw [hdigits]
      exact (Nat.length_toDigits_le_iff (by decide) (by decide)).mpr hnumber
    have hvalue : d.line = Text.decimalValue (Text.writeInteger d.line) := by
      rw [hdigits, Text.decimalValue_toDigits]
      omega
    exact ⟨_, ⟨rfl, hconditions⟩, hlength, hvalue⟩

/-- A message that looks like another line of a report is read back. -/
theorem readLine_writeLine_iff_nested :
    (12 : ℤ).natAbs < 10 ^ Text.digitLimit ∧
      readLine (writeLine "a.md" ⟨12, "max-words", .error, "b.md:3: [x] [max-words] [info]"⟩) =
        .ok (some ⟨12, "max-words", .error, "b.md:3: [x] [max-words] [info]"⟩) := by
  have hnumber : (12 : ℤ).natAbs < 10 ^ Text.digitLimit :=
    Nat.lt_of_lt_of_le (by decide : _ < 10 ^ 2) (Nat.pow_le_pow_right (by decide) (by decide))
  have hmark : ¬HasLineMark "a.md" := by
    rintro ⟨before, digits, after, hsplit, _⟩
    have hcolon : .scalar ':' ∈ Str.ofString "a.md" := by simp [hsplit]
    exact absurd hcolon (by decide)
  have hopens : ¬OpensBracket "max-words" := by
    rintro ⟨before, after, hsplit, _⟩
    have hbracket : .scalar '[' ∈ Str.ofString "max-words" := by simp [hsplit]
    exact absurd hbracket (by decide)
  exact ⟨hnumber, (readLine_writeLine_iff hnumber).mpr
    ⟨by decide, by decide, hmark, by decide, by decide, hopens⟩⟩

end ProseCheck.Report
