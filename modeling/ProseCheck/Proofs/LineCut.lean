import ProseCheck.Proofs.LineGrammar
import Mathlib.Logic.ExistsUnique

/-!
# The cut of a report line

A text is a line of a report if it can be cut into a file name, digits, a message, a rule and a
severity. Of all the ways in which it can be cut, the reader takes the one with the shortest file
name and, among those, with the longest message. There is just one such way, and the reader gives
the diagnostic that it says, unless its number has too many digits.
-/

namespace ProseCheck.Report

/-- The parts of a line. -/
@[ext]
structure Cut where
  file : Str
  digits : List Char
  remark : Remark

/-- The diagnostic that the parts of a line say. -/
def Cut.diagnostic (k : Cut) : Diagnostic where
  line := Text.decimalValue k.digits
  rule := k.remark.rule
  severity := k.remark.severity
  message := k.remark.message

/-- A text is put together from the parts of a line, perhaps with a line feed at the end. -/
structure IsCut (s : Str) (k : Cut) : Prop where
  file : .scalar '\n' ∉ k.file
  digits_ne_nil : k.digits ≠ []
  digits : ∀ c ∈ k.digits, Text.isDecimalDigit c = true
  message : .scalar '\n' ∉ k.remark.message
  rule : .scalar ']' ∉ k.remark.rule
  text : ∃ feed, (feed = [] ∨ feed = [.scalar '\n']) ∧
    s = k.file ++ .scalar ':' :: (Str.ofChars k.digits ++ .scalar ':' :: .scalar ' ' ::
      (k.remark.message ++ .scalar ' ' :: .scalar '[' ::
        (k.remark.rule ++ .scalar ']' :: .scalar ' ' :: .scalar '[' ::
          (Str.ofString k.remark.severity.name ++ .scalar ']' :: feed))))

/-- A cut with the shortest file name and, among those, with the longest message. -/
structure Preferred (s : Str) (k : Cut) : Prop where
  isCut : IsCut s k
  shortest : ∀ k', IsCut s k' → k.file.length ≤ k'.file.length
  longest : ∀ k', IsCut s k' → k'.file.length = k.file.length →
    k'.remark.message.length ≤ k.remark.message.length

/-- A cut is a file name, a number and a remark one after the other. -/
theorem isCut_iff {s : Str} {k : Cut} :
    IsCut s k ↔ ∃ numbered rest, s = k.file ++ .scalar ':' :: numbered ∧ .scalar '\n' ∉ k.file ∧
      IsNumbered numbered k.digits rest ∧ IsRemark rest k.remark := by
  constructor
  · rintro ⟨hfile, hne, hdigits, hmessage, hrule, feed, hfeed, rfl⟩
    exact ⟨_, _, rfl, hfile, ⟨hne, hdigits, rfl⟩, hmessage, _, rfl, hrule, feed, hfeed, rfl⟩
  · rintro ⟨_, _, rfl, hfile, ⟨hne, hdigits, rfl⟩, hmessage, _, rfl, hrule, feed, hfeed, rfl⟩
    exact ⟨hfile, hne, hdigits, hmessage, hrule, feed, hfeed, rfl⟩

/-- There is no colon among the digits of a line number. -/
theorem IsNumbered.colon_not_mem {s : Str} {digits : List Char} {rest : Str}
    (h : IsNumbered s digits rest) : .scalar ':' ∉ Str.ofChars digits :=
  colon_not_mem_ofChars h.2.1

/-- Digits end at the first colon. -/
theorem IsNumbered.unique {s : Str} {digits digits' : List Char} {rest rest' : Str}
    (h : IsNumbered s digits rest) (h' : IsNumbered s digits' rest') :
    digits = digits' ∧ rest = rest' := by
  have heq : Str.ofChars digits ++ .scalar ':' :: .scalar ' ' :: rest =
      Str.ofChars digits' ++ .scalar ':' :: .scalar ' ' :: rest' := by
    rw [← h.2.2, ← h'.2.2]
  obtain ⟨hdigits, hrest⟩ := append_cons_inj_of_not_mem_left h.colon_not_mem h'.colon_not_mem heq
  exact ⟨Str.ofChars_injective hdigits, (List.cons.inj hrest).2⟩

/-- A remark is determined by how long its message is. -/
theorem IsRemark.unique {s : Str} {r r' : Remark} (h : IsRemark s r) (h' : IsRemark s r')
    (hlength : r.message.length = r'.message.length) : r = r' := by
  obtain ⟨message, rule, severity⟩ := r
  obtain ⟨message', rule', severity'⟩ := r'
  obtain ⟨_, t, hsplit, hending⟩ := h
  obtain ⟨_, t', hsplit', hending'⟩ := h'
  obtain ⟨rfl, rfl⟩ := List.append_inj (hsplit.symm.trans hsplit') hlength
  have hsame := ending?_eq_some_iff.mpr hending
  rw [ending?_eq_some_iff.mpr hending'] at hsame
  obtain ⟨rfl, rfl⟩ : rule' = rule ∧ severity' = severity := by simpa using hsame
  rfl

/-- The cuts with a file name of one length differ in their remarks only. -/
theorem IsCut.of_split {file numbered rest : Str} {digits : List Char} {k : Cut}
    (h : IsCut (file ++ .scalar ':' :: numbered) k) (hlength : k.file.length = file.length)
    (hnumbered : IsNumbered numbered digits rest) :
    k.file = file ∧ k.digits = digits ∧ IsRemark rest k.remark := by
  obtain ⟨numbered', rest', hsplit, _, hnumbered', hremark⟩ := isCut_iff.mp h
  obtain ⟨hfile, htail⟩ := List.append_inj hsplit hlength.symm
  obtain ⟨_, rfl⟩ := List.cons.inj htail
  obtain ⟨hdigits, rfl⟩ := hnumbered.unique hnumbered'
  exact ⟨hfile.symm, hdigits.symm, hremark⟩

/-- One cut is preferred. -/
theorem Preferred.unique {s : Str} {k k' : Cut} (h : Preferred s k) (h' : Preferred s k') :
    k' = k := by
  have hfile : k'.file.length = k.file.length :=
    Nat.le_antisymm (h'.shortest k h.isCut) (h.shortest k' h'.isCut)
  have hmessage : k'.remark.message.length = k.remark.message.length :=
    Nat.le_antisymm (h.longest k' h'.isCut hfile) (h'.longest k h.isCut hfile.symm)
  obtain ⟨numbered, rest, hsplit, _, hnumbered, hremark⟩ := isCut_iff.mp h.isCut
  obtain ⟨hsame, hdigits, hremark'⟩ := (hsplit ▸ h'.isCut).of_split hfile hnumbered
  exact Cut.ext hsame hdigits (hremark'.unique hremark hmessage)

/-- Where a text can be cut after a file name, a number is found there. -/
theorem exists_numbered?_of_isCut {s : Str} {k : Cut} (h : IsCut s k) :
    ∃ numbered p, s = k.file ++ .scalar ':' :: numbered ∧ numbered? numbered = some p := by
  obtain ⟨numbered, rest, hsplit, _, hnumbered, hremark⟩ := isCut_iff.mp h
  obtain ⟨r, hr⟩ := exists_remark?_of_isRemark hremark
  exact ⟨numbered, _, hsplit, numbered?_eq_some_iff.mpr ⟨rest, hnumbered, hr⟩⟩

/-- Where a number is found, a text can be cut. -/
theorem isCut_of_numbered? {file numbered : Str} {p : List Char × Remark}
    (hfile : .scalar '\n' ∉ file) (hp : numbered? numbered = some p) :
    IsCut (file ++ .scalar ':' :: numbered) ⟨file, p.1, p.2⟩ := by
  obtain ⟨rest, hnumbered, hr⟩ := numbered?_eq_some_iff.mp hp
  have hremark := (isRemark_and_longest_of_remark? hr).1
  exact isCut_iff.mpr ⟨numbered, rest, rfl, hfile, hnumbered, hremark⟩

/-- The parts that are found are those of the preferred cut. -/
theorem exists_preferred_of_parts? {s : Str} {p : List Char × Remark}
    (hp : parts? s = some p) : ∃ file, Preferred s ⟨file, p.1, p.2⟩ := by
  obtain ⟨file, numbered, rfl, hfile, hnumbered, hnone⟩ := parts?_eq_some_iff.mp hp
  have hcut := isCut_of_numbered? hfile hnumbered
  refine ⟨file, hcut, fun k' hk' => ?_, fun k' hk' hlength => ?_⟩
  · by_contra hlt
    obtain ⟨numbered', p', hsplit, hsome⟩ := exists_numbered?_of_isCut hk'
    rw [hnone k'.file numbered' hsplit (by simpa using hlt)] at hsome
    cases hsome
  · obtain ⟨rest, hisNumbered, hr⟩ := numbered?_eq_some_iff.mp hnumbered
    obtain ⟨_, _, hremark⟩ := hk'.of_split hlength hisNumbered
    exact (isRemark_and_longest_of_remark? hr).2 k'.remark hremark

/-- Parts are found in every text that can be cut. The search stops at the first colon that a number
follows, and a cut with a shorter file name is such a colon. -/
theorem exists_parts?_of_isCut {s : Str} {k : Cut} (h : IsCut s k) :
    ∃ p, parts? s = some p := by
  induction hn : k.file.length using Nat.strong_induction_on generalizing k with
  | _ n ih =>
    by_cases hshorter : ∃ k', IsCut s k' ∧ k'.file.length < n
    · obtain ⟨k', hk', hlt⟩ := hshorter
      exact ih _ hlt hk' rfl
    · obtain ⟨numbered, p, hsplit, hp⟩ := exists_numbered?_of_isCut h
      refine ⟨p, parts?_eq_some_iff.mpr ⟨k.file, numbered, hsplit, h.file, hp, ?_⟩⟩
      intro file' numbered' hsplit' hlt
      have hstart : file' <+: k.file :=
        List.prefix_of_prefix_length_le ⟨_, hsplit'.symm⟩ ⟨_, hsplit.symm⟩ hlt.le
      have hfile' : .scalar '\n' ∉ file' := fun hmem => h.file (hstart.subset hmem)
      by_contra hsome
      obtain ⟨p', hp'⟩ := Option.ne_none_iff_exists'.mp hsome
      have hk' := isCut_of_numbered? hfile' hp'
      rw [← hsplit'] at hk'
      exact hshorter ⟨_, hk', hn ▸ hlt⟩

/-- Nothing is found in exactly the texts that cannot be cut. -/
theorem parts?_eq_none_iff {s : Str} : parts? s = none ↔ ¬∃ k, IsCut s k := by
  constructor
  · rintro hnone ⟨k, hk⟩
    obtain ⟨p, hp⟩ := exists_parts?_of_isCut hk
    simp [hnone] at hp
  · intro hno
    refine Option.eq_none_iff_forall_ne_some.mpr fun p hp => ?_
    obtain ⟨file, hpreferred⟩ := exists_preferred_of_parts? hp
    exact hno ⟨_, hpreferred.isCut⟩

/-- The parts that are found, by the preferred cut. -/
theorem Preferred.parts?_eq {s : Str} {k : Cut} (h : Preferred s k) :
    parts? s = some (k.digits, k.remark) := by
  obtain ⟨p, hp⟩ := exists_parts?_of_isCut h.isCut
  obtain ⟨file, hpreferred⟩ := exists_preferred_of_parts? hp
  obtain rfl := h.unique hpreferred
  exact hp

/-- Some cut of a text that can be cut is preferred. -/
theorem existsUnique_preferred {s : Str} {k : Cut} (h : IsCut s k) :
    ∃! k', Preferred s k' := by
  obtain ⟨p, hp⟩ := exists_parts?_of_isCut h
  obtain ⟨file, hpreferred⟩ := exists_preferred_of_parts? hp
  exact ⟨_, hpreferred, fun _ h' => hpreferred.unique h'⟩

/-- The reader takes exactly the texts that can be cut for lines of a report. A line that can be cut
has one preferred cut, and the reader gives the diagnostic of that cut, or refuses its number for
having too many digits. -/
theorem readLine_eq_of_cuts (line : Str) :
    (readLine line = .ok none ↔ ¬∃ k, IsCut line k) ∧
    ((∃ k, IsCut line k) → ∃! k, Preferred line k) ∧
    ∀ k, Preferred line k →
      readLine line = if k.digits.length ≤ Text.digitLimit then .ok (some k.diagnostic)
        else .error ⟨k.digits.length⟩ := by
  refine ⟨?_, fun ⟨k, hk⟩ => existsUnique_preferred hk, fun k hk => ?_⟩
  · rw [← parts?_eq_none_iff]
    unfold readLine
    split
    · simp [*]
    · split <;> simp [*]
  · simp only [readLine, hk.parts?_eq, Cut.diagnostic, ← Nat.not_le, ite_not]

/-- A line that can be cut in four ways: after either number, and in front of either bracket. -/
theorem readLine_eq_of_cuts_four_ways :
    ∃ k, Preferred "a:1: b:2: m [x [y] [info]\n" k ∧
      k.diagnostic = ⟨1, "y", .info, "b:2: m [x"⟩ := by
  obtain ⟨_, hunique, hread⟩ := readLine_eq_of_cuts "a:1: b:2: m [x [y] [info]\n"
  have hcut : IsCut "a:1: b:2: m [x [y] [info]\n"
      ⟨"a:1: b", ['2'], "m", "x [y", .info⟩ :=
    ⟨by decide, by decide, by simp; decide, by decide, by decide, [.scalar '\n'], Or.inr rfl,
      by decide⟩
  obtain ⟨k, hk, _⟩ := hunique ⟨_, hcut⟩
  have hdiagnostic := hread k hk
  rw [show readLine "a:1: b:2: m [x [y] [info]\n" = .ok (some ⟨1, "y", .info, "b:2: m [x"⟩) by
    cbv] at hdiagnostic
  refine ⟨k, hk, ?_⟩
  split at hdiagnostic
  · simpa using hdiagnostic.symm
  · cases hdiagnostic

end ProseCheck.Report
