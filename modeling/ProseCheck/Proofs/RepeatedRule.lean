import Mathlib.Data.List.Pairwise
import ProseCheck.Proofs.EncodedText
import ProseCheck.Proofs.Validation

/-!
# A rule that is configured twice

Two keys that name the same rule are a fault. The keys are compared after the text has been read,
and reading keeps one value for each name: the last one. So two different names of one rule never go
unnoticed, wherever they stand in the file. A name that is written twice does: the earlier of its
entries is dropped, whatever it says.
-/

namespace ProseCheck.Json

section Lookup

variable {α : Type}

/-- The last member with a name. -/
def lastMember? (members : List (Str × α)) (name : Str) : Option α :=
  members.reverse.lookup name

/-- A name is looked for in the first member and then in the others. -/
theorem lookup_cons_eq_ite (first name : Str) (a : α) (members : List (Str × α)) :
    List.lookup name ((first, a) :: members) =
      if name = first then some a else members.lookup name := by
  by_cases heq : name = first
  · simp [heq]
  · simp [List.lookup_cons, beq_false_of_ne heq, heq]

/-- The last member with a name is the first one only if no other has the name. -/
theorem lastMember?_cons (first name : Str) (a : α) (members : List (Str × α)) :
    lastMember? ((first, a) :: members) name =
      (lastMember? members name).or (if name = first then some a else none) := by
  rw [lastMember?, List.reverse_cons, List.lookup_append, lookup_cons_eq_ite, List.lookup_nil,
    lastMember?]

/-- A name that is there has a last member. -/
theorem exists_lastMember? {members : List (Str × α)} {name : Str} {a : α}
    (h : (name, a) ∈ members) : ∃ b, lastMember? members name = some b := by
  by_contra hnone
  have hlast : lastMember? members name = none := by
    simpa [Option.eq_none_iff_forall_ne_some] using hnone
  have hne := List.lookup_eq_none_iff.mp hlast (name, a) (List.mem_reverse.mpr h)
  simp at hne

end Lookup

/-! ### The last value of a name -/

/-- The members of the object that the given members make. -/
def mergedMembers (members : Members) : Members :=
  members.foldl (fun acc (name, value) => setMember name value acc) []

/-- Setting a member changes the value of its name and of no other. -/
theorem lookup_setMember (name other : Str) (value : Value) (members : Members) :
    (setMember name value members).lookup other =
      if other = name then some value else members.lookup other := by
  induction members with
  | nil => rw [setMember, lookup_cons_eq_ite]
  | cons m members ih =>
    obtain ⟨first, old⟩ := m
    by_cases hfirst : first = name
    · subst hfirst
      rw [setMember, if_pos rfl, lookup_cons_eq_ite, lookup_cons_eq_ite]
      split <;> rfl
    · rw [setMember, if_neg hfirst, lookup_cons_eq_ite, lookup_cons_eq_ite, ih]
      by_cases heq : other = first
      · rw [if_pos heq, if_neg (heq ▸ hfirst), if_pos heq]
      · rw [if_neg heq, if_neg heq]

/-- Setting members from first to last leaves each name with its last value. -/
theorem lookup_foldl_setMember (members acc : Members) (name : Str) :
    (members.foldl (fun acc (name, value) => setMember name value acc) acc).lookup name =
      (lastMember? members name).or (acc.lookup name) := by
  induction members generalizing acc with
  | nil => rfl
  | cons m members ih =>
    obtain ⟨first, value⟩ := m
    rw [List.foldl_cons, ih, lookup_setMember, lastMember?_cons, Option.or_assoc]
    split <;> simp

/-- An object has each name with its last value. -/
theorem lookup_mergedMembers (members : Members) (name : Str) :
    (mergedMembers members).lookup name = lastMember? members name := by
  rw [mergedMembers, lookup_foldl_setMember, List.lookup_nil, Option.or_none]

/-- The last value of a name is that of the last member which is written with it. -/
theorem lastMember?_memberValues (members : List (Str × Written)) (name : Str) :
    lastMember? (memberValues members) name = (lastMember? members name).map Written.value := by
  induction members with
  | nil => rfl
  | cons m members ih =>
    obtain ⟨first, w⟩ := m
    rw [memberValues, lastMember?_cons, lastMember?_cons, ih, Option.map_or]
    split <;> rfl

/-! ### What an earlier member says -/

/-- Members with a slot for a name: the value of the first member with that name is left open. -/
def HasSlot (name : Str) (members : Value → Members) : Prop :=
  ∃ before after, name ∉ before.map Prod.fst ∧ ∀ v, members v = before ++ (name, v) :: after

/-- A member that is set is a slot for its name. -/
theorem hasSlot_setMember (name : Str) (members : Members) :
    HasSlot name fun v => setMember name v members := by
  induction members with
  | nil => exact ⟨[], [], by simp, fun _ => rfl⟩
  | cons m members ih =>
    obtain ⟨first, old⟩ := m
    by_cases hfirst : first = name
    · exact ⟨[], members, by simp, fun v => by simp [setMember, hfirst]⟩
    · obtain ⟨before, after, hbefore, hslot⟩ := ih
      refine ⟨(first, old) :: before, after, ?_, fun v => ?_⟩
      · simpa [Ne.symm hfirst] using hbefore
      · simp only [setMember, if_neg hfirst, hslot, List.cons_append]

/-- Setting a member in front of another one. -/
theorem setMember_append {name : Str} {before : Members} (hbefore : name ∉ before.map Prod.fst)
    (value : Value) (after : Members) :
    setMember name value (before ++ after) = before ++ setMember name value after := by
  induction before with
  | nil => rfl
  | cons m before ih =>
    obtain ⟨first, old⟩ := m
    simp only [List.map_cons, List.mem_cons, not_or] at hbefore
    rw [List.cons_append, setMember, if_neg (Ne.symm hbefore.1), ih hbefore.2, List.cons_append]

/-- Setting the name of a slot fills the slot. -/
theorem HasSlot.setMember_self {name : Str} {members : Value → Members}
    (h : HasSlot name members) (value v v' : Value) :
    setMember name value (members v) = setMember name value (members v') := by
  obtain ⟨before, after, hbefore, hslot⟩ := h
  simp only [hslot, setMember_append hbefore, setMember, if_true]

/-- Setting another name leaves the slot open. -/
theorem HasSlot.setMember_other {name other : Str} {members : Value → Members}
    (h : HasSlot name members) (hne : other ≠ name) (value : Value) :
    HasSlot name fun v => setMember other value (members v) := by
  obtain ⟨before, after, hbefore, hslot⟩ := h
  simp only [hslot]
  clear hslot
  induction before with
  | nil =>
    refine ⟨[], setMember other value after, by simp, fun v => ?_⟩
    simp only [List.nil_append, setMember, if_neg (Ne.symm hne)]
  | cons m before ih =>
    obtain ⟨first, old⟩ := m
    simp only [List.map_cons, List.mem_cons, not_or] at hbefore
    by_cases hfirst : first = other
    · refine ⟨(other, value) :: before, after, ?_, fun v => ?_⟩
      · simpa [Ne.symm hne] using hbefore.2
      · simp only [List.cons_append, setMember, if_pos hfirst]
    · obtain ⟨before', after', hbefore', hslot'⟩ := ih hbefore.2
      refine ⟨(first, old) :: before', after', ?_, fun v => ?_⟩
      · simpa [hbefore.1] using hbefore'
      · simp only [List.cons_append, setMember, if_neg hfirst, hslot']

/-- A slot is filled by a later member with its name, whatever was in it. -/
theorem HasSlot.foldl_setMember_eq {name : Str} {members : Value → Members}
    (h : HasSlot name members) {later : Members} (hlater : name ∈ later.map Prod.fst)
    (v v' : Value) :
    later.foldl (fun acc (name, value) => setMember name value acc) (members v) =
      later.foldl (fun acc (name, value) => setMember name value acc) (members v') := by
  induction later generalizing members with
  | nil => simp at hlater
  | cons m later ih =>
    obtain ⟨other, value⟩ := m
    simp only [List.foldl_cons]
    by_cases hother : other = name
    · subst hother
      rw [h.setMember_self value v v']
    · have hlater' : name ∈ later.map Prod.fst := by simpa [Ne.symm hother] using hlater
      exact ih (h.setMember_other hother value) hlater'

/-- The value of a member is not looked at if its name is there again later. -/
theorem mergedMembers_append_cons {name : Str} {later : Members}
    (hlater : name ∈ later.map Prod.fst) (earlier : Members) (v v' : Value) :
    mergedMembers (earlier ++ (name, v) :: later) =
      mergedMembers (earlier ++ (name, v') :: later) := by
  simp only [mergedMembers, List.foldl_append, List.foldl_cons]
  exact (hasSlot_setMember name _).foldl_setMember_eq hlater v v'

/-- The values of joined members. -/
theorem memberValues_append (left right : List (Str × Written)) :
    memberValues (left ++ right) = memberValues left ++ memberValues right := by
  induction left with
  | nil => rfl
  | cons m left ih =>
    obtain ⟨name, w⟩ := m
    rw [List.cons_append, memberValues, memberValues, ih, List.cons_append]

/-- Members keep their names. -/
theorem names_memberValues (members : List (Str × Written)) :
    (memberValues members).map Prod.fst = members.map Prod.fst := by
  induction members with
  | nil => rfl
  | cons m members ih =>
    obtain ⟨name, w⟩ := m
    rw [memberValues, List.map_cons, List.map_cons, ih]

/-- The value of an object has its members merged. -/
theorem Written.value_object (members : List (Str × Written)) :
    (Written.object members).value = .object (mergedMembers (memberValues members)) := by
  rw [Written.value, ofMembers, mergedMembers]

/-- The value of an object does not depend on what is written under a name that is written again
later. -/
theorem Written.value_object_append_cons {name : Str} {later : List (Str × Written)}
    (hlater : name ∈ later.map Prod.fst) (earlier : List (Str × Written)) (w w' : Written) :
    (Written.object (earlier ++ (name, w) :: later)).value =
      (Written.object (earlier ++ (name, w') :: later)).value := by
  rw [← names_memberValues] at hlater
  simp only [Written.value_object, memberValues_append, memberValues]
  rw [mergedMembers_append_cons hlater]

/-- The value of an object depends only on the values of its members. -/
theorem Written.value_object_congr {w w' : Written} (h : w.value = w'.value) (name : Str)
    (before after : List (Str × Written)) :
    (Written.object (before ++ (name, w) :: after)).value =
      (Written.object (before ++ (name, w') :: after)).value := by
  simp only [Written.value_object, memberValues_append, memberValues, h]

end ProseCheck.Json

namespace ProseCheck.Config

open FileSystem (Path)
open Json (Written lastMember? mergedMembers memberValues)

/-- The rules of an object are the members of the last object that is written for them. -/
theorem hasRules_of_lastMember? {ms rs : List (Str × Written)}
    (hrules : lastMember? ms (.ofString "rules") = some (.object rs)) :
    HasRules (Written.object ms).value (mergedMembers (memberValues rs)) := by
  refine ⟨mergedMembers (memberValues ms), Written.value_object ms, Or.inl ?_⟩
  rw [Json.lookup_mergedMembers, Json.lastMember?_memberValues, hrules, Option.map_some,
    Written.value_object]

/-- A setting that is read is found under its key. -/
theorem exists_lookup_of_keeps {entries : Json.Members} {rules : List (Str × Setting)}
    (h : List.Forall₂ Keeps entries rules) {name : Str} {value : Json.Value}
    (hvalue : entries.lookup name = some value) :
    ∃ setting, rules.lookup name = some setting ∧ Keeps (name, value) (name, setting) := by
  induction h with
  | nil => cases hvalue
  | @cons member read entries rules hkeeps _ ih =>
    obtain ⟨key, value'⟩ := member
    obtain ⟨key', setting⟩ := read
    obtain rfl : key = key' := by cases hkeeps <;> rfl
    rw [Json.lookup_cons_eq_ite] at hvalue ⊢
    by_cases hname : name = key
    · subst hname
      rw [if_pos rfl] at hvalue ⊢
      obtain rfl := Option.some.inj hvalue
      exact ⟨setting, rfl, hkeeps⟩
    · rw [if_neg hname] at hvalue ⊢
      exact ih hvalue

/-- An object is no configuration if different names that are written in its rules name the same
rule. -/
theorem exists_ofJson_eq_error {ms rs : List (Str × Written)}
    (hrules : lastMember? ms (.ofString "rules") = some (.object rs)) {first second : Str}
    {w w' : Written} {rule : Rule} (hfirst : (first, w) ∈ rs) (hsecond : (second, w') ∈ rs)
    (hne : first ≠ second) (hrule : Rule.ofKey? first = some rule)
    (hrule' : Rule.ofKey? second = some rule) :
    ∃ fault, ofJson (Written.object ms).value = .error fault := by
  have hmem {name : Str} {w : Written} (hname : (name, w) ∈ rs) :
      name ∈ (mergedMembers (memberValues rs)).map Prod.fst := by
    obtain ⟨last, hlast⟩ := Json.exists_lastMember? hname
    have hlookup := Json.lookup_mergedMembers (memberValues rs) name
    rw [Json.lastMember?_memberValues, hlast, Option.map_some] at hlookup
    obtain ⟨_, _, hmerged, _⟩ := List.lookup_eq_some_iff.mp hlookup
    rw [hmerged]
    simp
  cases hjson : ofJson (Written.object ms).value with
  | error fault => exact ⟨fault, rfl⟩
  | ok c =>
    obtain ⟨hread, _⟩ := (hasRules_of_lastMember? hrules).ofJson_eq_ok_iff.mp hjson
    obtain ⟨hdistinct, _⟩ := exists_readSettings_rawSettings_iff.mp ⟨_, hread⟩
    have : Std.Symm fun a b => ∀ rule, Rule.ofKey? a = some rule → Rule.ofKey? b ≠ some rule :=
      ⟨fun _ _ h rule hb ha => h rule ha hb⟩
    have hnot := hdistinct.forall (hmem hfirst) (hmem hsecond) hne
    exact absurd hrule' (hnot rule hrule)

/-- The entry of a rule is the last one that is written under its name. -/
theorem exists_entry_of_lastMember? {ms rs : List (Str × Written)}
    (hrules : lastMember? ms (.ofString "rules") = some (.object rs)) {c : Config}
    (hc : ofJson (Written.object ms).value = .ok c) {name : Str} {w : Written} {rule : Rule}
    (hname : lastMember? rs name = some w) (hrule : Rule.ofKey? name = some rule) :
    ∃ e, c.rules.lookup name = some (.entry e) ∧ Entry.Gives w.value e := by
  obtain ⟨hread, _⟩ := (hasRules_of_lastMember? hrules).ofJson_eq_ok_iff.mp hc
  have hlookup : (mergedMembers (memberValues rs)).lookup name = some w.value := by
    rw [Json.lookup_mergedMembers, Json.lastMember?_memberValues, hname, Option.map_some]
  obtain ⟨setting, hsetting, hkeeps⟩ :=
    exists_lookup_of_keeps (forall₂_keeps_of_readSettings hread) hlookup
  cases hkeeps with
  | unknown hkey => simp [hrule] at hkey
  | known _ hgives => exact ⟨_, hsetting, hgives⟩

section Load

variable {fs : FileSystem} {asked : Option Path} {directory path : Path} {bytes : List UInt8}
  {text : Str}

/-- A file gives what the object gives that its text writes. -/
theorem Chosen.load_of_writesText {ms : List (Str × Written)}
    (h : Chosen fs asked directory path) (hfile : fs.read path = .ok bytes)
    (hdecode : Text.decodeDetected bytes = .ok text) (hwrites : Json.WritesText text (.object ms)) :
    load fs asked directory =
      (ofJson (Written.object ms).value).mapError fun fault => .unusable path (.invalid fault) := by
  have hvalue := Written.value_object ms
  rw [hvalue]
  exact h.load_of_readText hfile hdecode (Json.readText_eq_object_iff.mpr ⟨ms, hwrites, hvalue⟩)

/-- What is loaded from a file in which a rule is configured several times. Different names of the
rule are always a fault. A name that is written again is not: its last entry is loaded, and the file
is loaded as if anything else were written in an earlier one. -/
theorem load_of_repeated_rule (hchosen : Chosen fs asked directory path)
    (hfile : fs.read path = .ok bytes) (hdecode : Text.decodeDetected bytes = .ok text) :
    (∀ ms rs, Json.WritesText text (.object ms) →
      lastMember? ms (.ofString "rules") = some (.object rs) →
      (∀ first second w w' rule, (first, w) ∈ rs → (second, w') ∈ rs → first ≠ second →
        Rule.ofKey? first = some rule → Rule.ofKey? second = some rule →
        ∃ fault, load fs asked directory = .error (.unusable path (.invalid fault))) ∧
      ∀ c name w rule, load fs asked directory = .ok c → lastMember? rs name = some w →
        Rule.ofKey? name = some rule →
        ∃ e, c.rules.lookup name = some (.entry e) ∧ Entry.Gives w.value e) ∧
    (∀ before after earlier later name w w', name ∈ later.map Prod.fst →
      Json.WritesText text (.object
        (before ++ (.ofString "rules", .object (earlier ++ (name, w) :: later)) :: after)) →
      load fs asked directory =
        (ofJson (Written.object (before ++
          (.ofString "rules", .object (earlier ++ (name, w') :: later)) :: after)).value).mapError
            fun fault => .unusable path (.invalid fault)) ∧
    ∀ c, load fs asked directory = .ok c → ∃ ms, Json.WritesText text (.object ms) := by
  refine ⟨fun ms rs hwrites hrules => ⟨?_, ?_⟩, ?_, ?_⟩
  · intro first second w w' rule hfirst hsecond hne hrule hrule'
    obtain ⟨fault, hfault⟩ := exists_ofJson_eq_error hrules hfirst hsecond hne hrule hrule'
    exact ⟨fault, by rw [hchosen.load_of_writesText hfile hdecode hwrites, hfault]; rfl⟩
  · intro c name w rule hc hname hrule
    rw [hchosen.load_of_writesText hfile hdecode hwrites] at hc
    cases hjson : ofJson (Written.object ms).value with
    | error fault => simp [hjson, Except.mapError] at hc
    | ok c' =>
      obtain rfl : c' = c := by simpa [hjson, Except.mapError] using hc
      exact exists_entry_of_lastMember? hrules hjson hname hrule
  · intro before after earlier later name w w' hlater hwrites
    rw [hchosen.load_of_writesText hfile hdecode hwrites,
      Written.value_object_congr (Written.value_object_append_cons hlater earlier w w')]
  · intro c hc
    simp only [hchosen.load_eq, ofFile, hfile] at hc
    obtain ⟨text', members, hdecode', hread, _⟩ := ofBytes_eq_ok_iff.mp hc
    obtain rfl : text = text' := Except.ok.inj (hdecode.symm.trans hdecode')
    obtain ⟨ms, hwrites, _⟩ := Json.readText_eq_object_iff.mp hread
    exact ⟨ms, hwrites⟩

end Load

/-- The text of an entry without arguments. -/
def entryText (level message : String) : Str :=
  Json.objectText [(.ofString "level", Json.writeString level),
    (.ofString "message", Json.writeString message)]

/-- An entry without arguments, as it is written. -/
def writtenEntry (level message : String) : Written :=
  .object [(.ofString "level", .scalar (.string level)),
    (.ofString "message", .scalar (.string message))]

/-- The text of an entry writes it. -/
theorem isTextOf_entryText (level message : String) :
    Json.IsTextOf (entryText level message) (writtenEntry level message) :=
  Json.isTextOf_objectText <| .cons ⟨rfl, Json.isTextOf_writeString level⟩ <|
    .cons ⟨rfl, Json.isTextOf_writeString message⟩ .nil

/-- The text of a configuration with two entries. -/
def twoEntries (first second : String) : Str :=
  Json.objectText [(.ofString "rules",
    Json.objectText [(.ofString first, entryText "error" "First."),
      (.ofString second, entryText "info" "Second.")])]

/-- A configuration with two entries, as it is written. -/
def writtenTwoEntries (first second : String) : List (Str × Written) :=
  [(.ofString "rules", .object [(.ofString first, writtenEntry "error" "First."),
    (.ofString second, writtenEntry "info" "Second.")])]

/-- The text of a configuration with two entries writes it. -/
theorem writesText_twoEntries (first second : String) :
    Json.WritesText (twoEntries first second) (.object (writtenTwoEntries first second)) := by
  refine (Json.isTextOf_objectText (.cons ⟨rfl, Json.isTextOf_objectText ?_⟩ .nil)).writesText
  exact .cons ⟨rfl, isTextOf_entryText _ _⟩ (.cons ⟨rfl, isTextOf_entryText _ _⟩ .nil)

/-- The bytes of that text. -/
def twoEntriesBytes (first second : String) : List UInt8 :=
  Text.Encoding.encodeFile .utf8 false (twoEntries first second).scalars

/-- The text is read from its bytes if it is one of characters only. -/
theorem decodeDetected_twoEntries (first second : String)
    (h : Str.ofChars (twoEntries first second).scalars = twoEntries first second) :
    Text.decodeDetected (twoEntriesBytes first second) = .ok (twoEntries first second) := by
  have hread := Json.readText_eq_object_iff.mpr
    ⟨_, writesText_twoEntries first second, Written.value_object _⟩
  rw [← h] at hread
  exact (Json.decodeDetected_of_readText hread .utf8 false).trans (congrArg _ h)

/-- Two spellings of the name of a rule are a fault. -/
theorem load_two_spellings :
    ∃ fault, load (onlyFile (twoEntriesBytes "headingCase" "heading-case")) none ⟨"", []⟩ =
      .error (.unusable ((⟨"", []⟩ : Path).child fileName) (.invalid fault)) := by
  have hload := load_of_repeated_rule (chosen_onlyFile _) (read_onlyFile _)
    (decodeDetected_twoEntries "headingCase" "heading-case" (by decide))
  refine (hload.1 _ _ (writesText_twoEntries _ _) rfl).1 _ _ _ _ .headingCase (.head _)
    (.tail _ (.head _)) (by decide) ?_ ?_
  · rfl
  · rfl

/-- The same name twice is none: the first entry is dropped. -/
theorem load_same_name_twice :
    Json.WritesText (twoEntries "headingCase" "headingCase")
        (.object (writtenTwoEntries "headingCase" "headingCase")) ∧
      load (onlyFile (twoEntriesBytes "headingCase" "headingCase")) none ⟨"", []⟩ =
        .ok ⟨[(.ofString "headingCase", .entry ⟨.info, "Second.", []⟩)], "text"⟩ := by
  have hwrites := writesText_twoEntries "headingCase" "headingCase"
  have hdecode := decodeDetected_twoEntries "headingCase" "headingCase" (by decide)
  exact ⟨hwrites, (chosen_onlyFile _).load_of_writesText (read_onlyFile _) hdecode hwrites⟩

end ProseCheck.Config
