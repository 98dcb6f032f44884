import ProseCheck.Proofs.Entry
import Mathlib.Data.List.Forall2
import Mathlib.Data.Nat.Notation

/-!
# Which configurations are accepted

Settings are read from first to last, with a table of the rules that earlier keys name. The table
is right before every setting, so a setting is refused for the reason that its place gives: its key
names the rule of an earlier key, or its entry is wrong. The fault of a configuration is that of
its first wrong setting, and a configuration without one is accepted.
-/

namespace ProseCheck.Config

open Json (Value Members)

/-- The setting at a place has a key that names a rule. -/
def NamesAt (settings : List (Str × Setting)) (i : ℕ) (key : Str) (rule : Rule) : Prop :=
  ∃ setting, settings[i]? = some (key, setting) ∧ Rule.ofKey? key = some rule

/-- The fault of the setting at a place, given the settings before it. That its rule has been named
before counts first. -/
inductive FaultAt (settings : List (Str × Setting)) (i : ℕ) : Fault → Prop where
  /-- An earlier key names the same rule. -/
  | duplicate {j : ℕ} {first key : Str} {rule : Rule} (hlt : j < i)
      (hfirst : NamesAt settings j first rule) (hkey : NamesAt settings i key rule) :
      FaultAt settings i (.duplicate first key rule)
  /-- No earlier key names the same rule, and the entry is wrong. -/
  | entry {key : Str} {setting : Setting} {rule : Rule} {fault : EntryFault}
      (hat : settings[i]? = some (key, setting)) (hkey : Rule.ofKey? key = some rule)
      (hfresh : ∀ j < i, ∀ first, ¬NamesAt settings j first rule)
      (hwrong : Entry.ofRuleSetting rule setting = .error fault) :
      FaultAt settings i (.entry key fault)

/-- The fault of the first wrong setting. -/
def FirstFaultAt (settings : List (Str × Setting)) (i : ℕ) (fault : Fault) : Prop :=
  FaultAt settings i fault ∧ ∀ j < i, ∀ other, ¬FaultAt settings j other

/-- The invariant of the reading: the table `seen` has the rules that the first `k` keys name, with
those keys. -/
def SeenBefore (settings : List (Str × Setting)) (k : ℕ) (seen : List (Rule × Str)) : Prop :=
  ∀ rule first, seen.lookup rule = some first ↔ ∃ j < k, NamesAt settings j first rule

/-- What reading makes of a setting that is not at fault. -/
inductive SettingRead : Str × Setting → Str × Setting → Prop where
  /-- A setting whose key names no rule is kept. -/
  | kept {key : Str} {setting : Setting} (hkey : Rule.ofKey? key = none) :
      SettingRead (key, setting) (key, setting)
  /-- The entry of a rule is read. -/
  | entry {key : Str} {setting : Setting} {rule : Rule} {e : Entry}
      (hkey : Rule.ofKey? key = some rule) (he : Entry.ofRuleSetting rule setting = .ok e) :
      SettingRead (key, setting) (key, .entry e)

/-- The key at a place is determined by the settings. -/
theorem NamesAt.names_of_getElem? {settings : List (Str × Setting)} {i : ℕ}
    {key key' : Str} {setting : Setting} {rule : Rule} (h : NamesAt settings i key' rule)
    (hat : settings[i]? = some (key, setting)) : key' = key ∧ Rule.ofKey? key = some rule := by
  obtain ⟨setting', hat', hkey⟩ := h
  rw [hat] at hat'
  obtain ⟨rfl, rfl⟩ : key = key' ∧ setting = setting' := by simpa using hat'
  exact ⟨rfl, hkey⟩

/-! ### The invariant -/

/-- Before the first setting nothing has been seen. -/
theorem seenBefore_zero (settings : List (Str × Setting)) : SeenBefore settings 0 [] := by
  simp [SeenBefore]

section Step

variable {settings : List (Str × Setting)} {k : ℕ} {seen : List (Rule × Str)}
  {key : Str} {setting : Setting}

/-- A place whose key does not name a rule adds nothing to the places before it that do. -/
private theorem exists_namesAt_lt_succ_iff {first : Str} {rule : Rule}
    (hnot : ¬NamesAt settings k first rule) :
    (∃ j < k + 1, NamesAt settings j first rule) ↔ ∃ j < k, NamesAt settings j first rule := by
  constructor
  · rintro ⟨j, hj, hnames⟩
    refine ⟨j, ?_, hnames⟩
    by_contra hge
    obtain rfl : j = k := by omega
    exact hnot hnames
  · rintro ⟨j, hj, hnames⟩
    exact ⟨j, by omega, hnames⟩

/-- A key that names no rule leaves the table right. -/
theorem SeenBefore.skip (hseen : SeenBefore settings k seen)
    (hat : settings[k]? = some (key, setting)) (hkey : Rule.ofKey? key = none) :
    SeenBefore settings (k + 1) seen := by
  intro rule first
  have hnot : ¬NamesAt settings k first rule := by
    intro hnames
    have hrule := (hnames.names_of_getElem? hat).2
    simp [hkey] at hrule
  rw [exists_namesAt_lt_succ_iff hnot]
  exact hseen rule first

/-- A key that names a rule for the first time is added to the table. -/
theorem SeenBefore.add (hseen : SeenBefore settings k seen)
    (hat : settings[k]? = some (key, setting)) {rule : Rule} (hkey : Rule.ofKey? key = some rule)
    (hnew : seen.lookup rule = none) : SeenBefore settings (k + 1) ((rule, key) :: seen) := by
  intro rule' first
  by_cases heq : rule' = rule
  · subst heq
    have hlookup : List.lookup rule' ((rule', key) :: seen) = some key := by simp
    rw [hlookup]
    constructor
    · intro h
      obtain rfl : key = first := by simpa using h
      exact ⟨k, by omega, setting, hat, hkey⟩
    · rintro ⟨j, hj, hnames⟩
      by_cases hjk : j < k
      · have hfound := (hseen rule' first).mpr ⟨j, hjk, hnames⟩
        simp [hnew] at hfound
      · obtain rfl : j = k := by omega
        rw [(hnames.names_of_getElem? hat).1]
  · have hne : (rule' == rule) = false := by simpa using heq
    have hlookup : List.lookup rule' ((rule, key) :: seen) = List.lookup rule' seen := by
      simp [List.lookup_cons, hne]
    have hnot : ¬NamesAt settings k first rule' := by
      intro hnames
      have hrule := (hnames.names_of_getElem? hat).2
      rw [hkey] at hrule
      exact heq (Option.some.inj hrule).symm
    rw [hlookup, exists_namesAt_lt_succ_iff hnot]
    exact hseen rule' first

/-- A rule that the table does not have is named by no earlier key. -/
theorem SeenBefore.fresh (hseen : SeenBefore settings k seen) {rule : Rule}
    (hnew : seen.lookup rule = none) : ∀ j < k, ∀ first, ¬NamesAt settings j first rule := by
  intro j hj first hnames
  have hfound := (hseen rule first).mpr ⟨j, hj, hnames⟩
  simp [hnew] at hfound

/-- A setting whose key names no rule is not at fault. -/
theorem not_faultAt_of_unnamed (hat : settings[k]? = some (key, setting))
    (hkey : Rule.ofKey? key = none) (fault : Fault) : ¬FaultAt settings k fault := by
  intro h
  cases h with
  | duplicate _ _ hnames =>
    have hrule := (hnames.names_of_getElem? hat).2
    simp [hkey] at hrule
  | entry hat' hkey' _ _ =>
    have hrule := (NamesAt.names_of_getElem? ⟨_, hat', hkey'⟩ hat).2
    simp [hkey] at hrule

/-- A setting that is read, for a rule that no earlier key names, is not at fault. -/
theorem not_faultAt_of_read (hat : settings[k]? = some (key, setting)) {rule : Rule}
    (hkey : Rule.ofKey? key = some rule)
    (hfresh : ∀ j < k, ∀ first, ¬NamesAt settings j first rule) {e : Entry}
    (he : Entry.ofRuleSetting rule setting = .ok e) (fault : Fault) :
    ¬FaultAt settings k fault := by
  intro h
  cases h with
  | duplicate hlt hfirst hnames =>
    have hrule := (hnames.names_of_getElem? hat).2
    rw [hkey] at hrule
    obtain rfl := Option.some.inj hrule
    exact hfresh _ hlt _ hfirst
  | entry hat' hkey' _ hwrong =>
    rw [hat] at hat'
    obtain ⟨rfl, rfl⟩ : key = _ ∧ setting = _ := by simpa using hat'
    rw [hkey] at hkey'
    obtain rfl := Option.some.inj hkey'
    simp [he] at hwrong

/-- One step of the reading: the setting at place `k` is at fault and the reading stops with that
fault, or it is read and the reading goes on with a table that is right for the next place. -/
theorem readSettings_step (hseen : SeenBefore settings k seen)
    (hat : settings[k]? = some (key, setting)) (rest : List (Str × Setting)) :
    (∃ fault, FaultAt settings k fault ∧
      readSettings seen ((key, setting) :: rest) = .error fault) ∨
    (∃ read seen', SettingRead (key, setting) read ∧ (∀ fault, ¬FaultAt settings k fault) ∧
      SeenBefore settings (k + 1) seen' ∧
      readSettings seen ((key, setting) :: rest) = (readSettings seen' rest).map (read :: ·)) := by
  cases hkey : Rule.ofKey? key with
  | none =>
    right
    refine ⟨(key, setting), seen, .kept hkey, not_faultAt_of_unnamed hat hkey,
      hseen.skip hat hkey, ?_⟩
    simp only [readSettings, hkey]
  | some rule =>
    cases hlookup : seen.lookup rule with
    | some first =>
      left
      obtain ⟨j, hj, hfirst⟩ := (hseen rule first).mp hlookup
      refine ⟨.duplicate first key rule, .duplicate hj hfirst ⟨setting, hat, hkey⟩, ?_⟩
      simp only [readSettings, hkey, hlookup]
    | none =>
      have hfresh := hseen.fresh hlookup
      cases hentry : Entry.ofRuleSetting rule setting with
      | error fault =>
        left
        refine ⟨.entry key fault, .entry hat hkey hfresh hentry, ?_⟩
        simp only [readSettings, hkey, hlookup, hentry]
      | ok e =>
        right
        refine ⟨(key, .entry e), (rule, key) :: seen, .entry hkey hentry,
          not_faultAt_of_read hat hkey hfresh hentry, hseen.add hat hkey hlookup, ?_⟩
        simp only [readSettings, hkey, hlookup, hentry]

end Step

/-! ### The reading -/

section Run

variable {settings : List (Str × Setting)}

/-- The setting at a place from which on the settings are left, and those left after it. -/
private theorem getElem?_and_drop_of_drop_eq_cons {k : ℕ} {s : Str × Setting}
    {rest : List (Str × Setting)} (hrest : settings.drop k = s :: rest) :
    settings[k]? = some s ∧ settings.drop (k + 1) = rest := by
  constructor
  · rw [← List.head?_drop, hrest]
    rfl
  · rw [← List.tail_drop, hrest]
    rfl

/-- Reading that ends well reads every setting from place `k` on, and none of them is at fault.
The induction is on the settings that are left, and the invariant is that the table is right. -/
theorem readSettings_ok {rest out : List (Str × Setting)} {k : ℕ}
    {seen : List (Rule × Str)} (hseen : SeenBefore settings k seen)
    (hrest : settings.drop k = rest) (hok : readSettings seen rest = .ok out) :
    List.Forall₂ SettingRead rest out ∧ ∀ i, k ≤ i → ∀ fault, ¬FaultAt settings i fault := by
  induction rest generalizing k seen out with
  | nil =>
    obtain rfl : out = [] := by simpa [readSettings, eq_comm] using hok
    refine ⟨.nil, fun i hi fault h => ?_⟩
    have hnone : settings[i]? = none := by
      rw [List.getElem?_eq_none_iff]
      have := List.drop_eq_nil_iff.mp hrest
      omega
    cases h with
    | duplicate _ _ hkey =>
      obtain ⟨setting, hat, _⟩ := hkey
      simp [hnone] at hat
    | entry hat _ _ _ => simp [hnone] at hat
  | cons s rest ih =>
    obtain ⟨key, setting⟩ := s
    obtain ⟨hat, hdrop⟩ := getElem?_and_drop_of_drop_eq_cons hrest
    rcases readSettings_step hseen hat rest with
      ⟨fault, _, hstep⟩ | ⟨read, seen', hread, hnone, hseen', hstep⟩
    · simp [hstep] at hok
    · cases htail : readSettings seen' rest with
      | error fault => simp [hstep, htail, Except.map] at hok
      | ok out' =>
        obtain rfl : read :: out' = out := by simpa [hstep, htail, Except.map] using hok
        obtain ⟨hreads, hlater⟩ := ih hseen' hdrop htail
        refine ⟨.cons hread hreads, fun i hi => ?_⟩
        by_cases hik : i = k
        · subst hik
          exact hnone
        · exact hlater i (by omega)

/-- Reading that fails stops at the first setting from place `k` on that is at fault. -/
theorem readSettings_error {rest : List (Str × Setting)} {k : ℕ}
    {seen : List (Rule × Str)} {fault : Fault} (hseen : SeenBefore settings k seen)
    (hrest : settings.drop k = rest) (herror : readSettings seen rest = .error fault) :
    ∃ i, k ≤ i ∧ FaultAt settings i fault ∧
      ∀ j, k ≤ j → j < i → ∀ other, ¬FaultAt settings j other := by
  induction rest generalizing k seen with
  | nil => simp [readSettings] at herror
  | cons s rest ih =>
    obtain ⟨key, setting⟩ := s
    obtain ⟨hat, hdrop⟩ := getElem?_and_drop_of_drop_eq_cons hrest
    rcases readSettings_step hseen hat rest with
      ⟨fault', hfault, hstep⟩ | ⟨read, seen', _, hnone, hseen', hstep⟩
    · obtain rfl : fault' = fault := by simpa [hstep] using herror
      exact ⟨k, Nat.le_refl k, hfault, fun j hkj hjk => by omega⟩
    · have htail : readSettings seen' rest = .error fault := by
        cases htail : readSettings seen' rest with
        | error fault' => simpa [hstep, htail, Except.map] using herror
        | ok out => simp [hstep, htail, Except.map] at herror
      obtain ⟨i, hi, hfault, hearlier⟩ := ih hseen' hdrop htail
      refine ⟨i, by omega, hfault, fun j hkj hji => ?_⟩
      by_cases hjk : j = k
      · subst hjk
        exact hnone
      · exact hearlier j (by omega) hji

/-- Settings are read exactly when none of them is at fault. -/
theorem exists_readSettings_eq_ok_iff :
    (∃ out, readSettings [] settings = .ok out) ↔ ∀ i fault, ¬FaultAt settings i fault := by
  constructor
  · rintro ⟨out, hok⟩ i
    exact (readSettings_ok (seenBefore_zero settings) rfl hok).2 i (Nat.zero_le i)
  · intro hnone
    cases hread : readSettings [] settings with
    | ok out => exact ⟨out, rfl⟩
    | error fault =>
      obtain ⟨i, _, hfault, _⟩ := readSettings_error (seenBefore_zero settings) rfl hread
      exact absurd hfault (hnone i fault)

/-- Settings that are read are read one by one. -/
theorem forall₂_settingRead_of_readSettings {out : List (Str × Setting)}
    (hok : readSettings [] settings = .ok out) : List.Forall₂ SettingRead settings out :=
  (readSettings_ok (seenBefore_zero settings) List.drop_zero hok).1

/-- Before the first wrong setting no two keys name the same rule. -/
theorem FirstFaultAt.earlier_unique {i j j' : ℕ} {fault : Fault} {first first' : Str}
    {rule : Rule} (h : FirstFaultAt settings i fault) (hj : j < i) (hj' : j' < i)
    (hfirst : NamesAt settings j first rule) (hfirst' : NamesAt settings j' first' rule) :
    j = j' ∧ first = first' := by
  have hplace : j = j' := by
    rcases Nat.lt_trichotomy j j' with hlt | heq | hgt
    · exact absurd (.duplicate hlt hfirst hfirst') (h.2 j' hj' _)
    · exact heq
    · exact absurd (.duplicate hgt hfirst' hfirst) (h.2 j hj _)
  subst hplace
  obtain ⟨setting, hat, _⟩ := hfirst
  exact ⟨rfl, (hfirst'.names_of_getElem? hat).1.symm⟩

/-- The fault of the first wrong setting is determined: its earlier key is the only one, and an
entry that repeats a rule is not looked at. -/
theorem FirstFaultAt.unique {i i' : ℕ} {fault fault' : Fault}
    (h : FirstFaultAt settings i fault) (h' : FirstFaultAt settings i' fault') :
    fault = fault' := by
  have hplace : i = i' := by
    rcases Nat.lt_trichotomy i i' with hlt | heq | hgt
    · exact absurd h.1 (h'.2 i hlt fault)
    · exact heq
    · exact absurd h'.1 (h.2 i' hgt fault')
  subst hplace
  obtain ⟨hfault, hearlier⟩ := h
  cases hfault with
  | duplicate hlt hfirst hkey =>
    cases h'.1 with
    | duplicate hlt' hfirst' hkey' =>
      obtain ⟨setting, hat, hnames⟩ := hkey
      obtain ⟨rfl, hrule⟩ := hkey'.names_of_getElem? hat
      rw [hnames] at hrule
      obtain rfl := Option.some.inj hrule
      obtain ⟨_, rfl⟩ := h'.earlier_unique hlt hlt' hfirst hfirst'
      rfl
    | entry hat hkey' hfresh _ =>
      obtain ⟨_, hrule⟩ := hkey.names_of_getElem? hat
      rw [hkey'] at hrule
      obtain rfl := Option.some.inj hrule
      exact absurd hfirst (hfresh _ hlt _)
  | entry hat hkey hfresh hwrong =>
    cases h'.1 with
    | duplicate hlt' hfirst' hkey' =>
      obtain ⟨_, hrule⟩ := hkey'.names_of_getElem? hat
      rw [hkey] at hrule
      obtain rfl := Option.some.inj hrule
      exact absurd hfirst' (hfresh _ hlt' _)
    | entry hat' hkey' _ hwrong' =>
      rw [hat] at hat'
      obtain ⟨rfl, rfl⟩ : _ ∧ _ := by simpa using hat'
      rw [hkey] at hkey'
      obtain rfl := Option.some.inj hkey'
      rw [hwrong] at hwrong'
      obtain rfl := Except.error.inj hwrong'
      rfl

end Run

/-! ### Settings without a fault -/

/-- No two of the keys name the same rule. -/
def RulesDistinct (keys : List Str) : Prop :=
  keys.Pairwise fun a b => ∀ rule, Rule.ofKey? a = some rule → Rule.ofKey? b ≠ some rule

/-- The keys at two places of settings with distinct rules do not name the same rule. -/
theorem RulesDistinct.not_namesAt {settings : List (Str × Setting)}
    (hdistinct : RulesDistinct (settings.map Prod.fst)) {i j : ℕ} (hlt : j < i)
    {first key : Str} {rule : Rule} (hfirst : NamesAt settings j first rule) :
    ¬NamesAt settings i key rule := by
  rintro ⟨setting, hat, hkey⟩
  obtain ⟨setting', hat', hfirst⟩ := hfirst
  obtain ⟨hi, hi'⟩ := List.getElem?_eq_some_iff.mp hat
  obtain ⟨hj, hj'⟩ := List.getElem?_eq_some_iff.mp hat'
  have hne := List.pairwise_iff_getElem.mp hdistinct j i (by simpa using hj) (by simpa using hi)
    hlt rule
  simp only [List.getElem_map, hi', hj'] at hne
  exact hne hfirst hkey

/-- No setting is at fault exactly when the keys name distinct rules and the entries of rules can
be read. -/
theorem forall_not_faultAt_iff {settings : List (Str × Setting)} :
    (∀ i fault, ¬FaultAt settings i fault) ↔
      RulesDistinct (settings.map Prod.fst) ∧
        ∀ key setting rule, (key, setting) ∈ settings → Rule.ofKey? key = some rule →
          ∃ e, Entry.ofRuleSetting rule setting = .ok e := by
  constructor
  · intro hnone
    have hdistinct : RulesDistinct (settings.map Prod.fst) := by
      rw [RulesDistinct, List.pairwise_iff_getElem]
      intro j i hj hi hlt rule hfirst hkey
      rw [List.length_map] at hj hi
      rw [List.getElem_map] at hfirst hkey
      have hfirst' : NamesAt settings j settings[j].1 rule :=
        ⟨settings[j].2, List.getElem?_eq_getElem hj, hfirst⟩
      exact hnone i _ (.duplicate hlt hfirst' ⟨settings[i].2, List.getElem?_eq_getElem hi, hkey⟩)
    refine ⟨hdistinct, fun key setting rule hmem hkey => ?_⟩
    obtain ⟨i, hat⟩ := List.mem_iff_getElem?.mp hmem
    cases hentry : Entry.ofRuleSetting rule setting with
    | ok e => exact ⟨e, rfl⟩
    | error fault =>
      have hfresh : ∀ j < i, ∀ first, ¬NamesAt settings j first rule := fun j hj first hfirst =>
        hdistinct.not_namesAt hj hfirst ⟨setting, hat, hkey⟩
      exact absurd (.entry hat hkey hfresh hentry) (hnone i _)
  · rintro ⟨hdistinct, hvalid⟩ i fault h
    cases h with
    | duplicate hlt hfirst hkey => exact hdistinct.not_namesAt hlt hfirst hkey
    | entry hat hkey _ hwrong =>
      obtain ⟨e, he⟩ := hvalid _ _ _ (List.mem_of_getElem? hat) hkey
      simp [he] at hwrong

/-! ### Reading a configuration -/

/-- The settings of the rules as a value gives them, before they are read. -/
def rawSettings (entries : Members) : List (Str × Setting) :=
  entries.map fun (key, value) => (key, .raw value)

/-- The member of a value under a name; a value that is no object has none. -/
def member? (v : Value) (name : Str) : Option Value :=
  match v with
  | .object members => members.lookup name
  | _ => none

/-- The members of the rules of a value, none if the rules are no object. -/
def ruleMembers (v : Value) : Members :=
  match member? v "rules" with
  | some (.object entries) => entries
  | _ => []

/-- The entry that a value gives is one of the rule: its arguments make a check. -/
def ValidFor (rule : Rule) (value : Value) : Prop :=
  ∃ e, Entry.ofJson value = .ok e ∧ ∃ check, rule.check e.args = .ok check

/-- What becomes of a member of the rules. -/
inductive Keeps : Str × Value → Str × Setting → Prop where
  /-- A value whose key names no rule is unchanged. -/
  | unknown {key : Str} {value : Value} (hkey : Rule.ofKey? key = none) :
      Keeps (key, value) (key, .raw value)
  /-- The entry of a rule has the level, the message and the arguments that are given. -/
  | known {key : Str} {value : Value} {rule : Rule} {e : Entry}
      (hkey : Rule.ofKey? key = some rule) (hgives : Entry.Gives value e) :
      Keeps (key, value) (key, .entry e)

/-- The rules are read when they are an object, or not there. -/
private theorem optional_rules_eq_ok_iff {members entries : Members} :
    optional readObject members "rules" [] = .ok entries ↔
      (∀ value, members.lookup (Str.ofString "rules") = some value →
        ∃ entries, value = .object entries) ∧
        ruleMembers (.object members) = entries := by
  rw [optional_eq_ok_iff]
  simp only [readObject_eq_ok_iff, exists_eq_right, ruleMembers, member?]
  cases members.lookup (Str.ofString "rules") with
  | none => simp [eq_comm]
  | some value => cases value <;> simp

/-- The format is read when it is a string, or not there. -/
private theorem optional_format_eq_ok_iff {members : Members} {format : Str} :
    optional readString members "format" "text" = .ok format ↔
      members.lookup (Str.ofString "format") = some (.string format) ∨
        members.lookup (Str.ofString "format") = none ∧ format = "text" := by
  simp only [optional_eq_ok_iff, readString_eq_ok_iff, exists_eq_right]

/-- If the rules of an object are an object, or not there, they are read first and then the
format. -/
private theorem ofJson_eq_bind {members : Members}
    (hobject : ∀ value, members.lookup (Str.ofString "rules") = some value →
      ∃ entries, value = .object entries) :
    ofJson (.object members) =
      (readSettings [] (rawSettings (ruleMembers (.object members)))).bind fun rules =>
        match optional readString members "format" "text" with
        | .error fault => .error (.fields [fault])
        | .ok format => .ok ⟨rules, format⟩ := by
  have hrules := optional_rules_eq_ok_iff.mpr ⟨hobject, rfl⟩
  simp only [ofJson, hrules, rawSettings, Except.bind]
  cases readSettings [] ((ruleMembers (.object members)).map fun (key, value) =>
      (key, .raw value)) with
  | error fault => rfl
  | ok rules => cases optional readString members "format" "text" <;> rfl

/-- A configuration is read from an object whose rules and format are read. -/
theorem ofJson_eq_ok_iff {v : Value} {c : Config} :
    ofJson v = .ok c ↔
      (∃ members, v = .object members) ∧
      (∀ value, member? v "rules" = some value → ∃ entries, value = .object entries) ∧
      readSettings [] (rawSettings (ruleMembers v)) = .ok c.rules ∧
      (member? v "format" = some (.string c.format) ∨
        member? v "format" = none ∧ c.format = "text") := by
  obtain ⟨rules, format⟩ := c
  cases v with
  | object members =>
    simp only [member?, Value.object.injEq, exists_eq', true_and, ← optional_format_eq_ok_iff]
    by_cases hobject : ∀ value, members.lookup (Str.ofString "rules") = some value →
        ∃ entries, value = .object entries
    · rw [ofJson_eq_bind hobject, and_iff_right hobject]
      cases readSettings [] (rawSettings (ruleMembers (.object members))) with
      | error fault => simp [Except.bind]
      | ok read => cases optional readString members "format" "text" <;> simp [Except.bind]
    · cases hrules : optional readObject members "rules" [] with
      | ok entries => exact absurd (optional_rules_eq_ok_iff.mp hrules).1 hobject
      | error fault => simp [ofJson, hrules, hobject]
  | _ => simp [ofJson]

/-- A value is an object with the given members as its rules; it has none if they are not there. -/
def HasRules (v : Value) (entries : Members) : Prop :=
  ∃ members, v = .object members ∧
    (members.lookup (Str.ofString "rules") = some (.object entries) ∨
      members.lookup (Str.ofString "rules") = none ∧ entries = [])

/-- Reads the format of a value. -/
def readFormat (v : Value) : Except Fault Str :=
  match member? v "format" with
  | none => .ok "text"
  | some (.string s) => .ok s
  | some _ => .error (.fields [⟨[.field "format"], .notString⟩])

/-- If the rules of a value are an object, or not there, they are read first and then the
format. -/
theorem HasRules.ofJson_eq_bind {v : Value} {entries : Members} (h : HasRules v entries) :
    ofJson v = (readSettings [] (rawSettings entries)).bind fun rules =>
      (readFormat v).map fun format => ⟨rules, format⟩ := by
  obtain ⟨members, rfl, hlookup⟩ := h
  have hrules : optional readObject members "rules" [] = .ok entries := by
    simp only [optional_eq_ok_iff, readObject_eq_ok_iff, exists_eq_right]
    exact hlookup
  obtain ⟨hobject, hentries⟩ := optional_rules_eq_ok_iff.mp hrules
  have hformat : (match optional readString members "format" "text" with
      | .error fault => .error (.fields [fault])
      | .ok format => .ok format) = readFormat (.object members) := by
    simp only [optional, readFormat, member?]
    cases members.lookup (Str.ofString "format") with
    | none => rfl
    | some value => cases value <;> rfl
  rw [Config.ofJson_eq_bind hobject, hentries, ← hformat]
  refine congrArg _ (funext fun rules => ?_)
  cases optional readString members "format" "text" <;> rfl

/-- A configuration is read from a value when its rules and its format are. -/
theorem HasRules.ofJson_eq_ok_iff {v : Value} {entries : Members} (h : HasRules v entries)
    {c : Config} :
    ofJson v = .ok c ↔
      readSettings [] (rawSettings entries) = .ok c.rules ∧ readFormat v = .ok c.format := by
  obtain ⟨rules, format⟩ := c
  rw [h.ofJson_eq_bind]
  cases readSettings [] (rawSettings entries) with
  | error fault => simp [Except.bind]
  | ok out => cases readFormat v <;> simp [Except.bind, Except.map]

/-- The settings that a value gives are read exactly when their keys name distinct rules and their
entries are valid. -/
theorem exists_readSettings_rawSettings_iff {entries : Members} :
    (∃ out, readSettings [] (rawSettings entries) = .ok out) ↔
      RulesDistinct (entries.map Prod.fst) ∧
        ∀ key value rule, (key, value) ∈ entries → Rule.ofKey? key = some rule →
          ValidFor rule value := by
  have hkeys : (rawSettings entries).map Prod.fst = entries.map Prod.fst := by
    simp [rawSettings, Function.comp_def]
  have hvalid (rule : Rule) (value : Value) :
      (∃ e, Entry.ofRuleSetting rule (.raw value) = .ok e) ↔ ValidFor rule value := by
    simp only [Entry.ofRuleSetting_eq_ok_iff, Entry.ofSetting, ValidFor]
  rw [exists_readSettings_eq_ok_iff, forall_not_faultAt_iff, hkeys]
  refine and_congr_right fun _ => ?_
  constructor
  · intro h key value rule hmem hkey
    exact (hvalid rule value).mp
      (h key (.raw value) rule (List.mem_map.mpr ⟨(key, value), hmem, rfl⟩) hkey)
  · intro h key setting rule hmem hkey
    obtain ⟨⟨key', value⟩, hmem', heq⟩ := List.mem_map.mp hmem
    obtain ⟨rfl, rfl⟩ : key' = key ∧ Setting.raw value = setting := by simpa using heq
    exact (hvalid rule value).mpr (h key' value rule hmem' hkey)

/-- Reading keeps the members of the rules in their order: the unknown ones as they are, the known
ones with what they give. -/
theorem forall₂_keeps_of_readSettings {entries : Members} {out : List (Str × Setting)}
    (hok : readSettings [] (rawSettings entries) = .ok out) : List.Forall₂ Keeps entries out := by
  have hreads := forall₂_settingRead_of_readSettings hok
  rw [rawSettings, List.forall₂_map_left_iff] at hreads
  refine hreads.imp fun member setting hread => ?_
  obtain ⟨key, value⟩ := member
  cases hread with
  | kept hkey => exact .unknown hkey
  | entry hkey he =>
    exact .known hkey (Entry.ofJson_eq_ok_iff.mp (Entry.ofRuleSetting_eq_ok_iff.mp he).1)

/-- The configurations that validation lets through. -/
inductive Accepted : Config → Prop where
  /-- A configuration that is read from a value. -/
  | read {v : Value} {c : Config} (hc : ofJson v = .ok c) : Accepted c
  /-- A configuration that is built from settings. -/
  | built {settings : List (Str × Setting)} {format : Str} {c : Config}
      (hc : ofSettings settings format = .ok c) : Accepted c

/-- The built-in configuration is accepted. -/
theorem accepted_default : Config.default.Accepted :=
  @Accepted.built Config.default.rules "text" _ rfl

/-- What holds of every accepted configuration. -/
structure Wellformed (c : Config) : Prop where
  /-- No two keys name the same rule. -/
  distinct : RulesDistinct (c.rules.map Prod.fst)
  /-- Under a key that names a rule there is an entry whose arguments make a check. -/
  known : ∀ key setting rule, (key, setting) ∈ c.rules → Rule.ofKey? key = some rule →
    ∃ e check, setting = .entry e ∧ rule.check e.args = .ok check

/-- Reading does not change the keys. -/
theorem keys_eq_of_forall₂_settingRead {settings out : List (Str × Setting)}
    (hreads : List.Forall₂ SettingRead settings out) :
    out.map Prod.fst = settings.map Prod.fst := by
  induction hreads with
  | nil => rfl
  | cons hread _ ih => cases hread <;> simp [ih]

/-- The setting at a place is read from the one that was given at that place. -/
theorem exists_settingRead_of_getElem? {settings out : List (Str × Setting)} {i : ℕ}
    {read : Str × Setting} (hreads : List.Forall₂ SettingRead settings out)
    (hat : out[i]? = some read) : ∃ given, settings[i]? = some given ∧ SettingRead given read := by
  induction hreads generalizing i with
  | nil => simp at hat
  | cons hread _ ih =>
    cases i with
    | zero =>
      obtain rfl : _ = read := by simpa using hat
      exact ⟨_, by simp, hread⟩
    | succ i =>
      obtain ⟨given, hgiven, hread'⟩ := ih (by simpa using hat)
      exact ⟨given, by simpa using hgiven, hread'⟩

/-- Settings that have been read make a well-formed configuration. -/
theorem wellformed_of_readSettings {settings : List (Str × Setting)} {c : Config}
    (hok : readSettings [] settings = .ok c.rules) : Wellformed c := by
  have hreads := forall₂_settingRead_of_readSettings hok
  have hnone := exists_readSettings_eq_ok_iff.mp ⟨c.rules, hok⟩
  constructor
  · rw [keys_eq_of_forall₂_settingRead hreads]
    exact (forall_not_faultAt_iff.mp hnone).1
  · intro key setting rule hmem hkey
    obtain ⟨i, hat⟩ := List.mem_iff_getElem?.mp hmem
    obtain ⟨given, _, hread⟩ := exists_settingRead_of_getElem? hreads hat
    cases hread with
    | kept hkey' => simp [hkey] at hkey'
    | entry hkey' he =>
      rw [hkey] at hkey'
      obtain rfl := Option.some.inj hkey'
      obtain ⟨_, check, hcheck⟩ := Entry.ofRuleSetting_eq_ok_iff.mp he
      exact ⟨_, check, rfl, hcheck⟩

/-- Every accepted configuration is well formed. -/
theorem Accepted.wellformed {c : Config} (hc : Accepted c) : Wellformed c := by
  cases hc with
  | read hc => exact wellformed_of_readSettings (ofJson_eq_ok_iff.mp hc).2.2.1
  | @built settings format _ hc =>
    cases hread : readSettings [] settings with
    | error fault => simp [ofSettings, hread, Except.map] at hc
    | ok out =>
      obtain rfl : (⟨out, format⟩ : Config) = c := by
        simpa [ofSettings, hread, Except.map] using hc
      exact wellformed_of_readSettings hread

end ProseCheck.Config
