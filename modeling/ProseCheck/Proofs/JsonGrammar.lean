import ProseCheck.Proofs.JsonReading

/-!
# What a JSON text writes

A text writes more than the reader gives back: a name may stand in an object several times, and the
reader keeps only its last value. So what is written is a tree of its own, with every member of an
object in the order of the text, and a value is made of it. The reader gives exactly the values of
what a text writes; the number of steps on which it runs never shows.
-/

namespace ProseCheck.Json

/-- A value as it is written. An object has all the members that are written. -/
inductive Written where
  /-- A string, a number or a word. -/
  | scalar (value : Value)
  | array (items : List Written)
  | object (members : List (Str × Written))

mutual

/-- The value of what is written. -/
def Written.value : Written → Value
  | .scalar value => value
  | .array items => .array (itemValues items)
  | .object members => ofMembers (memberValues members)

/-- The values of items as they are written. -/
def itemValues : List Written → List Value
  | [] => []
  | w :: items => w.value :: itemValues items

/-- Members as they are written, with their values. -/
def memberValues : List (Str × Written) → Members
  | [] => []
  | (name, w) :: members => (name, w.value) :: memberValues members

end

/-- What a reader takes from the front of a text: a value, the items of an array with the closing
bracket, or the members of an object with the closing brace. -/
inductive Part where
  | value (w : Written)
  | items (items : List Written)
  | members (members : List (Str × Written))

/-- A text starts with what is written for a part, and `rest` follows. -/
inductive Writes : (s : Str) → Part → (rest : Str) → Prop where
  | string {s rest : Str} {text : Str} (hstring : readQuoted s = .ok (text, rest)) :
    Writes (.scalar '"' :: s) (.value (.scalar (.string text))) rest
  | scalar {s rest : Str} {v : Value} (hscalar : readScalar s = .ok (v, rest)) :
    Writes s (.value (.scalar v)) rest
  | emptyArray {s rest : Str} (hclose : skipSpace s = .scalar ']' :: rest) :
    Writes (.scalar '[' :: s) (.value (.array [])) rest
  | array {s rest : Str} {items : List Written}
      (hitems : Writes (skipSpace s) (.items items) rest) :
    Writes (.scalar '[' :: s) (.value (.array items)) rest
  | emptyObject {s rest : Str} (hclose : skipSpace s = .scalar '\x7d' :: rest) :
    Writes (.scalar '\x7b' :: s) (.value (.object [])) rest
  | object {s rest : Str} {members : List (Str × Written)}
      (hmembers : Writes (skipSpace s) (.members members) rest) :
    Writes (.scalar '\x7b' :: s) (.value (.object members)) rest
  | lastItem {s after rest : Str} {w : Written} (hvalue : Writes s (.value w) after)
      (hclose : skipSpace after = .scalar ']' :: rest) : Writes s (.items [w]) rest
  | nextItem {s after t rest : Str} {w : Written} {items : List Written}
      (hvalue : Writes s (.value w) after) (hcomma : skipSpace after = .scalar ',' :: t)
      (hitems : Writes (skipSpace t) (.items items) rest) : Writes s (.items (w :: items)) rest
  | lastMember {s t u after rest : Str} {name : Str} {w : Written}
      (hname : readQuoted s = .ok (name, t)) (hcolon : skipSpace t = .scalar ':' :: u)
      (hvalue : Writes (skipSpace u) (.value w) after)
      (hclose : skipSpace after = .scalar '\x7d' :: rest) :
    Writes (.scalar '"' :: s) (.members [(name, w)]) rest
  | nextMember {s t u after v rest : Str} {name : Str} {w : Written}
      {members : List (Str × Written)} (hname : readQuoted s = .ok (name, t))
      (hcolon : skipSpace t = .scalar ':' :: u) (hvalue : Writes (skipSpace u) (.value w) after)
      (hcomma : skipSpace after = .scalar ',' :: v)
      (hmembers : Writes (skipSpace v) (.members members) rest) :
    Writes (.scalar '"' :: s) (.members ((name, w) :: members)) rest

/-- A text is what is written for a value, with white space around it. -/
def WritesText (s : Str) (w : Written) : Prop :=
  ∃ rest, Writes (skipSpace s) (.value w) rest ∧ skipSpace rest = []

/-! ### How far a part goes -/

/-- A code point after white space leaves less of a text. -/
theorem length_lt_of_skipSpace {s rest : Str} {c : Point} (h : skipSpace s = c :: rest) :
    rest.length < s.length := by
  have hlength := (skipSpace_suffix s).length_le
  rw [h, List.length_cons] at hlength
  omega

/-- A string does not leave more of a text. -/
theorem length_le_of_readQuoted {s rest : Str} {text : Str}
    (h : readQuoted s = .ok (text, rest)) : rest.length ≤ s.length := by
  have hreads := readsFrom_readQuoted s
  rw [h] at hreads
  exact hreads.length_le

/-- A number or a word does not leave more of a text. -/
theorem length_le_of_readScalar {s rest : Str} {v : Value}
    (h : readScalar s = .ok (v, rest)) : rest.length ≤ s.length := by
  have hreads := readsFrom_readScalar s
  rw [h] at hreads
  exact hreads.length_le

/-- The name of a member and its colon take a part of the text. -/
theorem length_lt_of_name {s t u : Str} {name : Str} (hname : readQuoted s = .ok (name, t))
    (hcolon : skipSpace t = .scalar ':' :: u) : (skipSpace u).length < s.length := by
  have hquoted := length_le_of_readQuoted hname
  have hafter := length_lt_of_skipSpace hcolon
  have hskip := (skipSpace_suffix u).length_le
  omega

/-- A part leaves less of a text; of a value it is enough to know that it does not leave more. -/
def Part.Shortens (s rest : Str) : Part → Prop
  | .value _ => rest.length ≤ s.length
  | .items _ | .members _ => rest.length < s.length

/-- What is written for a part is in front of what it leaves. -/
theorem Writes.shortens {s rest : Str} {part : Part} (h : Writes s part rest) :
    part.Shortens s rest := by
  induction h with
  | string hstring =>
    have hlength := length_le_of_readQuoted hstring
    simp only [Part.Shortens, List.length_cons]
    omega
  | scalar hscalar => exact length_le_of_readScalar hscalar
  | emptyArray hclose | emptyObject hclose =>
    have hlength := length_lt_of_skipSpace hclose
    simp only [Part.Shortens, List.length_cons]
    omega
  | @array s _ _ _ ih | @object s _ _ _ ih =>
    have hskip := (skipSpace_suffix s).length_le
    simp only [Part.Shortens, List.length_cons] at ih ⊢
    omega
  | lastItem _ hclose ih =>
    have hlength := length_lt_of_skipSpace hclose
    simp only [Part.Shortens] at ih ⊢
    omega
  | @nextItem _ _ t _ _ _ _ hcomma _ ih ih' =>
    have hlength := length_lt_of_skipSpace hcomma
    have hskip := (skipSpace_suffix t).length_le
    simp only [Part.Shortens] at ih ih' ⊢
    omega
  | lastMember hname hcolon _ hclose ih =>
    have hstart := length_lt_of_name hname hcolon
    have hlength := length_lt_of_skipSpace hclose
    simp only [Part.Shortens, List.length_cons] at ih ⊢
    omega
  | @nextMember _ _ _ _ v _ _ _ _ hname hcolon _ hcomma _ ih ih' =>
    have hstart := length_lt_of_name hname hcolon
    have hlength := length_lt_of_skipSpace hcomma
    have hskip := (skipSpace_suffix v).length_le
    simp only [Part.Shortens, List.length_cons] at ih ih' ⊢
    omega

/-! ### Everything that is written is read -/

/-- No string, array or object, and no closing bracket, is a scalar. -/
theorem readScalar_ne_ok {c : Point}
    (hc : c ∈ [.scalar '"', .scalar '[', .scalar '\x7b', .scalar ']']) (s : Str)
    (reading : Value × Str) : readScalar (c :: s) ≠ .ok reading := by
  simp only [List.mem_cons, List.not_mem_nil, or_false] at hc
  rcases hc with rfl | rfl | rfl | rfl <;>
    simp [readScalar, readLiteral?, literals, Str.ofString, readNumber, integerDigits, isDigit,
      Point.has]

/-- Items do not start with the closing bracket. -/
theorem Writes.ne_bracket {s rest t : Str} {items : List Written}
    (h : Writes s (.items items) rest) : s ≠ .scalar ']' :: t := by
  rintro rfl
  have hnot {w : Written} {after : Str} : ¬Writes (.scalar ']' :: t) (.value w) after := by
    intro hvalue
    cases hvalue with
    | scalar hscalar => exact readScalar_ne_ok (by simp) t _ hscalar
  cases h with
  | lastItem hvalue _ => exact hnot hvalue
  | nextItem hvalue _ _ => exact hnot hvalue

/-- Members do not start with the closing brace. -/
theorem Writes.ne_brace {s rest t : Str} {members : List (Str × Written)}
    (h : Writes s (.members members) rest) : s ≠ .scalar '\x7d' :: t := by
  rintro rfl
  cases h

/-- A number or a word is read as a value. -/
theorem readValue_of_readScalar {fuel : ℕ} {s rest : Str} {v : Value}
    (h : readScalar s = .ok (v, rest)) : readValue (fuel + 1) s = .ok (v, rest) := by
  cases s with
  | nil => simpa [readValue] using h
  | cons c s =>
    have hne {d : Point} (hd : d ∈ [.scalar '"', .scalar '[', .scalar '\x7b', .scalar ']']) :
        c ≠ d := by
      rintro rfl
      exact readScalar_ne_ok hd s _ h
    rw [readValue_scalar (hne (by simp)) (hne (by simp)) (hne (by simp)), h]

/-- A part is read from a text, in as many steps as twice the code points that it takes; a value may
need one more. -/
def Part.IsRead (s rest : Str) : Part → Prop
  | .value w => ∀ fuel, 2 * (s.length - rest.length) < fuel →
      readValue fuel s = .ok (w.value, rest)
  | .items ws => ∀ fuel, 2 * (s.length - rest.length) ≤ fuel →
      readItems fuel s = .ok (itemValues ws, rest)
  | .members ms => ∀ fuel, 2 * (s.length - rest.length) ≤ fuel →
      readMembers fuel s = .ok (memberValues ms, rest)

/-- Every part that is written is read. The induction is on what is written; the part takes enough
of the text for the steps of its own parts. -/
theorem Writes.isRead {s rest : Str} {part : Part} (h : Writes s part rest) :
    part.IsRead s rest := by
  induction h with
  | string hstring =>
    rintro (_ | fuel) hfuel
    · omega
    · simp only [readValue, hstring, bind, Except.bind, Written.value]
      rfl
  | scalar hscalar =>
    rintro (_ | fuel) hfuel
    · omega
    · exact readValue_of_readScalar hscalar
  | emptyArray hclose =>
    rintro (_ | fuel) hfuel
    · omega
    · simp only [readValue, hclose, Written.value, itemValues]
  | emptyObject hclose =>
    rintro (_ | fuel) hfuel
    · omega
    · simp only [readValue, hclose, Written.value, memberValues]
      rfl
  | @array s _ _ hitems ih =>
    have hskip := (skipSpace_suffix s).length_le
    rintro (_ | fuel) hfuel
    · omega
    · rw [List.length_cons] at hfuel
      exact readValue_array (fun _ => hitems.ne_bracket) (ih fuel (by omega))
  | @object s _ _ hmembers ih =>
    have hskip := (skipSpace_suffix s).length_le
    rintro (_ | fuel) hfuel
    · omega
    · rw [List.length_cons] at hfuel
      exact readValue_object (fun _ => hmembers.ne_brace) (ih fuel (by omega))
  | @lastItem s after rest _ hvalue hclose ih =>
    have hshort : after.length ≤ s.length := hvalue.shortens
    have hlength := length_lt_of_skipSpace hclose
    rintro (_ | fuel) hfuel
    · omega
    · exact readItems_last (ih fuel (by omega)) hclose
  | @nextItem s after t rest _ _ hvalue hcomma hitems ih ih' =>
    have hshort : after.length ≤ s.length := hvalue.shortens
    have hlength := length_lt_of_skipSpace hcomma
    have hskip := (skipSpace_suffix t).length_le
    have hrest : rest.length < (skipSpace t).length := hitems.shortens
    rintro (_ | fuel) hfuel
    · omega
    · exact readItems_next (ih fuel (by omega)) hcomma (ih' fuel (by omega))
  | @lastMember s t u after rest _ _ hname hcolon hvalue hclose ih =>
    have hstart := length_lt_of_name hname hcolon
    have hshort : after.length ≤ (skipSpace u).length := hvalue.shortens
    have hlength := length_lt_of_skipSpace hclose
    rintro (_ | fuel) hfuel
    · rw [List.length_cons] at hfuel
      omega
    · rw [List.length_cons] at hfuel
      exact readMembers_last hname hcolon (ih fuel (by omega)) hclose
  | @nextMember s t u after v rest _ _ _ hname hcolon hvalue hcomma hmembers ih ih' =>
    have hstart := length_lt_of_name hname hcolon
    have hshort : after.length ≤ (skipSpace u).length := hvalue.shortens
    have hlength := length_lt_of_skipSpace hcomma
    have hskip := (skipSpace_suffix v).length_le
    have hrest : rest.length < (skipSpace v).length := hmembers.shortens
    rintro (_ | fuel) hfuel
    · rw [List.length_cons] at hfuel
      omega
    · rw [List.length_cons] at hfuel
      exact readMembers_next hname hcolon (ih fuel (by omega)) hcomma (ih' fuel (by omega))

/-! ### Everything that is read is written -/

section Soundness

variable {α β : Type}

/-- What a reading gives, if it succeeds, has the property `p`. -/
def Ensures (p : α → Str → Prop) : Except Fault (α × Str) → Prop
  | .ok (a, rest) => p a rest
  | .error _ => True

/-- What a reading gives is what it gives. -/
theorem ensures_self (reading : Except Fault (α × Str)) :
    Ensures (fun a rest => reading = .ok (a, rest)) reading := by
  match reading with
  | .ok (_, _) => rfl
  | .error _ => trivial

/-- A property that follows from one that a reading has. -/
theorem Ensures.mono {p q : α → Str → Prop} {reading : Except Fault (α × Str)}
    (h : Ensures p reading) (hmono : ∀ a rest, p a rest → q a rest) : Ensures q reading := by
  match reading, h with
  | .ok (a, rest), hp => exact hmono a rest hp
  | .error _, _ => trivial

/-- One reading after the other. -/
theorem Ensures.bind {p : α → Str → Prop} {q : β → Str → Prop}
    {reading : Except Fault (α × Str)} {next : α × Str → Except Fault (β × Str)}
    (h : Ensures p reading) (hnext : ∀ a rest, p a rest → Ensures q (next (a, rest))) :
    Ensures q (reading >>= next) := by
  match reading, h with
  | .ok (a, rest), hp => exact hnext a rest hp
  | .error _, _ => trivial

/-- A value is that of what is written at the front of a text. -/
def ValueFrom (s : Str) (v : Value) (rest : Str) : Prop :=
  ∃ w, Writes s (.value w) rest ∧ w.value = v

/-- Items are those of what is written at the front of a text. -/
def ItemsFrom (s : Str) (items : List Value) (rest : Str) : Prop :=
  ∃ ws, Writes s (.items ws) rest ∧ itemValues ws = items

/-- Members are those of what is written at the front of a text. -/
def MembersFrom (s : Str) (members : Members) (rest : Str) : Prop :=
  ∃ ms, Writes s (.members ms) rest ∧ memberValues ms = members

variable {fuel : ℕ}

/-- One step of reading a value, given that the items and members that are read are written. -/
theorem ensures_readValue_succ (hitems : ∀ s, Ensures (ItemsFrom s) (readItems fuel s))
    (hmembers : ∀ s, Ensures (MembersFrom s) (readMembers fuel s)) (s : Str) :
    Ensures (ValueFrom s) (readValue (fuel + 1) s) := by
  unfold readValue
  split
  · rename_i t
    refine (ensures_self (readQuoted t)).bind fun text rest hstring => ?_
    exact ⟨_, .string hstring, by rw [Written.value]⟩
  · rename_i t
    split
    · rename_i rest hclose
      exact ⟨_, .emptyArray hclose, by rw [Written.value, itemValues]⟩
    · refine (hitems _).bind ?_
      rintro items rest ⟨ws, hws, rfl⟩
      exact ⟨_, .array hws, by rw [Written.value]⟩
  · rename_i t
    split
    · rename_i rest hclose
      exact ⟨_, .emptyObject hclose, by rw [Written.value, memberValues]; rfl⟩
    · refine (hmembers _).bind ?_
      rintro members rest ⟨ms, hms, rfl⟩
      exact ⟨_, .object hms, by rw [Written.value]⟩
  · refine (ensures_self (readScalar s)).mono fun v rest hscalar => ?_
    exact ⟨_, .scalar hscalar, by rw [Written.value]⟩

/-- One step of reading items, given that the values and items that are read are written. -/
theorem ensures_readItems_succ (hvalue : ∀ s, Ensures (ValueFrom s) (readValue fuel s))
    (hitems : ∀ s, Ensures (ItemsFrom s) (readItems fuel s)) (s : Str) :
    Ensures (ItemsFrom s) (readItems (fuel + 1) s) := by
  unfold readItems
  refine (hvalue s).bind ?_
  rintro v after ⟨w, hw, rfl⟩
  simp only
  split
  · rename_i rest hclose
    exact ⟨_, .lastItem hw hclose, by rw [itemValues, itemValues]⟩
  · rename_i t hcomma
    refine (hitems _).bind ?_
    rintro items rest ⟨ws, hws, rfl⟩
    exact ⟨_, .nextItem hw hcomma hws, by rw [itemValues]⟩
  · trivial

/-- One step of reading members, given that the values and members that are read are written. -/
theorem ensures_readMembers_succ (hvalue : ∀ s, Ensures (ValueFrom s) (readValue fuel s))
    (hmembers : ∀ s, Ensures (MembersFrom s) (readMembers fuel s)) (s : Str) :
    Ensures (MembersFrom s) (readMembers (fuel + 1) s) := by
  unfold readMembers
  split
  · rename_i t
    refine (ensures_self (readQuoted t)).bind fun name rest hname => ?_
    simp only
    split
    · rename_i u hcolon
      refine (hvalue _).bind ?_
      rintro v after ⟨w, hw, rfl⟩
      simp only
      split
      · rename_i rest hclose
        exact ⟨_, .lastMember hname hcolon hw hclose, by rw [memberValues, memberValues]⟩
      · rename_i x hcomma
        refine (hmembers _).bind ?_
        rintro members rest ⟨ms, hms, rfl⟩
        exact ⟨_, .nextMember hname hcolon hw hcomma hms, by rw [memberValues]⟩
      · trivial
    · trivial
  · trivial

/-- Values, items and members are all written, by one induction on the steps. -/
theorem ensures_readValue (fuel : ℕ) :
    (∀ s, Ensures (ValueFrom s) (readValue fuel s)) ∧
      (∀ s, Ensures (ItemsFrom s) (readItems fuel s)) ∧
      ∀ s, Ensures (MembersFrom s) (readMembers fuel s) := by
  induction fuel with
  | zero =>
    refine ⟨fun s => ?_, fun s => ?_, fun s => ?_⟩
    · simp only [readValue, Ensures]
    · simp only [readItems, Ensures]
    · simp only [readMembers, Ensures]
  | succ fuel ih =>
    obtain ⟨hvalue, hitems, hmembers⟩ := ih
    exact ⟨ensures_readValue_succ hitems hmembers, ensures_readItems_succ hvalue hitems,
      ensures_readMembers_succ hvalue hmembers⟩

end Soundness

/-- A text is read as a value exactly when it writes something with that value. -/
theorem readText_eq_ok_iff {s : Str} {v : Value} :
    readText s = .ok v ↔ ∃ w, WritesText s w ∧ w.value = v := by
  constructor
  · intro h
    have hvalue := (ensures_readValue (2 * s.length + 2)).1 (skipSpace s)
    unfold readText at h
    cases hreading : readValue (2 * s.length + 2) (skipSpace s) with
    | error fault => simp [hreading, bind, Except.bind] at h
    | ok reading =>
      obtain ⟨v', rest⟩ := reading
      simp only [hreading, bind, Except.bind] at h
      rw [hreading] at hvalue
      obtain ⟨w, hw, rfl⟩ := hvalue
      split at h
      · rename_i hend
        exact ⟨w, ⟨rest, hw, hend⟩, Except.ok.inj h⟩
      · cases h
  · rintro ⟨w, ⟨rest, hw, hend⟩, rfl⟩
    have hskip := (skipSpace_suffix s).length_le
    have hread := hw.isRead (2 * s.length + 2) (by omega)
    simp only [readText, hread, bind, Except.bind, hend]
    rfl

/-! ### Objects -/

/-- A number or a word is no object. -/
theorem readScalar_ne_object {s rest : Str} {v : Value} (h : readScalar s = .ok (v, rest))
    (members : Members) : v ≠ .object members := by
  have hnumber {left : ℕ} {negative : Bool} {t : Str}
      (h : readNumber left negative t = .ok (v, rest)) : v ≠ .object members := by
    rintro rfl
    simp only [readNumber] at h
    split at h
    · cases h
    · split at h
      · split at h <;> cases h
      · cases h
  unfold readScalar at h
  split at h
  · rename_i reading hreading
    obtain ⟨⟨word, value⟩, hfind, rfl⟩ := Option.map_eq_some_iff.mp hreading
    obtain ⟨rfl, rfl⟩ : value = v ∧ _ = rest := by simpa using h
    have hmem := List.mem_of_find?_eq_some hfind
    rintro rfl
    simp [literals] at hmem
  · split at h
    · exact hnumber h
    · exact hnumber h

/-- What is written for an object is an object. -/
theorem Writes.exists_eq_object {s rest : Str} {w : Written} {members : Members}
    (h : Writes s (.value w) rest) (hvalue : w.value = .object members) :
    ∃ written, w = .object written := by
  cases h with
  | string _ | emptyArray _ | array _ => simp [Written.value] at hvalue
  | scalar hscalar =>
    rw [Written.value] at hvalue
    exact absurd hvalue (readScalar_ne_object hscalar members)
  | emptyObject _ | object _ => exact ⟨_, rfl⟩

/-- A text is read as an object exactly when it writes one. -/
theorem readText_eq_object_iff {s : Str} {members : Members} :
    readText s = .ok (.object members) ↔
      ∃ written, WritesText s (.object written) ∧
        (Written.object written).value = .object members := by
  rw [readText_eq_ok_iff]
  constructor
  · rintro ⟨w, ⟨rest, hw, hend⟩, hvalue⟩
    obtain ⟨written, rfl⟩ := hw.exists_eq_object hvalue
    exact ⟨written, ⟨rest, hw, hend⟩, hvalue⟩
  · rintro ⟨written, hwrites, hvalue⟩
    exact ⟨_, hwrites, hvalue⟩

/-! ### A text for an object -/

/-- A text is what is written for a value, whatever follows it. -/
def IsTextOf (text : Str) (w : Written) : Prop :=
  ∀ rest, skipSpace (text ++ rest) = text ++ rest ∧ Writes (text ++ rest) (.value w) rest

/-- The text of a value writes it. -/
theorem IsTextOf.writesText {text : Str} {w : Written} (h : IsTextOf text w) :
    WritesText text w := by
  obtain ⟨hskip, hwrites⟩ := h []
  rw [List.append_nil] at hskip hwrites
  exact ⟨[], hskip.symm ▸ hwrites, rfl⟩

/-- A string between quotes is the text of that string. -/
theorem isTextOf_writeString (s : Str) : IsTextOf (writeString s) (.scalar (.string s)) := by
  intro rest
  rw [writeString, List.cons_append, List.cons_append, List.append_assoc, List.singleton_append]
  exact ⟨skipSpace_cons (by decide) _, .string (readQuoted_flatMap_escapePoint s rest)⟩

/-- Members and the brace after them, without white space. Each member has a name and the text of a
value. -/
def membersText : List (Str × Str) → Str
  | [] => [.scalar '\x7d']
  | [(name, text)] => writeString name ++ .scalar ':' :: (text ++ [.scalar '\x7d'])
  | (name, text) :: m :: members =>
    writeString name ++ .scalar ':' :: (text ++ .scalar ',' :: membersText (m :: members))

/-- An object, without white space. -/
def objectText (members : List (Str × Str)) : Str :=
  .scalar '\x7b' :: membersText members

/-- No white space is in front of members. -/
theorem skipSpace_membersText (members : List (Str × Str)) (rest : Str) :
    skipSpace (membersText members ++ rest) = membersText members ++ rest := by
  match members with
  | [] => exact skipSpace_cons (by decide) rest
  | [_] | _ :: _ :: _ =>
    simp only [membersText, writeString, List.cons_append]
    exact skipSpace_cons (by decide) _

/-- A name in front of a colon and the text of a value. -/
theorem IsTextOf.exists_member {text : Str} {w : Written} (h : IsTextOf text w)
    (name : Str) (after : Str) :
    ∃ s t u, writeString name ++ .scalar ':' :: (text ++ after) = .scalar '"' :: s ∧
      readQuoted s = .ok (name, t) ∧ skipSpace t = .scalar ':' :: u ∧
      Writes (skipSpace u) (.value w) after := by
  obtain ⟨hskip, hwrites⟩ := h after
  refine ⟨_, _, text ++ after, ?_, readQuoted_flatMap_escapePoint name _,
    skipSpace_cons (by decide) _, hskip.symm ▸ hwrites⟩
  simp [writeString]

/-- Names and texts of values make the text of members. -/
theorem writes_membersText {texts : List (Str × Str)} {members : List (Str × Written)}
    (h : List.Forall₂ (fun m m' => m.1 = m'.1 ∧ IsTextOf m.2 m'.2) texts members)
    (hne : members ≠ []) (rest : Str) :
    Writes (membersText texts ++ rest) (.members members) rest := by
  induction h with
  | nil => exact absurd rfl hne
  | @cons m m' texts members hm htexts ih =>
    obtain ⟨name, text⟩ := m
    obtain ⟨_, w⟩ := m'
    obtain ⟨rfl, htext⟩ := hm
    cases htexts with
    | nil =>
      obtain ⟨s, t, u, hs, hname, hcolon, hvalue⟩ :=
        htext.exists_member name (.scalar '\x7d' :: rest)
      have hmembers : membersText [(name, text)] ++ rest = .scalar '"' :: s := by
        rw [← hs]
        simp [membersText]
      rw [hmembers]
      exact .lastMember hname hcolon hvalue (skipSpace_cons (by decide) rest)
    | @cons m m' texts members hm htexts =>
      obtain ⟨s, t, u, hs, hname, hcolon, hvalue⟩ :=
        htext.exists_member name (.scalar ',' :: (membersText (m :: texts) ++ rest))
      have hmembers : membersText ((name, text) :: m :: texts) ++ rest = .scalar '"' :: s := by
        rw [← hs]
        simp [membersText]
      have hnext := ih (List.cons_ne_nil _ _)
      rw [← skipSpace_membersText] at hnext
      rw [hmembers]
      exact .nextMember hname hcolon hvalue (skipSpace_cons (by decide) _) hnext

/-- Texts of values make the text of an object. -/
theorem isTextOf_objectText {texts : List (Str × Str)} {members : List (Str × Written)}
    (h : List.Forall₂ (fun m m' => m.1 = m'.1 ∧ IsTextOf m.2 m'.2) texts members) :
    IsTextOf (objectText texts) (.object members) := by
  intro rest
  refine ⟨skipSpace_cons (by decide) _, ?_⟩
  cases h with
  | nil => exact .emptyObject (skipSpace_membersText [] rest)
  | cons hm htexts =>
    have hmembers := writes_membersText (.cons hm htexts) (List.cons_ne_nil _ _) rest
    rw [← skipSpace_membersText] at hmembers
    exact .object hmembers

end ProseCheck.Json
