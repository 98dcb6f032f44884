import ProseCheck.Proofs.JsonScalar
import Mathlib.Data.List.Nodup

/-!
# Reading JSON that was written

A value is read from what is written for it, with everything that follows it left over. White space
between the parts is skipped, and the text that closes an array or an object or separates its parts
ends every number in front of it. The reader runs on a number of steps that is fixed in advance;
twice the number of code points is enough.
-/

namespace ProseCheck.Json

/-- The values that reading gives back: integers are not too long, the names in an object are
distinct, and there are no floating point numbers. -/
inductive Plain : Value → Prop where
  | null : Plain .null
  | bool (b : Bool) : Plain (.bool b)
  | int {n : ℤ} (hn : n.natAbs < 10 ^ Text.digitLimit) : Plain (.int n)
  | string (s : Str) : Plain (.string s)
  | array {items : List Value} (hitems : ∀ v ∈ items, Plain v) : Plain (.array items)
  | object {members : Members} (hnames : (members.map Prod.fst).Nodup)
      (hmembers : ∀ m ∈ members, Plain m.2) : Plain (.object members)

/-- A value is read from what is written for it at any level, whatever follows, in twice as many
steps as it has code points. -/
def ReadBack (v : Value) : Prop :=
  ∀ level fuel rest, 2 * (writeValue level v).length ≤ fuel → EndsNumber rest →
    readValue fuel (writeValue level v ++ rest) = .ok (v, rest)

/-! ### White space -/

/-- A code point that is no white space is not skipped. -/
theorem skipSpace_cons {c : Point} (hc : isSpace c = false) (s : Str) :
    skipSpace (c :: s) = c :: s := by
  simp [skipSpace, hc]

/-- The start of a new line is skipped. -/
theorem skipSpace_newLine (level : ℕ) (s : Str) :
    skipSpace (newLine level ++ s) = skipSpace s := by
  apply List.dropWhile_append_of_pos
  intro c hc
  have hc' : c = .scalar '\n' ∨ c = .scalar ' ' := by
    rcases List.mem_cons.mp hc with rfl | hc
    · exact Or.inl rfl
    · exact Or.inr (List.eq_of_mem_replicate hc)
  rcases hc' with rfl | rfl <;> decide

/-- A new line takes at least one code point. -/
theorem length_newLine (level : ℕ) : (newLine level).length = 2 * level + 1 := by
  simp [newLine]

/-- A number ends with its line. -/
theorem endsNumber_newLine (level : ℕ) (s : Str) : EndsNumber (newLine level ++ s) := by
  intro c hc
  obtain rfl : (.scalar '\n') = c := by simpa [newLine] using hc
  decide

/-- A number ends in front of a comma. -/
theorem endsNumber_comma (s : Str) : EndsNumber (.scalar ',' :: s) := by
  intro c hc
  obtain rfl : (.scalar ',') = c := by simpa using hc
  decide

/-- What is written for an array with items. -/
theorem writeValue_array_cons (level : ℕ) (v : Value) (items : List Value) :
    writeValue level (.array (v :: items)) =
      .scalar '[' :: (joinParts (level + 1) (writeItems (level + 1) (v :: items)) ++
        (newLine level ++ [.scalar ']'])) := by
  simp [writeValue]

/-- What is written for an object with members. -/
theorem writeValue_object_cons (level : ℕ) (m : Str × Value) (members : Members) :
    writeValue level (.object (m :: members)) =
      .scalar '\x7b' :: (joinParts (level + 1) (writeMembers (level + 1) (m :: members)) ++
        (newLine level ++ [.scalar '\x7d'])) := by
  simp [writeValue]

/-- What is written for a value starts with a code point that neither is skipped nor closes an
array. -/
theorem Plain.exists_writeValue_eq_cons {v : Value} (hv : Plain v) (level : ℕ) :
    ∃ c s, writeValue level v = c :: s ∧ isSpace c = false ∧ c ≠ .scalar ']' := by
  cases hv with
  | null => exact ⟨.scalar 'n', _, rfl, by decide⟩
  | bool b =>
    cases b
    · exact ⟨.scalar 'f', _, rfl, by decide⟩
    · exact ⟨.scalar 't', _, rfl, by decide⟩
  | @int n _ =>
    obtain ⟨c, s, hinteger, hc⟩ := exists_writeInteger_eq_cons n
    refine ⟨c, s, by rw [writeValue, hinteger], ?_⟩
    rcases hc with rfl | hc
    · decide
    · have hne {d : Point} (hd : isDigit d = false) : c ≠ d := by
        rintro rfl
        simp [hd] at hc
      have hspace : isSpace c = false := by
        simp [isSpace, hne (d := .scalar ' ') (by decide), hne (d := .scalar '\t') (by decide),
          hne (d := .scalar '\n') (by decide), hne (d := .scalar '\r') (by decide)]
      exact ⟨hspace, hne (by decide)⟩
  | string s => exact ⟨.scalar '"', _, by rw [writeValue, writeString, List.cons_append], by decide⟩
  | @array items _ =>
    cases items with
    | nil => exact ⟨.scalar '[', [.scalar ']'], by rw [writeValue]; rfl, by decide⟩
    | cons v items => exact ⟨.scalar '[', _, writeValue_array_cons level v items, by decide⟩
  | @object members _ _ =>
    cases members with
    | nil => exact ⟨.scalar '\x7b', [.scalar '\x7d'], by rw [writeValue]; rfl, by decide⟩
    | cons m members => exact ⟨.scalar '\x7b', _, writeValue_object_cons level m members, by decide⟩

/-! ### The steps of the reader -/

section Steps

variable {fuel : ℕ} {s rest after : Str} {v : Value}

/-- What starts with no quote, bracket or brace is a scalar. -/
theorem readValue_scalar {c : Point} (hquote : c ≠ .scalar '"') (hbracket : c ≠ .scalar '[')
    (hbrace : c ≠ .scalar '\x7b') :
    readValue (fuel + 1) (c :: s) = readScalar (c :: s) := by
  rw [readValue] <;> simp_all

/-- A word is read as its value. -/
theorem readValue_literal {word : String} (hmem : (word, v) ∈ literals) :
    readValue (fuel + 1) (word ++ rest) = .ok (v, rest) := by
  have hscalar : readValue (fuel + 1) (word ++ rest) = readScalar (word ++ rest) := by
    simp only [literals, List.mem_cons, List.not_mem_nil, or_false, Prod.mk.injEq] at hmem
    rcases hmem with ⟨rfl, rfl⟩ | ⟨rfl, rfl⟩ | ⟨rfl, rfl⟩ | ⟨rfl, rfl⟩ | ⟨rfl, rfl⟩ | ⟨rfl, rfl⟩ <;>
      exact readValue_scalar (by decide) (by decide) (by decide)
  simp only [hscalar, readScalar, readLiteral?_append hmem]

/-- An array is read from its items. -/
theorem readValue_array {items : List Value} (hopen : ∀ t, skipSpace s ≠ .scalar ']' :: t)
    (hitems : readItems fuel (skipSpace s) = .ok (items, rest)) :
    readValue (fuel + 1) (.scalar '[' :: s) = .ok (.array items, rest) := by
  simp only [readValue]
  rw [hitems]
  rfl

/-- An object is read from its members. -/
theorem readValue_object {members : Members} (hopen : ∀ t, skipSpace s ≠ .scalar '\x7d' :: t)
    (hmembers : readMembers fuel (skipSpace s) = .ok (members, rest)) :
    readValue (fuel + 1) (.scalar '\x7b' :: s) = .ok (ofMembers members, rest) := by
  simp only [readValue]
  rw [hmembers]
  rfl

/-- The last item is followed by a bracket. -/
theorem readItems_last (hvalue : readValue fuel s = .ok (v, after))
    (hclose : skipSpace after = .scalar ']' :: rest) :
    readItems (fuel + 1) s = .ok ([v], rest) := by
  simp only [readItems, hvalue, bind, Except.bind, hclose]
  rfl

/-- Any other item is followed by a comma and more items. -/
theorem readItems_next {t : Str} {items : List Value}
    (hvalue : readValue fuel s = .ok (v, after)) (hcomma : skipSpace after = .scalar ',' :: t)
    (hitems : readItems fuel (skipSpace t) = .ok (items, rest)) :
    readItems (fuel + 1) s = .ok (v :: items, rest) := by
  simp only [readItems, hvalue, bind, Except.bind, hcomma, hitems]
  rfl

variable {name : Str} {t u : Str} (hname : readQuoted s = .ok (name, t))
  (hcolon : skipSpace t = .scalar ':' :: u) (hvalue : readValue fuel (skipSpace u) = .ok (v, after))

include hname hcolon hvalue

/-- The last member is followed by a brace. -/
theorem readMembers_last (hclose : skipSpace after = .scalar '\x7d' :: rest) :
    readMembers (fuel + 1) (.scalar '"' :: s) = .ok ([(name, v)], rest) := by
  simp only [readMembers, hname, bind, Except.bind, hcolon, hvalue, hclose]
  rfl

/-- Any other member is followed by a comma and more members. -/
theorem readMembers_next {w : Str} {members : Members}
    (hcomma : skipSpace after = .scalar ',' :: w)
    (hmembers : readMembers fuel (skipSpace w) = .ok (members, rest)) :
    readMembers (fuel + 1) (.scalar '"' :: s) = .ok ((name, v) :: members, rest) := by
  simp only [readMembers, hname, bind, Except.bind, hcolon, hvalue, hcomma, hmembers]
  rfl

end Steps

/-! ### Items and members -/

/-- A reader of parts takes the part `a` from what is written for it: in one step, as the last part
in front of the closing character or as one in front of a comma and more parts. -/
structure TakesPart {α : Type} (read : ℕ → Str → Except Fault (List α × Str))
    (close : Point) (text : Str) (a : α) : Prop where
  /-- The text of the part is not skipped. -/
  skip : ∀ s, skipSpace (text ++ s) = text ++ s
  /-- The text of the part does not start with the closing character. -/
  opens : ∀ s t, text ++ s ≠ close :: t
  /-- The part is the last one. -/
  last : ∀ fuel s rest, 2 * text.length ≤ fuel → EndsNumber s → skipSpace s = close :: rest →
    read (fuel + 1) (text ++ s) = .ok ([a], rest)
  /-- More parts follow. -/
  next : ∀ fuel s rest as, 2 * text.length ≤ fuel → read fuel (skipSpace s) = .ok (as, rest) →
    read (fuel + 1) (text ++ .scalar ',' :: s) = .ok (a :: as, rest)

section Parts

variable {α : Type} {read : ℕ → Str → Except Fault (List α × Str)} {close : Point}
  {write : α → Str}

/-- After the white space in front of them, parts do not start with the closing character. -/
theorem TakesPart.skipSpace_joinParts_ne {a : α} (ha : TakesPart read close (write a) a)
    (parts : List α) (level : ℕ) (s t : Str) :
    skipSpace (joinParts level ((a :: parts).map write) ++ s) ≠ close :: t := by
  cases parts with
  | nil =>
    simp only [List.map_cons, List.map_nil, joinParts, List.append_assoc]
    rw [skipSpace_newLine, ha.skip]
    exact ha.opens _ t
  | cons b parts =>
    simp only [List.map_cons, joinParts, List.append_assoc]
    rw [skipSpace_newLine, ha.skip]
    exact ha.opens _ t

/-- Parts that a reader takes one by one are read together from their lines. The induction is on
the parts; a step is left for each of them, for its line has more than one code point. -/
theorem read_joinParts {parts : List α} (hclose : isSpace close = false)
    (hparts : ∀ a ∈ parts, TakesPart read close (write a) a) (hne : parts ≠ [])
    (level outer : ℕ) {fuel : ℕ} (hfuel : 2 * (joinParts level (parts.map write)).length ≤ fuel)
    (rest : Str) :
    read fuel (skipSpace (joinParts level (parts.map write) ++ (newLine outer ++ close :: rest))) =
      .ok (parts, rest) := by
  induction parts generalizing fuel with
  | nil => exact absurd rfl hne
  | cons a parts ih =>
    have ha := hparts a (by simp)
    cases parts with
    | nil =>
      have hjoin : joinParts level ([a].map write) = newLine level ++ write a := rfl
      rw [hjoin, List.length_append, length_newLine] at hfuel
      obtain ⟨fuel, rfl⟩ : ∃ k, fuel = k + 1 := ⟨fuel - 1, by omega⟩
      rw [hjoin, List.append_assoc, skipSpace_newLine, ha.skip]
      refine ha.last fuel _ rest (by omega) (endsNumber_newLine outer _) ?_
      rw [skipSpace_newLine, skipSpace_cons hclose]
    | cons b parts =>
      have hjoin : joinParts level ((a :: b :: parts).map write) =
          newLine level ++
            (write a ++ .scalar ',' :: joinParts level ((b :: parts).map write)) := by
        simp [joinParts]
      rw [hjoin, List.length_append, List.length_append, List.length_cons, length_newLine] at hfuel
      obtain ⟨fuel, rfl⟩ : ∃ k, fuel = k + 1 := ⟨fuel - 1, by omega⟩
      rw [hjoin, List.append_assoc, List.append_assoc, List.cons_append, skipSpace_newLine, ha.skip]
      refine ha.next fuel _ rest _ (by omega) ?_
      exact ih (fun c hc => hparts c (by simp [hc])) (by simp) (by omega)

end Parts

/-- What is written for a value is not skipped. -/
theorem Plain.skipSpace_writeValue {v : Value} (hv : Plain v) (level : ℕ) (rest : Str) :
    skipSpace (writeValue level v ++ rest) = writeValue level v ++ rest := by
  obtain ⟨c, s, hcons, hspace, _⟩ := hv.exists_writeValue_eq_cons level
  rw [hcons, List.cons_append, skipSpace_cons hspace]

/-- An item that is read back is taken by the reader of items. -/
theorem ReadBack.takesPart_item {v : Value} (hread : ReadBack v) (hv : Plain v) (level : ℕ) :
    TakesPart readItems (.scalar ']') (writeValue level v) v := by
  refine ⟨hv.skipSpace_writeValue level, fun s t heq => ?_,
    fun fuel s rest hfuel hs hclose => ?_, fun fuel s rest items hfuel hitems => ?_⟩
  · obtain ⟨c, _, hcons, _, hne⟩ := hv.exists_writeValue_eq_cons level
    rw [hcons, List.cons_append, List.cons.injEq] at heq
    exact hne heq.1
  · exact readItems_last (hread level fuel s hfuel hs) hclose
  · exact readItems_next (hread level fuel _ hfuel (endsNumber_comma s))
      (skipSpace_cons (by decide) s) hitems

/-- What is written for a member. -/
def writeMember (level : ℕ) (m : Str × Value) : Str :=
  writeString m.1 ++ [.scalar ':', .scalar ' '] ++ writeValue level m.2

/-- What is written for a member starts with the quote of its name, and its value follows a colon
and a blank. -/
theorem writeMember_append (level : ℕ) (m : Str × Value) (s : Str) :
    writeMember level m ++ s = .scalar '"' :: (m.1.flatMap escapePoint ++
      .scalar '"' :: .scalar ':' :: .scalar ' ' :: (writeValue level m.2 ++ s)) := by
  simp [writeMember, writeString]

/-- A member whose value is read back is taken by the reader of members. -/
theorem ReadBack.takesPart_member {m : Str × Value} (hread : ReadBack m.2) (hv : Plain m.2)
    (level : ℕ) : TakesPart readMembers (.scalar '\x7d') (writeMember level m) m := by
  have hcolon (s : Str) : skipSpace (.scalar ':' :: s) = .scalar ':' :: s :=
    skipSpace_cons (by decide) s
  have hvalue {fuel : ℕ} {s : Str} (hfuel : 2 * (writeMember level m).length ≤ fuel)
      (hs : EndsNumber s) :
      readValue fuel (skipSpace (.scalar ' ' :: (writeValue level m.2 ++ s))) = .ok (m.2, s) := by
    have hblank :
        skipSpace (.scalar ' ' :: (writeValue level m.2 ++ s)) = writeValue level m.2 ++ s :=
      hv.skipSpace_writeValue level s
    have hlength : (writeValue level m.2).length ≤ (writeMember level m).length := by
      simp only [writeMember, List.length_append]
      omega
    rw [hblank]
    exact hread level fuel s (by omega) hs
  refine ⟨fun s => ?_, fun s t heq => ?_, fun fuel s rest hfuel hs hclose => ?_,
    fun fuel s rest members hfuel hmembers => ?_⟩
  · rw [writeMember_append]
    exact skipSpace_cons (by decide) _
  · rw [writeMember_append, List.cons.injEq] at heq
    exact absurd heq.1 (by decide)
  · rw [writeMember_append]
    exact readMembers_last (readQuoted_flatMap_escapePoint m.1 _) (hcolon _) (hvalue hfuel hs)
      hclose
  · rw [writeMember_append]
    exact readMembers_next (readQuoted_flatMap_escapePoint m.1 _) (hcolon _)
      (hvalue hfuel (endsNumber_comma s)) (skipSpace_cons (by decide) s) hmembers

/-- The items of an array are written one by one. -/
theorem writeItems_eq_map (level : ℕ) (items : List Value) :
    writeItems level items = items.map (writeValue level) := by
  induction items with
  | nil => rfl
  | cons v items ih => rw [writeItems, ih, List.map_cons]

/-- The members of an object are written one by one. -/
theorem writeMembers_eq_map (level : ℕ) (members : Members) :
    writeMembers level members = members.map (writeMember level) := by
  induction members with
  | nil => rfl
  | cons m members ih =>
    rw [writeMembers, ih, List.map_cons, writeMember]
    rfl

/-! ### Objects with distinct names -/

/-- A member with a new name is set at the end. -/
theorem setMember_of_not_mem {name : Str} {members : Members}
    (hnew : name ∉ members.map Prod.fst) (value : Value) :
    setMember name value members = members ++ [(name, value)] := by
  induction members with
  | nil => rfl
  | cons m members ih =>
    obtain ⟨other, old⟩ := m
    simp only [List.map_cons, List.mem_cons, not_or] at hnew
    rw [setMember, if_neg (Ne.symm hnew.1), ih hnew.2, List.cons_append]

/-- Setting members with new and distinct names, from first to last, puts them at the end. -/
theorem foldl_setMember (before after : Members)
    (hnames : ((before ++ after).map Prod.fst).Nodup) :
    after.foldl (fun acc (name, value) => setMember name value acc) before = before ++ after := by
  induction after generalizing before with
  | nil => simp
  | cons m after ih =>
    obtain ⟨name, value⟩ := m
    have hnew : name ∉ before.map Prod.fst := by
      rw [List.map_append, List.map_cons, List.nodup_append] at hnames
      intro hmem
      exact hnames.2.2 name hmem name (by simp) rfl
    rw [List.foldl_cons]
    simp only [setMember_of_not_mem hnew value]
    rw [ih _ (by simpa using hnames), List.append_assoc, List.singleton_append]

/-- Members with distinct names make the object that has them. -/
theorem ofMembers_of_nodup {members : Members} (hnames : (members.map Prod.fst).Nodup) :
    ofMembers members = .object members := by
  rw [ofMembers, foldl_setMember [] members hnames, List.nil_append]

/-! ### Values -/

/-- Something is written for every value, so the reader has a step for it. -/
theorem Plain.readBack_of_succ {v : Value} (hv : Plain v)
    (hstep : ∀ level fuel rest, 2 * (writeValue level v).length ≤ fuel + 1 → EndsNumber rest →
      readValue (fuel + 1) (writeValue level v ++ rest) = .ok (v, rest)) : ReadBack v := by
  intro level fuel rest hfuel hrest
  obtain ⟨c, s, hcons, _⟩ := hv.exists_writeValue_eq_cons level
  have hpos : 0 < (writeValue level v).length := by simp [hcons]
  obtain ⟨fuel, rfl⟩ : ∃ k, fuel = k + 1 := ⟨fuel - 1, by omega⟩
  exact hstep level fuel rest hfuel hrest

/-- A string is read back. -/
theorem readBack_string (s : Str) : ReadBack (.string s) := by
  refine (Plain.string s).readBack_of_succ fun level fuel rest _ _ => ?_
  have hread := readQuoted_flatMap_escapePoint s rest
  simp [writeValue, writeString, readValue, hread, bind, Except.bind, pure, Except.pure]

/-- An integer that is not too long is read back. -/
theorem readBack_int {n : ℤ} (hn : n.natAbs < 10 ^ Text.digitLimit) : ReadBack (.int n) := by
  refine (Plain.int hn).readBack_of_succ fun level fuel rest _ hrest => ?_
  obtain ⟨c, s, hinteger, hc⟩ := exists_writeInteger_eq_cons n
  have hne {d : Point} (hminus : d ≠ .scalar '-') (hd : isDigit d = false) : c ≠ d := by
    rintro rfl
    rcases hc with rfl | hc
    · exact hminus rfl
    · simp [hd] at hc
  have hread := readScalar_writeInteger hn hrest
  rw [hinteger, List.cons_append] at hread
  rw [writeValue, hinteger, List.cons_append, readValue_scalar (hne (by decide) (by decide))
    (hne (by decide) (by decide)) (hne (by decide) (by decide))]
  exact hread

/-- An array of plain values that are read back is read back. -/
theorem readBack_array {items : List Value} (hplain : ∀ v ∈ items, Plain v)
    (hitems : ∀ v ∈ items, ReadBack v) : ReadBack (.array items) := by
  refine (Plain.array hplain).readBack_of_succ fun level fuel rest hfuel _ => ?_
  cases items with
  | nil => simp [writeValue, Str.ofString, readValue, skipSpace, isSpace]
  | cons v items =>
    have htakes : ∀ w ∈ v :: items,
        TakesPart readItems (.scalar ']') (writeValue (level + 1) w) w :=
      fun w hw => (hitems w hw).takesPart_item (hplain w hw) (level + 1)
    rw [writeValue_array_cons, writeItems_eq_map] at hfuel ⊢
    simp only [List.length_cons, List.length_append, length_newLine] at hfuel
    rw [List.cons_append, List.append_assoc, List.append_assoc, List.singleton_append]
    refine readValue_array ((htakes v (by simp)).skipSpace_joinParts_ne items _ _) ?_
    exact read_joinParts (by decide) htakes (by simp) (level + 1) level (by omega) rest

/-- An object with distinct names and plain values that are read back is read back. -/
theorem readBack_object {members : Members} (hnames : (members.map Prod.fst).Nodup)
    (hplain : ∀ m ∈ members, Plain m.2) (hmembers : ∀ m ∈ members, ReadBack m.2) :
    ReadBack (.object members) := by
  refine (Plain.object hnames hplain).readBack_of_succ fun level fuel rest hfuel _ => ?_
  cases members with
  | nil => simp [writeValue, Str.ofString, readValue, skipSpace, isSpace]
  | cons m members =>
    have htakes : ∀ n ∈ m :: members,
        TakesPart readMembers (.scalar '\x7d') (writeMember (level + 1) n) n :=
      fun n hn => (hmembers n hn).takesPart_member (hplain n hn) (level + 1)
    rw [writeValue_object_cons, writeMembers_eq_map] at hfuel ⊢
    simp only [List.length_cons, List.length_append, length_newLine] at hfuel
    rw [List.cons_append, List.append_assoc, List.append_assoc, List.singleton_append,
      ← ofMembers_of_nodup hnames]
    refine readValue_object ((htakes m (by simp)).skipSpace_joinParts_ne members _ _) ?_
    exact read_joinParts (by decide) htakes (by simp) (level + 1) level (by omega) rest

/-- Every plain value is read back. -/
theorem Plain.readBack {v : Value} (hv : Plain v) : ReadBack v := by
  induction hv with
  | null =>
    refine Plain.null.readBack_of_succ fun level fuel rest _ _ => ?_
    rw [writeValue]
    exact readValue_literal (by simp [literals])
  | bool b =>
    refine (Plain.bool b).readBack_of_succ fun level fuel rest _ _ => ?_
    rw [writeValue]
    cases b <;> exact readValue_literal (by simp [literals])
  | int hn => exact readBack_int hn
  | string s => exact readBack_string s
  | array hplain ih => exact readBack_array hplain ih
  | object hnames hplain ih => exact readBack_object hnames hplain ih

/-- The text of a plain value is read as that value. -/
theorem readText_render {v : Value} (hv : Plain v) : readText (render v) = .ok v := by
  have hskip := hv.skipSpace_writeValue 0 []
  have hread := hv.readBack 0 (2 * (writeValue 0 v).length + 2) [] (by omega) (by simp [EndsNumber])
  rw [List.append_nil] at hskip hread
  rw [render, readText, hskip, hread]
  rfl

end ProseCheck.Json
