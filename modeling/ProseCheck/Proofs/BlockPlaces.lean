import ProseCheck.Markdown.Block
import ProseCheck.Proofs.ElementDocument
import Mathlib.Data.Option.Basic

/-!
# The places of blocks

A block starts on the line on which its reader stands. The lines that a reader is given, and those
that it gives to the reader of a quotation or of a list item, are lines of the source with their
numbers, whatever markers are cut off them. So every heading and every paragraph that the reader of
a source finds has a place, and its line is a line of the source.
-/

namespace ProseCheck.Markdown

/-! ### Elements with a place -/

/-- Whether an element of this role is a heading or a paragraph. -/
def Role.isPassage : Role → Bool
  | .heading _ | .paragraph => true
  | _ => false

/-- Every heading and every paragraph that can be seen starts on one of the first `count` lines. -/
def Placed (count : ℕ) (es : List Element) : Prop :=
  ∀ e ∈ visibleAll es, e.role.isPassage = true → ∃ a < count, e.start = some a

section Placed

variable {count : ℕ} {es es' : List Element}

/-- Without elements nothing is out of place. -/
@[simp]
theorem placed_nil : Placed count [] := by
  simp [Placed, visibleAll]

/-- Elements have their places if the first one and the others have. -/
theorem placed_cons {e : Element} :
    Placed count (e :: es) ↔ Placed count [e] ∧ Placed count es := by
  simp [Placed, visibleAll, or_imp, forall_and]

/-- Elements have their places if each of them alone has. -/
theorem placed_iff_forall_mem : Placed count es ↔ ∀ e ∈ es, Placed count [e] := by
  induction es with
  | nil => simp
  | cons e es ih => rw [placed_cons, ih, List.forall_mem_cons]

/-- Joined elements have their places if both lists have. -/
theorem placed_append : Placed count (es ++ es') ↔ Placed count es ∧ Placed count es' := by
  rw [placed_iff_forall_mem, List.forall_mem_append, ← placed_iff_forall_mem,
    ← placed_iff_forall_mem]

/-- The order of the elements does not matter for their places. -/
theorem Placed.reverse (h : Placed count es) : Placed count es.reverse := by
  rw [placed_iff_forall_mem] at h ⊢
  exact fun e he => h e (List.mem_reverse.mp he)

/-- A place among some lines is one among more lines. -/
theorem Placed.mono {count' : ℕ} (h : Placed count es) (hle : count ≤ count') :
    Placed count' es := by
  intro e he hpassage
  obtain ⟨a, ha, hstart⟩ := h e he hpassage
  exact ⟨a, by omega, hstart⟩

/-- What can be seen in an element is the element itself and, if it is no leaf, what can be seen
inside it. -/
theorem placed_mk_iff {role : Role} {start : Option ℕ} {content : String} :
    Placed count [.mk role start content es] ↔
      (role.isPassage = true → ∃ a < count, start = some a) ∧
        (role.isLeaf = false → Placed count es) := by
  cases hleaf : role.isLeaf <;>
    simp [Placed, visibleAll, Element.visible, hleaf, Element.role, Element.start]

/-- A block that starts on one of the lines has a place, and so has what is inside it. -/
theorem placed_block {role : Role} {start : ℕ} {content : String} (hstart : start < count)
    (hes : Placed count es) : Placed count [.mk role (some start) content es] :=
  placed_mk_iff.mpr ⟨fun _ => ⟨start, hstart, rfl⟩, fun _ => hes⟩

end Placed

/-! ### Lines with their numbers -/

/-- All lines are among the first `count` ones. -/
def Within (count : ℕ) (ls : List Line) : Prop :=
  ∀ l ∈ ls, l.number < count

section Within

variable {count : ℕ} {l : Line} {ls : List Line}

/-- Lines are within a count if the first one and the others are. -/
theorem within_cons : Within count (l :: ls) ↔ l.number < count ∧ Within count ls :=
  List.forall_mem_cons

/-- Lines stay within a count when the first ones are dropped. -/
theorem Within.drop (h : Within count ls) (used : ℕ) : Within count (ls.drop used) :=
  fun l hl => h l (List.mem_of_mem_drop hl)

/-- Lines stay within a count when some at the front are dropped. -/
theorem Within.dropWhile (h : Within count ls) (p : Line → Bool) :
    Within count (ls.dropWhile p) :=
  fun l hl => h l ((List.dropWhile_suffix p).subset hl)

/-- A line keeps its number without the marker of a quotation. -/
@[simp]
theorem Line.number_unquote (l : Line) : l.unquote.number = l.number :=
  rfl

/-- A line keeps its number with the marker of a list item counted as indentation. -/
@[simp]
theorem Line.number_enterItem (l : Line) (m : ListMarker) : (l.enterItem m).1.number = l.number :=
  rfl

/-- The lines of a quotation are lines around it. -/
theorem Within.quotedLines (ctx : Context) (lastEmpty : Bool) (h : Within count ls) :
    Within count (quotedLines ctx lastEmpty ls) := by
  fun_induction Markdown.quotedLines ctx lastEmpty ls with
  | case1 => exact h
  | case2 => exact List.forall_mem_nil _
  | case3 lastEmpty l ls _ _ inner ih =>
    obtain ⟨hl, hls⟩ := within_cons.mp h
    exact within_cons.mpr ⟨by rwa [Line.number_unquote], ih hls⟩
  | case4 => exact List.forall_mem_nil _
  | case5 lastEmpty l ls _ _ _ ih =>
    obtain ⟨hl, hls⟩ := within_cons.mp h
    exact within_cons.mpr ⟨hl, ih hls⟩

/-- The lines of a source are numbered in turn. -/
theorem within_numberLines (number : ℕ) (parts : List (List Char)) :
    Within (number + (numberLines number parts).length) (numberLines number parts) := by
  fun_induction numberLines number parts with
  | case1 => exact List.forall_mem_nil _
  | case2 => exact List.forall_mem_nil _
  | case3 number s _ =>
    rw [within_cons]
    exact ⟨by simp [Line.ofChars], List.forall_mem_nil _⟩
  | case4 number s ss _ ih =>
    rw [within_cons, List.length_cons]
    refine ⟨by simp [Line.ofChars], fun l hl => ?_⟩
    have hl := ih l hl
    omega

end Within

/-! ### What a reader finds -/

/-- The blocks that a reader found have their places among the first `count` lines, and so have the
lines that it leaves. -/
structure Blocks.Placed (count : ℕ) (blocks : Blocks) : Prop where
  elements : Markdown.Placed count blocks.elements
  rest : Within count blocks.rest

/-- Among lines with their numbers a reader finds only blocks with a place. -/
def BlockReader.FindsPlaced (count : ℕ) (read : BlockReader) : Prop :=
  ∀ ctx lines blocks, Within count lines → read ctx lines = .ok blocks → blocks.Placed count

/-- A computation that succeeds has succeeded in its first part. -/
private theorem exists_of_bind_eq_ok {ε α β : Type} {x : Except ε α} {f : α → Except ε β} {b : β}
    (h : x >>= f = .ok b) : ∃ a, x = .ok a ∧ f a = .ok b := by
  cases x with
  | error e => cases h
  | ok a => exact ⟨a, rfl, h⟩

section Reader

variable {count : ℕ} {readQuote readItem : BlockReader} {ctx : Context} {l : Line} {ls : List Line}
  {blocks : Blocks}

/-- A single block that starts on the line of its reader. -/
theorem Blocks.placed_found {role : Role} {content : String} {children : List Element} {used : ℕ}
    (hlines : Within count (l :: ls)) (hchildren : Markdown.Placed count children) :
    Blocks.Placed count ⟨[.mk role (some l.number) content children], [], ls.drop used⟩ := by
  obtain ⟨hl, hls⟩ := within_cons.mp hlines
  exact ⟨placed_block hl hchildren, hls.drop used⟩

/-- A heading or a paragraph with its text in a wrapper. -/
theorem Blocks.placed_textBlock {role : Role} {text : String} {used : ℕ}
    (hlines : Within count (l :: ls)) :
    Blocks.Placed count ⟨[textBlock role l.number text], [], ls.drop used⟩ :=
  Blocks.placed_found hlines (placed_block (within_cons.mp hlines).1 placed_nil)

/-- Blocks that are made from a text have their places if they have them whatever the text is. -/
theorem Blocks.placed_of_text {text? : Except Fault String} {found : String → Blocks}
    (h : (text? >>= fun text => pure (found text)) = .ok blocks)
    (hfound : ∀ text, (found text).Placed count) : blocks.Placed count := by
  obtain ⟨text, _, h⟩ := exists_of_bind_eq_ok h
  obtain rfl := Except.ok.inj h
  exact hfound text

/-- The items of a list have their places if their reader finds only blocks with one. -/
theorem placed_listItems (hitem : readItem.FindsPlaced count) {fuel : ℕ} {m : ListMarker}
    (hlines : Within count ls) (h : listItems readItem ctx fuel m ls = .ok blocks) :
    blocks.Placed count := by
  induction fuel generalizing m ls blocks with
  | zero =>
    obtain rfl := Except.ok.inj h
    exact ⟨placed_nil, hlines⟩
  | succ fuel ih =>
    cases ls with
    | nil =>
      obtain rfl := Except.ok.inj h
      exact ⟨placed_nil, hlines⟩
    | cons l ls =>
      obtain ⟨hl, hls⟩ := within_cons.mp hlines
      rw [listItems] at h
      extract_lets finish at h
      -- What comes after an item is the same however the item was read.
      have hfinish (item : Blocks) (helements : Placed count item.elements)
          (h : finish item = .ok blocks) : blocks.Placed count := by
        have helement : Placed count [.mk (.other "list_item") (some l.number) "" item.elements] :=
          placed_block hl helements
        simp only [finish] at h
        split at h
        · obtain rfl := Except.ok.inj h
          exact ⟨helement, hls.drop _⟩
        · obtain ⟨more, hmore, h⟩ := exists_of_bind_eq_ok h
          obtain rfl := Except.ok.inj h
          have hmore := ih (hls.drop _) hmore
          exact ⟨placed_cons.mpr ⟨helement, hmore.elements⟩, hmore.rest⟩
      split at h
      rename_i inner indent hentered
      have hinner : inner.number = l.number := by rw [← Line.number_enterItem l m, hentered]
      split at h
      · obtain ⟨item, hread, h⟩ := exists_of_bind_eq_ok h
        obtain rfl := Except.ok.inj hread
        exact hfinish _ placed_nil h
      · obtain ⟨item, hread, h⟩ := exists_of_bind_eq_ok h
        have hlines : Within count (inner :: ls) := within_cons.mpr ⟨by rwa [hinner], hls⟩
        exact hfinish item (hitem _ _ _ hlines hread).elements h

/-- The block that starts in a line has its place there. -/
theorem placed_readBlock (hquote : readQuote.FindsPlaced count) (hitem : readItem.FindsPlaced count)
    (hlines : Within count (l :: ls)) (h : readBlock readQuote readItem ctx l ls = .ok blocks) :
    blocks.Placed count := by
  obtain ⟨hl, hls⟩ := within_cons.mp hlines
  unfold readBlock at h
  dsimp only at h
  split at h
  · -- indented code
    exact Blocks.placed_of_text h fun text => Blocks.placed_found hlines placed_nil
  split at h
  · -- a fence
    exact Blocks.placed_of_text h fun text => Blocks.placed_found hlines placed_nil
  split at h
  · -- a quotation
    obtain ⟨inner, hinner, h⟩ := exists_of_bind_eq_ok h
    obtain rfl := Except.ok.inj h
    have hquoted : Within count (l.unquote :: quotedLines ctx l.unquote.isEmpty ls) :=
      within_cons.mpr ⟨by rwa [Line.number_unquote], hls.quotedLines ctx _⟩
    exact ⟨placed_block hl (hquote _ _ _ hquoted hinner).elements, hlines.drop _⟩
  split at h
  · -- a thematic break
    obtain rfl := Except.ok.inj h
    exact Blocks.placed_found hlines placed_nil
  split at h
  · -- a list
    obtain ⟨items, hitems, h⟩ := exists_of_bind_eq_ok h
    obtain rfl := Except.ok.inj h
    have hitems := placed_listItems hitem hlines hitems
    exact ⟨placed_block hl hitems.elements, hitems.rest⟩
  split at h
  · -- a definition
    obtain rfl := Except.ok.inj h
    exact ⟨placed_nil, hls.drop _⟩
  split at h
  · -- HTML
    exact Blocks.placed_of_text h fun text => Blocks.placed_found hlines placed_nil
  split at h
  · -- a heading
    obtain rfl := Except.ok.inj h
    exact Blocks.placed_textBlock hlines
  split at h
  · -- an underlined heading
    exact Blocks.placed_of_text h fun text => Blocks.placed_textBlock hlines
  · -- a paragraph
    exact Blocks.placed_of_text h fun text => Blocks.placed_textBlock hlines

/-- The blocks in lines have their places if the readers inside them find only blocks with one. -/
theorem placed_readBlocks (hquote : readQuote.FindsPlaced count)
    (hitem : readItem.FindsPlaced count) {fuel : ℕ} (hlines : Within count ls)
    (h : readBlocks readQuote readItem ctx fuel ls = .ok blocks) : blocks.Placed count := by
  induction fuel generalizing ls blocks with
  | zero =>
    obtain rfl := Except.ok.inj h
    exact ⟨placed_nil, hlines⟩
  | succ fuel ih =>
    have hleft := hlines.dropWhile Line.isEmpty
    rw [readBlocks] at h
    split at h
    · obtain rfl := Except.ok.inj h
      exact ⟨placed_nil, List.forall_mem_nil _⟩
    rename_i l ls hcons
    rw [hcons] at hleft
    split at h
    · obtain rfl := Except.ok.inj h
      exact ⟨placed_nil, hleft⟩
    · obtain ⟨block, hblock, h⟩ := exists_of_bind_eq_ok h
      obtain ⟨more, hmore, h⟩ := exists_of_bind_eq_ok h
      obtain rfl := Except.ok.inj h
      have hblock := placed_readBlock hquote hitem hleft hblock
      have hmore := ih hblock.rest hmore
      exact ⟨placed_append.mpr ⟨hblock.elements, hmore.elements⟩, hmore.rest⟩

end Reader

/-- What is nested too deep is passed over. -/
theorem findsPlaced_passOver (count : ℕ) : BlockReader.FindsPlaced count passOver := by
  intro ctx lines blocks hlines h
  have hleft := hlines.dropWhile Line.isEmpty
  unfold passOver at h
  split at h
  · obtain rfl := Except.ok.inj h
    exact ⟨placed_nil, List.forall_mem_nil _⟩
  · rename_i l ls hcons
    rw [hcons] at hleft
    obtain rfl := Except.ok.inj h
    refine ⟨placed_nil, ?_⟩
    dsimp only
    split
    · exact hleft
    · exact List.forall_mem_nil _

/-- The reader of blocks finds only blocks with a place, however deep containers may nest. -/
theorem findsPlaced_blockReader (count depth : ℕ) : (blockReader depth).FindsPlaced count := by
  -- A quotation is read one level deeper, a list item two levels.
  fun_induction blockReader depth with
  | case1 => exact findsPlaced_passOver count
  | case2 =>
    intro ctx lines blocks hlines h
    exact placed_readBlocks (findsPlaced_passOver count) (findsPlaced_passOver count) hlines h
  | case3 depth hquote hitem =>
    intro ctx lines blocks hlines h
    exact placed_readBlocks hquote hitem hlines h

/-- The blocks of a source have their places on its lines. -/
theorem placed_sourceBlocks {source : List Char} {blocks : Blocks}
    (h : sourceBlocks source = .ok blocks) :
    Placed (sourceLines source).length blocks.elements := by
  have hlines : Within (sourceLines source).length (sourceLines source) := by
    have hnumbered := within_numberLines 0 (splitLines (normalizeSource source))
    rwa [Nat.zero_add] at hnumbered
  exact (findsPlaced_blockReader _ maxNesting _ _ _ hlines h).elements

end ProseCheck.Markdown
