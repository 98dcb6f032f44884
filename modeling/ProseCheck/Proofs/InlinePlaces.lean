import ProseCheck.Markdown.Parse
import ProseCheck.Proofs.BlockPlaces

/-!
# No headings inside a line

What stands on the lines of a block has no place of its own, and it needs none: the reader of a text
finds prose, breaks, code, images and HTML, and wraps them in links and emphasis, but never finds a
heading or a paragraph. So filling the wrappers of blocks with what their texts hold leaves all
headings and paragraphs where they are.
-/

namespace ProseCheck.Markdown

/-! ### Pieces -/

/-- A piece that is no heading or paragraph and holds none. Among no lines at all nothing has a
place, so `Placed 0` says just that. -/
def Piece.Plain : Piece → Prop
  | .leaf e => Placed 0 [e]
  | .text _ | .opening _ | .closing => True

/-- Prose has no place and needs none. -/
theorem placed_addText {es : List Element} (s : List Char) (hes : Placed 0 es) :
    Placed 0 (addText s es) := by
  fun_cases addText s es with
  | case1 start content children es =>
    obtain ⟨_, htail⟩ := placed_cons.mp hes
    exact placed_cons.mpr ⟨placed_mk_iff.mpr ⟨nofun, nofun⟩, htail⟩
  | case2 es => exact placed_cons.mpr ⟨placed_mk_iff.mpr ⟨nofun, nofun⟩, hes⟩

/-- Closing an element puts what was read inside it behind what was read before it. -/
theorem placed_close {done before : List Element} (type : String) (hdone : Placed 0 done)
    (hbefore : Placed 0 before) :
    Placed 0 (.mk (.other type) none "" done.reverse :: before) :=
  placed_cons.mpr ⟨placed_mk_iff.mpr ⟨nofun, fun _ => hdone.reverse⟩, hbefore⟩

/-- Plain pieces assemble to elements without headings and paragraphs. -/
theorem placed_assemble {ps : List Piece} {done : List Element}
    {stack : List (String × List Element)} (hps : ∀ p ∈ ps, p.Plain) (hdone : Placed 0 done)
    (hstack : ∀ opened ∈ stack, Placed 0 opened.2) : Placed 0 (assemble ps done stack) := by
  fun_induction assemble ps done stack with
  | case1 done => exact hdone.reverse
  | case2 done type before stack ih =>
    obtain ⟨hbefore, hstack⟩ := List.forall_mem_cons.mp hstack
    rw [List.unattach_reverse, List.unattach_attach] at ih
    exact ih hps (placed_close type hdone hbefore) hstack
  | case3 s ps done stack ih =>
    exact ih (List.forall_mem_cons.mp hps).2 (placed_addText s hdone) hstack
  | case4 e ps done stack ih =>
    obtain ⟨he, hps⟩ := List.forall_mem_cons.mp hps
    exact ih hps (placed_cons.mpr ⟨he, hdone⟩) hstack
  | case5 type ps done stack ih =>
    exact ih (List.forall_mem_cons.mp hps).2 placed_nil (List.forall_mem_cons.mpr ⟨hdone, hstack⟩)
  | case6 ps done ih => exact ih (List.forall_mem_cons.mp hps).2 hdone hstack
  | case7 ps done type before stack ih =>
    obtain ⟨hbefore, hstack⟩ := List.forall_mem_cons.mp hstack
    rw [List.unattach_reverse, List.unattach_attach] at ih
    exact ih (List.forall_mem_cons.mp hps).2 (placed_close type hdone hbefore) hstack

/-! ### The reader of a text -/

namespace Scan

/-- All pieces so far are plain. -/
def Plain (st : Scan) : Prop :=
  ∀ p ∈ st.pieces, p.Plain

variable {st : Scan}

/-- Finishing the text that has been collected keeps a scan plain. -/
theorem Plain.flush (hst : st.Plain) : st.flush.Plain := by
  unfold Scan.flush
  split
  · exact hst
  · intro p hp
    rcases Array.mem_push.mp hp with hp | rfl
    · exact hst p hp
    · trivial

/-- A plain piece keeps a scan plain. -/
theorem Plain.push (hst : st.Plain) {p : Piece} (hp : p.Plain) : (st.push p).Plain := by
  intro p' hp'
  rcases Array.mem_push.mp hp' with hp' | rfl
  · exact hst.flush p' hp'
  · exact hp

/-- A leaf that is no passage keeps a scan plain. -/
theorem Plain.pushLeaf (hst : st.Plain) {role : Role} (hrole : role.isPassage = false)
    (content : List Char) : (st.pushLeaf role content).Plain :=
  hst.push (placed_mk_iff.mpr ⟨by simp [hrole], fun _ => placed_nil⟩)

/-- Text keeps a scan plain. -/
theorem Plain.write (hst : st.Plain) (s : List Char) : (st.write s).Plain :=
  hst

/-- The end of a line keeps a scan plain. -/
theorem Plain.breakLine (hst : st.Plain) : st.breakLine.Plain := by
  unfold Scan.breakLine
  split
  · apply Plain.pushLeaf _ rfl
    exact hst
  · apply Plain.pushLeaf _ rfl
    exact hst
  · exact hst.pushLeaf rfl []

/-- Marks of emphasis keep a scan plain. -/
theorem Plain.pushMarks (hst : st.Plain) (c : Char) (width : ℕ) (opens closes : Bool)
    (count : ℕ) : (st.pushMarks c width opens closes count).Plain := by
  induction count generalizing st with
  | zero => exact hst
  | succ count ih =>
    apply ih
    exact hst.push trivial

/-- Replacing a piece by a plain one leaves all pieces plain. -/
theorem plain_setIfInBounds {pieces : Array Piece} {i : ℕ} {q : Piece}
    (hpieces : ∀ p ∈ pieces, p.Plain) (hq : q.Plain) :
    ∀ p ∈ pieces.setIfInBounds i q, p.Plain := by
  intro p hp
  rcases Array.mem_or_eq_of_mem_setIfInBounds hp with hp | rfl
  · exact hpieces p hp
  · exact hq

/-- The starts and ends of emphasis are plain pieces, and so are the empty texts that the second
marks of a strong emphasis leave. -/
theorem plain_emphasize {pieces : Array Piece} (e : Emphasis) (hpieces : ∀ p ∈ pieces, p.Plain) :
    ∀ p ∈ emphasize pieces e, p.Plain := by
  have hmarked (type : String) : ∀ p ∈ (pieces.setIfInBounds e.opening
      (.opening type)).setIfInBounds e.closing .closing, p.Plain :=
    plain_setIfInBounds (plain_setIfInBounds hpieces trivial) trivial
  unfold emphasize
  dsimp only
  split
  · exact plain_setIfInBounds (plain_setIfInBounds (hmarked _) trivial) trivial
  · exact hmarked _

/-- Pairing the marks of emphasis keeps a scan plain. -/
theorem Plain.closeMarks (hst : st.Plain) : st.closeMarks.Plain := by
  have hfold (es : List Emphasis) : ∀ p ∈ es.foldl emphasize st.pieces, p.Plain :=
    List.foldlRecOn es emphasize (motive := fun (pieces : Array Piece) => ∀ p ∈ pieces, p.Plain) hst
      fun pieces hpieces e _ => plain_emphasize e hpieces
  exact hfold _

end Scan

/-- A reader of texts that finds only plain pieces. -/
def InlineReader.KeepsPlain (read : InlineReader) : Prop :=
  ∀ stop pos st, st.Plain → (read stop pos st).Plain

section Reader

variable {src : InlineSource} {skip : Skipper} {inside : InlineReader}

/-- One piece more leaves all pieces plain. -/
theorem plain_readPiece (hinside : inside.KeepsPlain) {stop pos : ℕ} {st : Scan} {c : Char}
    (hst : st.Plain) : (readPiece src skip inside stop pos st c).2.Plain := by
  have hmemory (memory : Memory) : Scan.Plain { st with memory } := hst
  unfold readPiece
  dsimp only
  split
  · exact hst.breakLine
  · -- a backslash
    split
    · split
      · exact hst.write _
      split
      · exact hst.pushLeaf rfl []
      · exact hst.push trivial
    · exact hst.write _
  · -- backquotes
    split
    · exact (hmemory _).write _
    · exact (hmemory _).pushLeaf rfl _
  · exact hst.pushMarks _ _ _ _ _
  · exact hst.pushMarks _ _ _ _ _
  · -- a link, whose label is read with marks of its own
    split
    · rename_i span memory _
      have hopened := (hmemory memory).push (p := .opening "link") trivial
      have hlabel := (hinside span.labelStop span.labelStart { Scan.push _ _ with marks := #[] }
        hopened).closeMarks
      exact hlabel.push trivial
    · exact (hmemory _).write _
  · -- an image
    split
    · exact (hmemory _).pushLeaf rfl _
    · exact (hmemory _).write _
  · -- an automatic link or HTML
    split
    · rename_i text next _
      have hopened := (hst.push (p := .opening "link") trivial).push (p := .text text) trivial
      exact hopened.push trivial
    split
    · exact hst.pushLeaf rfl _
    · exact hst.write _
  · -- a character reference
    split
    · exact hst.push trivial
    · exact hst.write _
  · exact hst.write _

/-- Reading the pieces of a text keeps a scan plain, whatever is read at each place. -/
theorem plain_readPieces (hinside : inside.KeepsPlain) {stop fuel pos : ℕ} {st : Scan}
    (hst : st.Plain) : (readPieces src skip inside stop fuel pos st).Plain := by
  fun_induction readPieces src skip inside stop fuel pos st with
  | case1 | case2 | case3 => exact hst.flush
  | case4 fuel pos st _ c _ next st' hread ih =>
    apply ih
    have hpiece : (readPiece src skip inside stop pos st c).2.Plain := plain_readPiece hinside hst
    rwa [hread] at hpiece

/-- The reader of a text finds no headings and no paragraphs. -/
theorem keepsPlain_inlineReader (src : InlineSource) (depth : ℕ) :
    (inlineReader src depth).KeepsPlain := by
  induction depth with
  | zero => exact fun stop pos st hst => Scan.Plain.flush (hst.write _)
  | succ depth ih => exact fun stop pos st hst => plain_readPieces ih hst

end Reader

/-- The content of a block has no headings and no paragraphs. -/
theorem placed_inlineElements (depth : ℕ) (definitions : List Definition) (text : String) :
    Placed 0 (inlineElements depth definitions text) := by
  apply placed_assemble _ placed_nil (List.forall_mem_nil _)
  intro p hp
  refine (keepsPlain_inlineReader _ depth _ _ _ ?_).closeMarks p (Array.mem_toList_iff.mp hp)
  simp [Scan.Plain]

/-! ### The elements of a source -/

mutual

/-- Filling the wrappers in an element moves no heading and no paragraph. -/
theorem Element.placed_mapInline {count : ℕ} {read : String → List Element}
    (hread : ∀ text, Placed count (read text)) :
    (e : Element) → Placed count [e] → Placed count [e.mapInline read]
  | .mk role start content children, h => by
    rw [placed_mk_iff] at h
    unfold Element.mapInline
    split
    · exact placed_mk_iff.mpr ⟨nofun, fun _ => hread content⟩
    · exact placed_mk_iff.mpr ⟨h.1, fun hleaf => placed_mapInlineAll hread children (h.2 hleaf)⟩

/-- Filling the wrappers in elements moves no heading and no paragraph. -/
theorem placed_mapInlineAll {count : ℕ} {read : String → List Element}
    (hread : ∀ text, Placed count (read text)) :
    (es : List Element) → Placed count es → Placed count (mapInlineAll read es)
  | [], _ => placed_nil
  | e :: es, h => by
    obtain ⟨he, hes⟩ := placed_cons.mp h
    exact placed_cons.mpr ⟨e.placed_mapInline hread he, placed_mapInlineAll hread es hes⟩

end

/-- Every heading and every paragraph of a source starts on one of its lines. -/
theorem placed_sourceElements {source : String} {elements : List Element}
    (h : sourceElements source = .ok elements) :
    Placed (sourceLines source.toList).length elements := by
  unfold sourceElements at h
  cases hblocks : sourceBlocks source.toList with
  | error fault => simp [hblocks, Except.map] at h
  | ok blocks =>
    rw [hblocks] at h
    obtain rfl := Except.ok.inj h
    exact placed_mapInlineAll
      (fun text => (placed_inlineElements _ _ text).mono (Nat.zero_le _)) _
      (placed_sourceBlocks hblocks)

end ProseCheck.Markdown
