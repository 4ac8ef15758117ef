import FloatingPanels.Proofs.Markup.Words
import FloatingPanels.Markup.Fragment
import Mathlib.Data.List.Basic
/-!
# The words of a tree

What a tree shows are the words of its texts, in document order, but for those in hidden
elements. An inline element hands on the row it is in, and with it the words after the last
block in it; the rows before, which that block has ended, are lost. `words_textLines` says
so of every tree, and that the words of its rows are all its words exactly if nothing is
lost in this way.
-/

namespace FloatingPanels

theorem append_eq_append_iff_of_sublist {α : Type} {a a' b b' : List α} (ha : a'.Sublist a) (hb : b'.Sublist b) :
    a' ++ b' = a ++ b ↔ a' = a ∧ b' = b := by
  constructor
  · intro h
    have hlength := congrArg List.length h
    simp only [List.length_append] at hlength
    have hla := ha.length_le
    have hlb := hb.length_le
    exact ⟨ha.eq_of_length (by omega), hb.eq_of_length (by omega)⟩
  · rintro ⟨rfl, rfl⟩
    rfl

namespace Flow

/-- All words of a flow, in order. -/
def words (f : Flow) : List (List Char) := f.rows.flatten ++ f.row

theorem flatten_finish (f : Flow) : f.finish.flatten = f.words := by
  unfold finish
  split
  · rename_i h
    rw [words, List.isEmpty_iff.1 h, List.append_nil]
  · rw [words, List.flatten_concat]

theorem words_block (f g : Flow) : ( { rows := f.finish ++ g.finish } : Flow).words = f.words ++ g.words := by
  rw [words, List.append_nil, List.flatten_append, flatten_finish, flatten_finish]

theorem addLines_words (preformatted : Bool) (f : Flow) (lines : List (List Char)) :
    (f.addLines preformatted lines).words = f.words ++ lines.flatMap FloatingPanels.words := by
  fun_induction addLines preformatted f lines with
  | case1 f => rw [List.flatMap_nil, List.append_nil]
  | case2 f line => simp [words, addWords]
  | case3 f line lines hne f' ih =>
    rw [ih, List.flatMap_cons, ← List.append_assoc]
    congr 1
    cases preformatted <;> simp [f', words, addWords, endRow]

theorem addText_words (preformatted : Bool) (content : String) (f : Flow) :
    (f.addText preformatted content).words = f.words ++ FloatingPanels.words content.toList := by
  rw [addText, addLines_words, flatMap_words_lines]

/-- Outside of a `pre` element all of a text goes on the row. -/
theorem addLines_row (f : Flow) (lines : List (List Char)) :
    f.addLines false lines = f.addWords (lines.flatMap FloatingPanels.words) := by
  induction lines generalizing f with
  | nil => simp [addLines, addWords]
  | cons line lines ih =>
    cases lines with
    | nil => simp [addLines]
    | cons next lines =>
      rw [addLines, if_neg Bool.false_ne_true, ih, List.flatMap_cons]
      · simp [addWords]
      · simp

theorem addText_row (content : String) (f : Flow) :
    f.addText false content = f.addWords (FloatingPanels.words content.toList) := by
  rw [addText, addLines_row, flatMap_words_lines]

end Flow

namespace Nodes

/-- The words of the texts in document order, without those in hidden elements. -/
def visibleWords : Nodes → List (List Char)
  | nil => []
  | text content rest => words content.toList ++ rest.visibleWords
  | element _ attrs children rest => (if attrs.isHidden then [] else children.visibleWords) ++ rest.visibleWords

theorem isWord_of_mem_visibleWords {ns : Nodes} {w : List Char} (h : w ∈ ns.visibleWords) : IsWord w := by
  induction ns with
  | nil => cases h
  | text content rest ih =>
    rcases List.mem_append.1 h with h | h
    · exact isWord_of_mem_words h
    · exact ih h
  | element tag attrs children rest ihc ihr =>
    rcases List.mem_append.1 h with h | h
    · split at h
      · cases h
      · exact ihc h
    · exact ihr h

/-! ## Blocks -/

def isBlock (tag : String) (attrs : Attrs) : Bool := !attrs.isHidden && !Flow.inlineTags.contains tag

/-- Whether one of the nodes themselves is a block. -/
def hasBlock : Nodes → Bool
  | nil => false
  | text _ rest => rest.hasBlock
  | element tag attrs _ rest => isBlock tag attrs || rest.hasBlock

/-- The nodes up to the last block, and that block. -/
def toBlock : Nodes → Nodes
  | nil => nil
  | text content rest => if rest.hasBlock then text content rest.toBlock else nil
  | element tag attrs children rest =>
    if isBlock tag attrs || rest.hasBlock then element tag attrs children rest.toBlock else nil

/-- The nodes after the last block. -/
def afterBlock : Nodes → Nodes
  | nil => nil
  | text content rest => if rest.hasBlock then rest.afterBlock else text content rest
  | element tag attrs children rest =>
    if isBlock tag attrs || rest.hasBlock then rest.afterBlock else element tag attrs children rest

theorem afterBlock_of_not_hasBlock {ns : Nodes} (h : ns.hasBlock = false) : ns.afterBlock = ns := by
  cases ns with
  | nil => rfl
  | text content rest => rw [afterBlock, if_neg (by simpa [hasBlock] using h)]
  | element tag attrs children rest => rw [afterBlock, if_neg (by simpa [hasBlock] using h)]

theorem visibleWords_toBlock (ns : Nodes) :
    ns.toBlock.visibleWords ++ ns.afterBlock.visibleWords = ns.visibleWords := by
  induction ns with
  | nil => rfl
  | text content rest ih =>
    rw [toBlock, afterBlock]
    split
    · rw [visibleWords, List.append_assoc, ih, visibleWords]
    · rfl
  | element tag attrs children rest ihc ihr =>
    rw [toBlock, afterBlock]
    split
    · rw [visibleWords, List.append_assoc, ihr, visibleWords]
    · rfl

/-! ## What is kept -/

/-- The tree without what stands in an inline element before the end of the last block in it. -/
def kept : Nodes → Nodes
  | nil => nil
  | text content rest => text content rest.kept
  | element tag attrs children rest =>
    element tag attrs (if Flow.inlineTags.contains tag then children.kept.afterBlock else children.kept) rest.kept

theorem hasBlock_kept (ns : Nodes) : ns.kept.hasBlock = ns.hasBlock := by
  induction ns with
  | nil => rfl
  | text content rest ih => exact ih
  | element tag attrs children rest _ ih => rw [kept, hasBlock, hasBlock, ih]

theorem afterBlock_kept (ns : Nodes) : ns.kept.afterBlock = ns.afterBlock.kept := by
  induction ns with
  | nil => rfl
  | text content rest ih =>
    simp only [kept, afterBlock, hasBlock_kept]
    split
    · exact ih
    · rfl
  | element tag attrs children rest _ ih =>
    simp only [kept, afterBlock, hasBlock_kept]
    split
    · exact ih
    · rfl

theorem toBlock_kept (ns : Nodes) : ns.kept.toBlock = ns.toBlock.kept := by
  induction ns with
  | nil => rfl
  | text content rest ih =>
    simp only [kept, toBlock, hasBlock_kept, ih]
    split <;> rfl
  | element tag attrs children rest _ ih =>
    simp only [kept, toBlock, hasBlock_kept, ih]
    split <;> rfl

/-! ## Where the words go -/

section

variable {tag : String} {attrs : Attrs} (preformatted : Bool) (f : Flow) (children rest : Nodes)

theorem flow_hidden (ha : attrs.isHidden = true) :
    (element tag attrs children rest).flow preformatted f = rest.flow preformatted f := by
  rw [flow, ha]
  rfl

theorem ne_pre_of_inline (ht : Flow.inlineTags.contains tag = true) : decide (tag = "pre") = false := by
  refine decide_eq_false ?_
  rintro rfl
  exact absurd ht (by decide)

/-- Of an inline element only the row that goes on is used. -/
theorem flow_inline (ha : attrs.isHidden = false) (ht : Flow.inlineTags.contains tag = true) :
    (element tag attrs children rest).flow preformatted f =
      rest.flow preformatted (f.addWords (children.flow false {}).row) := by
  rw [flow, ha, ht, ne_pre_of_inline ht]
  rfl

end

/-- Outside of a `pre` element the row that goes on has the words after the last block. -/
theorem row_flow (f : Flow) (ns : Nodes) :
    (ns.flow false f).row = (if ns.hasBlock then [] else f.row) ++ ns.kept.afterBlock.visibleWords := by
  induction ns generalizing f with
  | nil => simp [flow, hasBlock, kept, afterBlock, visibleWords]
  | text content rest ih =>
    rw [flow, ih, Flow.addText_row, kept, afterBlock, hasBlock_kept, hasBlock]
    cases h : rest.hasBlock with
    | true => rfl
    | false => simp [afterBlock_of_not_hasBlock ((hasBlock_kept rest).trans h), Flow.addWords, visibleWords]
  | element tag attrs children rest ihc ihr =>
    rw [kept, afterBlock, hasBlock_kept, hasBlock, isBlock]
    have hrest : rest.hasBlock = false → rest.kept.afterBlock = rest.kept :=
      fun h => afterBlock_of_not_hasBlock ((hasBlock_kept rest).trans h)
    cases ha : attrs.isHidden with
    | true =>
      rw [flow_hidden _ _ _ _ ha, ihr]
      cases h : rest.hasBlock <;> simp [hrest, h, ha, visibleWords]
    | false =>
      cases ht : Flow.inlineTags.contains tag with
      | true =>
        rw [flow_inline _ _ _ _ ha ht, ihr, Flow.addWords, ihc]
        cases h : rest.hasBlock <;> simp [hrest, h, ha, visibleWords]
      | false =>
        rw [flow_block ha ht, ihr]
        simp

theorem words_flow (preformatted : Bool) (f : Flow) (ns : Nodes) :
    (ns.flow preformatted f).words = f.words ++ ns.kept.visibleWords := by
  induction ns generalizing preformatted f with
  | nil => simp [flow, kept, visibleWords]
  | text content rest ih => rw [flow, ih, Flow.addText_words, kept, visibleWords, List.append_assoc]
  | element tag attrs children rest ihc ihr =>
    rw [kept, visibleWords]
    cases ha : attrs.isHidden with
    | true => rw [flow_hidden _ _ _ _ ha, ihr, if_pos rfl, List.nil_append]
    | false =>
      rw [if_neg Bool.false_ne_true, ← List.append_assoc]
      cases ht : Flow.inlineTags.contains tag with
      | true =>
        rw [flow_inline _ _ _ _ ha ht, ihr, row_flow]
        simp [Flow.words, Flow.addWords]
      | false =>
        rw [flow_block ha ht, ihr, Flow.words_block, ihc, if_neg Bool.false_ne_true]
        rfl

/-! ## What is lost -/

/-- No visible inline element has words before the end of a block in it. -/
def Whole : Nodes → Prop
  | nil => True
  | text _ rest => rest.Whole
  | element tag attrs children rest =>
    (attrs.isHidden = false → (Flow.inlineTags.contains tag → children.toBlock.visibleWords = []) ∧ children.Whole) ∧
      rest.Whole

theorem kept_sublist (ns : Nodes) : ns.kept.visibleWords.Sublist ns.visibleWords := by
  induction ns with
  | nil => exact List.Sublist.refl _
  | text content rest ih => exact (List.append_sublist_append_left _).2 ih
  | element tag attrs children rest ihc ihr =>
    refine List.Sublist.append ?_ ihr
    split
    · exact List.Sublist.refl _
    · split
      · refine List.Sublist.trans ?_ ihc
        rw [← visibleWords_toBlock children.kept]
        exact List.sublist_append_right _ _
      · exact ihc

/-- Of an inline element's words all are kept if none comes before the end of a block. -/
theorem kept_afterBlock_eq_iff (ns : Nodes) :
    ns.kept.afterBlock.visibleWords = ns.visibleWords ↔
      ns.toBlock.visibleWords = [] ∧ ns.kept.visibleWords = ns.visibleWords := by
  rw [← visibleWords_toBlock ns, ← visibleWords_toBlock ns.kept, toBlock_kept, afterBlock_kept,
    append_eq_append_iff_of_sublist ns.toBlock.kept_sublist ns.afterBlock.kept_sublist]
  constructor
  · intro h
    have hlength := congrArg List.length h
    have hle := ns.afterBlock.kept_sublist.length_le
    rw [List.length_append] at hlength
    have hnil : ns.toBlock.visibleWords = [] := List.length_eq_zero_iff.1 (by omega)
    rw [hnil, List.nil_append] at h
    exact ⟨hnil, List.sublist_nil.1 (hnil ▸ ns.toBlock.kept_sublist) |>.trans hnil.symm, h⟩
  · rintro ⟨hnil, -, h⟩
    rw [hnil, h, List.nil_append]

theorem kept_eq_iff (ns : Nodes) : ns.kept.visibleWords = ns.visibleWords ↔ ns.Whole := by
  induction ns with
  | nil => exact iff_of_true rfl trivial
  | text content rest ih => rw [kept, visibleWords, visibleWords, List.append_cancel_left_eq, ih, Whole]
  | element tag attrs children rest ihc ihr =>
    have hsub := (element tag attrs children nil).kept_sublist
    simp only [kept, visibleWords, List.append_nil] at hsub
    rw [kept, visibleWords, visibleWords, append_eq_append_iff_of_sublist hsub rest.kept_sublist, ihr, Whole]
    refine and_congr_left fun _ => ?_
    cases ha : attrs.isHidden with
    | true => simp
    | false =>
      cases ht : Flow.inlineTags.contains tag with
      | true => simp [kept_afterBlock_eq_iff, ihc]
      | false => simp [ihc]

end Nodes

namespace Element

theorem flatMap_words_textLines (e : Element) :
    (e.textLines.flatMap fun line => words line.toList) = e.children.kept.visibleWords := by
  have hrows : e.rows.flatten = e.children.kept.visibleWords := by
    rw [rows, Flow.flatten_finish, Nodes.words_flow]
    rfl
  have hword : ∀ row ∈ e.rows, words (unwords row) = row := by
    intro row hrow
    refine words_unwords fun w hw => @Nodes.isWord_of_mem_visibleWords e.children.kept w ?_
    rw [← hrows]
    exact List.mem_flatten_of_mem hrow hw
  calc (e.textLines.flatMap fun line => words line.toList)
    _ = (e.rows.map fun row => words (unwords row)).flatten := by
      rw [textLines, List.flatMap_map, List.flatMap_def]
      simp only [String.toList_ofList]
    _ = e.rows.flatten := by rw [List.map_congr_left hword, List.map_id']
    _ = e.children.kept.visibleWords := hrows

/-- The words of the rows, read line by line, are those of the texts that are kept, and they
are those of all visible texts exactly if no inline element has one of them before the end
of a block in it. -/
theorem words_textLines (e : Element) :
    (e.textLines.flatMap fun line => words line.toList) = e.children.kept.visibleWords ∧
      ((e.textLines.flatMap fun line => words line.toList) = e.children.visibleWords ↔ e.children.Whole) := by
  have hlines := flatMap_words_textLines e
  refine ⟨hlines, ?_⟩
  rw [hlines]
  exact e.children.kept_eq_iff

/-- A paragraph in a `span`. -/
def wrapped : Element := ⟨"div", [], .element "span" [] (.element "p" [] (.text "lost" .nil) .nil) .nil⟩

/-- The paragraph has a visible text, and yet the tree has no row. -/
theorem words_textLines_fails_wrapped :
    Fragment.parse "<div><span><p>lost</p></span></div>" = .ok wrapped ∧ wrapped.children.visibleWords = ["lost".toList] ∧
      wrapped.textLines = [] ∧ (wrapped.textLines.flatMap fun line => words line.toList) ≠ wrapped.children.visibleWords := by
  decide +kernel

end Element

end FloatingPanels
