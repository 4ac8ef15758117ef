import FloatingPanels.Markup.Flow
/-!
# Words of a text

A text that is made of words is read as those words, so it is shown as it was written. That
is what `textLines` makes of the texts that panels show. Any other text has the words of its
lines, one line after the other.
-/

namespace FloatingPanels

/-- A word has characters, and none of them is blank. -/
def IsWord (w : List Char) : Prop := w ≠ [] ∧ ∀ c ∈ w, isBlank c = false

instance (w : List Char) : Decidable (IsWord w) :=
  decidable_of_iff (!w.isEmpty && w.all fun c => !isBlank c) (by simp [IsWord])

variable {p : Char → Bool} {w s : List Char} {ws : List (List Char)}

/-- It is the `splitOnP` of lists. -/
theorem splitOn_eq_splitOnP (p : Char → Bool) (s : List Char) : splitOn p s = s.splitOnP p := by
  induction s with
  | nil => rfl
  | cons c s ih =>
    rw [splitOn, ih, List.splitOnP_cons_eq_if_modifyHead]
    cases hs : s.splitOnP p with
    | nil => exact absurd hs (List.splitOnP_ne_nil p s)
    | cons part parts => rfl

theorem words_of_isWord (h : IsWord w) : words w = [w] := by
  rw [words, splitOn_eq_splitOnP, List.splitOnP_eq_singleton h.2]
  simp [h.1]

theorem words_append_blank {c : Char} (hc : isBlank c) (s t : List Char) :
    words (s ++ c :: t) = words s ++ words t := by
  simp only [words, splitOn_eq_splitOnP, List.splitOnP_append_cons s t hc, List.filter_append]

theorem words_append (h : IsWord w) (s : List Char) : words (w ++ ' ' :: s) = w :: words s := by
  rw [words_append_blank (by decide), words_of_isWord h, List.singleton_append]

theorem words_unwords (h : ∀ w ∈ ws, IsWord w) : words (unwords ws) = ws := by
  induction ws with
  | nil => rfl
  | cons w ws ih =>
    rw [List.forall_mem_cons] at h
    cases ws with
    | nil => exact words_of_isWord h.1
    | cons v vs => rw [unwords, words_append h.1, ih h.2]; nofun

/-- Words in a row are one line. -/
theorem splitOn_newline_unwords (h : ∀ w ∈ ws, IsWord w) : splitOn (· = '\n') (unwords ws) = [unwords ws] := by
  rw [splitOn_eq_splitOnP, List.splitOnP_eq_singleton]
  have hword : ∀ {w}, IsWord w → ∀ c ∈ w, decide (c = '\n') = false := by
    rintro w hw c hc
    refine decide_eq_false ?_
    rintro rfl
    exact absurd (hw.2 _ hc) (by decide)
  induction ws with
  | nil => exact List.forall_mem_nil _
  | cons w ws ih =>
    rw [List.forall_mem_cons] at h
    cases ws with
    | nil => exact hword h.1
    | cons v vs =>
      rw [unwords, List.forall_mem_append, List.forall_mem_cons]
      · exact ⟨hword h.1, by decide, ih h.2⟩
      · nofun

/-- The row goes on with the words of a text. -/
theorem Flow.addText_unwords {text : String} (hs : text.toList = unwords ws) (h : ∀ w ∈ ws, IsWord w)
    (preformatted : Bool) (f : Flow) : f.addText preformatted text = f.addWords ws := by
  rw [addText, hs, splitOn_newline_unwords h, addLines, words_unwords h]

/-! ## The words of any text -/

theorem eq_false_of_mem_splitOn {p : Char → Bool} {part s : List Char} (h : part ∈ splitOn p s) :
    ∀ c ∈ part, p c = false := by
  rw [splitOn_eq_splitOnP] at h
  induction s generalizing part with
  | nil =>
    rw [List.splitOnP_nil, List.mem_singleton] at h
    exact h ▸ List.forall_mem_nil _
  | cons c s ih =>
    rw [List.splitOnP_cons_eq_if_modifyHead] at h
    split at h
    · rcases List.mem_cons.1 h with rfl | h
      · exact List.forall_mem_nil _
      · exact ih h
    · rename_i hc
      obtain ⟨first, parts, hparts⟩ := List.exists_cons_of_ne_nil (List.splitOnP_ne_nil p s)
      rw [hparts] at h ih
      rcases List.mem_cons.1 h with rfl | h
      · exact List.forall_mem_cons.2 ⟨by simpa using hc, ih List.mem_cons_self⟩
      · exact ih (List.mem_cons_of_mem _ h)

theorem isWord_of_mem_words {w s : List Char} (h : w ∈ words s) : IsWord w := by
  rw [words, List.mem_filter] at h
  exact ⟨by simpa using h.2, eq_false_of_mem_splitOn h.1⟩

/-- A line break is a blank, so no word reaches from one line into the next. -/
theorem flatMap_words_lines (s : List Char) : (splitOn (· = '\n') s).flatMap words = words s := by
  by_cases h : '\n' ∈ s
  · obtain ⟨a, b, hab⟩ := List.append_of_mem h
    have ha := flatMap_words_lines a
    have hb := flatMap_words_lines b
    rw [splitOn_eq_splitOnP] at ha hb ⊢
    rw [hab, List.splitOnP_append_cons a b (decide_eq_true rfl), List.flatMap_append, ha, hb,
      words_append_blank (by decide)]
  · have hline : ∀ c ∈ s, decide (c = '\n') = false := fun c hc => decide_eq_false fun he => h (he ▸ hc)
    rw [splitOn_eq_splitOnP, List.splitOnP_eq_singleton hline, List.flatMap_singleton]
termination_by s.length
decreasing_by all_goals simp only [hab, List.length_append, List.length_cons]; omega

/-! ## Blocks -/

namespace Nodes

/-- An element that is neither hidden nor inline has rows of its own. -/
theorem flow_block {tag : String} {attrs : Attrs} (ha : attrs.isHidden = false)
    (ht : Flow.inlineTags.contains tag = false) (preformatted : Bool) (f : Flow) (children rest : Nodes) :
    (element tag attrs children rest).flow preformatted f =
      rest.flow preformatted ⟨f.finish ++ (children.flow (tag = "pre") {}).finish, []⟩ := by
  rw [flow, ha, ht]
  rfl

/-- A paragraph of words is one row. -/
theorem flow_paragraph {text : String} (hs : text.toList = unwords ws) (h : ∀ w ∈ ws, IsWord w) (hne : ws ≠ [])
    {attrs : Attrs} (ha : attrs.isHidden = false) (preformatted : Bool) (f : Flow) (rest : Nodes) :
    (element "p" attrs (.text text .nil) rest).flow preformatted f =
      rest.flow preformatted ⟨f.finish ++ [ws], []⟩ := by
  have hrow : (Nodes.text text .nil).flow ("p" = "pre") {} = { row := ws } := Flow.addText_unwords hs h _ _
  have hfinish : Flow.finish { row := ws } = [ws] := if_neg (by simpa using hne)
  rw [flow_block ha (by decide), hrow, hfinish]

end Nodes

/-! ## Numerals -/

theorem isBlank_of_isDigit {c : Char} (h : c.isDigit) : isBlank c = false := by
  have hd : 48 ≤ c.toNat ∧ c.toNat ≤ 57 := by
    simp [Char.isDigit, UInt32.le_iff_toNat_le] at h
    exact h
  simp [isBlank, blankRanges]
  omega

/-- A mark before a numeral makes a word of it. -/
theorem isWord_numeral {mark : Char} (h : isBlank mark = false) (n : Nat) : IsWord (mark :: n.repr.toList) := by
  refine ⟨List.cons_ne_nil _ _, List.forall_mem_cons.2 ⟨h, fun c hc => ?_⟩⟩
  rw [Nat.toList_repr] at hc
  exact isBlank_of_isDigit (Nat.isDigit_of_mem_toDigits (by decide) (by decide) hc)

end FloatingPanels
