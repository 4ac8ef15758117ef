import FloatingPanels.Markup.Entity
/-!
# Written characters

A writer spells out the five characters that mean something to a reader of markup. The
reader takes them back with one replacement for each entity in the whole text, one after
the other, and that is the same as a single pass from the left: `decode_eq_scan`. No entity
has in it what an earlier one stands for, so what was put into the text is never taken for
a part of an entity. For that the ampersand has to be the last.
-/

namespace FloatingPanels.Entity

/-- The characters that a writer spells out. -/
def special : List Char := ['&', '<', '>', '"', '\'']

def code : Char → List Char
  | '&' => "&amp;".toList
  | '<' => "&lt;".toList
  | '>' => "&gt;".toList
  | '"' => "&quot;".toList
  | '\'' => "&#39;".toList
  | c => [c]

/-- A text as it is written in markup. -/
def encode (s : List Char) : List Char := s.flatMap code

theorem code_of_not_special {c : Char} (h : c ∉ special) : code c = [c] := by
  simp only [special, List.mem_cons, List.not_mem_nil, or_false, not_or] at h
  obtain ⟨hamp, hlt, hgt, hquot, hapos⟩ := h
  unfold code
  split <;> first | contradiction | rfl

/-- A special character is spelled out by its own entity. -/
theorem code_of_special {c : Char} (h : c ∈ special) : ∃ pattern, (pattern, c) ∈ table ∧ code c = pattern.toList := by
  simp only [special, List.mem_cons, List.not_mem_nil, or_false] at h
  rcases h with rfl | rfl | rfl | rfl | rfl <;> exact ⟨_, by decide, rfl⟩

/-- Of the special characters only the ampersand is left in what is written. -/
theorem eq_of_mem_encode {s : List Char} {c : Char} (hc : c ∈ encode s) (hs : c ∈ special) : c = '&' := by
  obtain ⟨d, -, hd⟩ := List.mem_flatMap.1 hc
  have hcode : special.all fun d => (code d).all fun c => decide (c ∈ special → c = '&') := by decide
  simp only [List.all_eq_true, decide_eq_true_eq] at hcode
  by_cases h : d ∈ special
  · exact hcode d h c hd hs
  · rw [code_of_not_special h, List.mem_singleton] at hd
    exact absurd (hd ▸ hs) h

/-! ## Entities in a text -/

variable {entities : List (String × Char)} {pattern : String} {c : Char}

/-- An entity starts with its only ampersand. -/
theorem exists_of_mem_table {e : String × Char} (h : e ∈ table) : ∃ b, e.1.toList = '&' :: b ∧ '&' ∉ b := by
  simp only [table, List.mem_cons, List.not_mem_nil, or_false] at h
  rcases h with rfl | rfl | rfl | rfl | rfl | rfl <;> exact ⟨_, rfl, by decide⟩

theorem replaceFrom_skip (pattern : List Char) (c : Char) (b s : List Char) :
    replaceFrom pattern c b.length (b ++ s) = replaceFrom pattern c 0 s := by
  induction b with
  | nil => rfl
  | cons d b ih => exact ih

theorem replace_cons_of_not {d : Char} {s : List Char} (h : ¬ pattern.toList <+: d :: s) :
    replace pattern c (d :: s) = d :: replace pattern c s := by
  rw [replace, replaceFrom, if_neg (by rwa [List.isPrefixOf_iff_prefix])]
  rfl

theorem replace_self (h : (pattern, c) ∈ table) (s : List Char) :
    replace pattern c (pattern.toList ++ s) = c :: replace pattern c s := by
  obtain ⟨b, hb, -⟩ := exists_of_mem_table h
  simp only [replace, hb]
  rw [List.cons_append, replaceFrom, if_pos, List.length_cons, Nat.add_sub_cancel, replaceFrom_skip]
  rw [List.isPrefixOf_iff_prefix]
  exact List.prefix_append ('&' :: b) s

/-- Nothing is replaced where no ampersand is. -/
theorem replace_append (h : (pattern, c) ∈ table) {b : List Char} (hb : '&' ∉ b) (s : List Char) :
    replace pattern c (b ++ s) = b ++ replace pattern c s := by
  induction b with
  | nil => rfl
  | cons d b ih =>
    simp only [List.mem_cons, not_or] at hb
    obtain ⟨p, hp, -⟩ := exists_of_mem_table h
    rw [List.cons_append, replace_cons_of_not, ih hb.2, List.cons_append]
    rw [hp, List.cons_prefix_cons]
    exact fun hd => hb.1 hd.1

/-! ## A single pass -/

/-- A text with its entities replaced in one pass from the left, in which nothing that was
put into the text is read again. -/
def scan (entities : List (String × Char)) : List Char → List Char
  | [] => []
  | d :: s =>
    match entities.find? fun e => e.1.toList.isPrefixOf (d :: s) with
    | some (pattern, c) => c :: scan entities (s.drop (pattern.length - 1))
    | none => d :: scan entities s
termination_by s => s.length
decreasing_by all_goals simp only [List.length_drop, List.length_cons]; omega

theorem scan_of_find (h : (pattern, c) ∈ table) {s : List Char}
    (hf : entities.find? (fun e => e.1.toList.isPrefixOf (pattern.toList ++ s)) = some (pattern, c)) :
    scan entities (pattern.toList ++ s) = c :: scan entities s := by
  obtain ⟨b, hb, -⟩ := exists_of_mem_table h
  have hlength : pattern.length - 1 = b.length := by
    rw [← String.length_toList, hb, List.length_cons, Nat.add_sub_cancel]
  rw [hb] at hf
  rw [hb, List.cons_append, scan, ← List.cons_append, hf]
  simp only [hlength, List.drop_left]

theorem scan_cons_of_not {d : Char} {s : List Char} (h : ∀ e ∈ entities, ¬ e.1.toList <+: d :: s) :
    scan entities (d :: s) = d :: scan entities s := by
  have hf : entities.find? (fun e => e.1.toList.isPrefixOf (d :: s)) = none :=
    List.find?_eq_none.2 fun e he hp => h e he (List.isPrefixOf_iff_prefix.1 hp)
  rw [scan, hf]

theorem scan_nil (s : List Char) : scan [] s = s := by
  induction s with
  | nil => rw [scan]
  | cons d s ih => rw [scan_cons_of_not (List.forall_mem_nil _), ih]

theorem scan_append (h : entities ⊆ table) {b : List Char} (hb : '&' ∉ b) (s : List Char) :
    scan entities (b ++ s) = b ++ scan entities s := by
  induction b with
  | nil => rfl
  | cons d b ih =>
    simp only [List.mem_cons, not_or] at hb
    rw [List.cons_append, scan_cons_of_not, ih hb.2, List.cons_append]
    intro e he hp
    obtain ⟨p, hp', -⟩ := exists_of_mem_table (h he)
    rw [hp', List.cons_prefix_cons] at hp
    exact hb.1 hp.1

/-- Characters that no entity stands for are in the text only where they were. -/
theorem prefix_of_prefix_scan {b : List Char} (hout : ∀ e ∈ entities, e.2 ∉ b) {s : List Char}
    (hp : b <+: scan entities s) : b <+: s := by
  induction b generalizing s with
  | nil => exact List.nil_prefix
  | cons d b ih =>
    cases s with
    | nil => rwa [scan] at hp
    | cons x s =>
      rw [scan] at hp
      split at hp
      · rename_i pattern c hf
        rw [List.cons_prefix_cons] at hp
        exact absurd (hp.1 ▸ List.mem_cons_self) (hout _ (List.mem_of_find?_eq_some hf))
      · rw [List.cons_prefix_cons] at hp ⊢
        simp only [List.mem_cons, not_or] at hout
        exact ⟨hp.1, ih (fun e he => (hout e he).2) hp.2⟩

/-- A pass for some entities and then a replacement of one more is a pass for all of them,
if that one has no part that the pass could put into the text. -/
theorem replace_scan (h : entities ++ [(pattern, c)] ⊆ table) (hout : ∀ e ∈ entities, e.2 ∉ pattern.toList)
    (s : List Char) : replace pattern c (scan entities s) = scan (entities ++ [(pattern, c)]) s := by
  have hmem : (pattern, c) ∈ table := h (by simp)
  have hsub : entities ⊆ table := fun e he => h (List.mem_append_left _ he)
  obtain ⟨b, hb, hamp⟩ := exists_of_mem_table hmem
  simp only [hb, List.mem_cons, not_or] at hout
  fun_induction scan entities s with
  | case1 => rw [scan]; rfl
  | case2 d s p x hf ih =>
    -- What stands for an earlier entity is no ampersand, so it is passed over.
    have hx : x ≠ '&' := (hout _ (List.mem_of_find?_eq_some hf)).1
    rw [replace_cons_of_not, ih, scan, List.find?_append, hf, Option.some_or]
    rw [hb, List.cons_prefix_cons]
    exact fun hp => hx hp.1.symm
  | case3 d s hf ih =>
    by_cases hp : pattern.toList <+: d :: s
    · -- The pass leaves the entity as it is.
      obtain ⟨r, hr⟩ := hp
      have hs : s = b ++ r := by simpa [hb] using congrArg List.tail hr.symm
      have hscan : d :: scan entities s = pattern.toList ++ scan entities r := by
        rw [hs, scan_append hsub hamp, hb, List.cons_append]
        congr 1
        simpa [hb] using congrArg List.head? hr.symm
      have hrest : replace pattern c (scan entities r) = scan (entities ++ [(pattern, c)]) r := by
        rw [hs, scan_append hsub hamp, scan_append h hamp, replace_append hmem hamp] at ih
        exact List.append_cancel_left ih
      rw [hscan, replace_self hmem, hrest, ← hr, scan_of_find hmem]
      rw [hr, List.find?_append, hf, Option.none_or]
      simp [← hr]
    · rw [replace_cons_of_not, ih, scan_cons_of_not]
      · intro e he hpre
        rcases List.mem_append.1 he with he | he
        · exact List.find?_eq_none.1 hf e he (List.isPrefixOf_iff_prefix.2 hpre)
        · rw [List.mem_singleton.1 he] at hpre
          exact hp hpre
      · intro hpre
        rw [hb, List.cons_prefix_cons] at hpre
        refine hp ?_
        rw [hb, List.cons_prefix_cons]
        exact ⟨hpre.1, prefix_of_prefix_scan (fun e he => (hout e he).2) hpre.2⟩

/-- No entity has in it what an earlier one stands for. -/
theorem pairwise_table : table.Pairwise fun e f => e.2 ∉ f.1.toList := by decide

theorem foldl_replace {rest : List (String × Char)} (h : entities ++ rest = table) (s : List Char) :
    rest.foldl (fun s (pattern, c) => replace pattern c s) (scan entities s) = scan table s := by
  induction rest generalizing entities with
  | nil => rw [← h, List.append_nil, List.foldl_nil]
  | cons e rest ih =>
    obtain ⟨pattern, c⟩ := e
    have h' : entities ++ [(pattern, c)] ++ rest = table := by rw [List.append_assoc, List.singleton_append, h]
    have hsub : entities ++ [(pattern, c)] ⊆ table := h' ▸ List.subset_append_left _ _
    have hout : ∀ e ∈ entities, e.2 ∉ pattern.toList := by
      have hpair := pairwise_table
      rw [← h, List.pairwise_append] at hpair
      exact fun e he => hpair.2.2 e he _ List.mem_cons_self
    simp only [List.foldl_cons, replace_scan hsub hout]
    exact ih h'

theorem decode_eq_scan (s : List Char) : decode s = scan table s := by
  have h := foldl_replace (List.nil_append table) s
  rwa [scan_nil] at h

/-! ## Decoding what is written -/

/-- Of two entities none is the beginning of the other. -/
theorem scan_entity (h : (pattern, c) ∈ table) (s : List Char) :
    scan table (pattern.toList ++ s) = c :: scan table s := by
  refine scan_of_find h ?_
  simp only [table, List.mem_cons, List.not_mem_nil, or_false, Prod.mk.injEq] at h
  rcases h with ⟨rfl, rfl⟩ | ⟨rfl, rfl⟩ | ⟨rfl, rfl⟩ | ⟨rfl, rfl⟩ | ⟨rfl, rfl⟩ | ⟨rfl, rfl⟩ <;> rfl

theorem scan_encode (s : List Char) : scan table (encode s) = s := by
  induction s with
  | nil => rw [encode, List.flatMap_nil, scan]
  | cons d s ih =>
    rw [encode, List.flatMap_cons, ← encode]
    by_cases hd : d ∈ special
    · obtain ⟨pattern, hmem, hcode⟩ := code_of_special hd
      rw [hcode, scan_entity hmem, ih]
    · have hamp : '&' ∉ [d] := fun h => hd (List.mem_singleton.1 h ▸ by decide)
      rw [code_of_not_special hd, scan_append (List.Subset.refl _) hamp, ih, List.singleton_append]

theorem decode_encode (s : List Char) : decode (encode s) = s := by
  rw [decode_eq_scan, scan_encode]

/-- The entities are decoded in one pass from the left. So what is written is read as it was,
and an ampersand that was spelled out is part of no entity, whatever follows it. -/
theorem decode_once (s : List Char) :
    decode s = scan table s ∧ decode (encode s) = s ∧ decode ("&amp;".toList ++ s) = '&' :: decode s := by
  refine ⟨decode_eq_scan s, decode_encode s, ?_⟩
  have hamp : ("&amp;", '&') ∈ table := by decide
  rw [decode_eq_scan, decode_eq_scan, scan_entity hamp]

example : decode "&amp;lt; &amp;amp;#39; &lt;&foo;".toList = "&lt; &amp;#39; <&foo;".toList := by decide

end FloatingPanels.Entity
