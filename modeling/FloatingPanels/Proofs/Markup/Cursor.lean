import FloatingPanels.Proofs.Markup.Bytes
import FloatingPanels.Proofs.Markup.Piece
/-!
# The cursor of a parser

A parser that keeps a byte of its source as its cursor cuts the source there, looks for the
end of what starts there, and moves the cursor behind it. Every cut has to be between two
characters. `parse_cursor` says that the cursor is between two characters wherever it comes
to, that it grows with every move and so comes to where the parser stops, and that the
parser has then come to what `Fragment.parse` comes to. The loop over the attributes of a
tag ends as well. The byte that is reported of a tag that does not end is the one where that
tag starts.
-/

namespace FloatingPanels

open Token (byteLength byteLength_append byteLength_pos utf8ByteSize_ofList)

/-! ## The parser -/

/-- A parser at a byte of its source, inside the elements that are open there and after
their children so far. -/
structure Cursor where
  pos : Nat := 0
  stack : List Fragment.Unfinished := []
  siblings : Nodes := .nil
  deriving DecidableEq, Repr

namespace Cursor

/-- What a parser does next. -/
inductive Turn where
  /-- It cuts a character in two, and so goes no further. -/
  | stuck
  | stop (result : Except TemplateError Nodes)
  | go (next : Cursor)

/-- The token at the byte `pos`, if there is one there, and the byte at which the parser
goes on. The source goes on with `s` from that byte. -/
def read (pos : Nat) (s : List Char) : Option (Except TemplateError (Option Token × Nat)) :=
  if "<!--".toList <+: s then do
    let (_, after) ← cutAt 4 s
    match findText "-->".toList after with
    | none => return .error .unterminatedComment
    | some n => return .ok (none, pos + (4 + n + 3))
  else if "</".toList <+: s then do
    let (_, after) ← cutAt 2 s
    match findText ">".toList after with
    | none => return .error (.unterminatedTag pos)
    | some n =>
      let (name, _) ← cutAt n after
      return .ok (some (.stop (String.ofList (trim name))), pos + (2 + n + 1))
  else if "<".toList <+: s then
    match findTagEnd none s with
    | none => return .error (.unterminatedTag pos)
    | some n => do
      let (tag, _) ← cutAt n s
      let (_, inside) ← cutAt 1 tag
      return (Token.ofTagText pos inside).map fun token => (some token, pos + (n + 1))
  else do
    let n := (findText "<".toList s).getD (byteLength s)
    let (text, _) ← cutAt n s
    return .ok (Token.ofText text, pos + n)

/-- The open elements and the children of the innermost of them after a token. -/
def put (c : Cursor) : Option Token → Except TemplateError (List Fragment.Unfinished × Nodes)
  | none => .ok (c.stack, c.siblings)
  | some (.text content) => .ok (c.stack, c.siblings ++ .text content .nil)
  | some (.start tag attrs leaf) =>
    .ok (if leaf then (c.stack, c.siblings ++ .element tag attrs .nil .nil)
      else (⟨tag, attrs, c.siblings⟩ :: c.stack, .nil))
  | some (.stop name) =>
    match c.stack with
    | [] => .error (.mismatched none name)
    | top :: stack =>
      if top.tag = name then .ok (stack, top.before ++ .element top.tag top.attrs c.siblings .nil)
      else .error (.mismatched (some top.tag) name)

/-- The result at the end of the source. -/
def close (c : Cursor) : Except TemplateError Nodes :=
  match c.stack with
  | [] => .ok c.siblings
  | top :: _ => .error (.unclosed top.tag)

def step (source : String) (c : Cursor) : Turn :=
  match cutAt c.pos source.toList with
  | none => .stuck
  | some (_, []) => .stop c.close
  | some (_, s) =>
    match read c.pos s with
    | none => .stuck
    | some (.error e) => .stop (.error e)
    | some (.ok (token, pos)) =>
      match c.put token with
      | .error e => .stop (.error e)
      | .ok (stack, siblings) => .go ⟨pos, stack, siblings⟩

/-! ## What a parser reads -/

theorem read_comment (pos : Nat) (s : List Char) :
    read pos ("<!--".toList ++ s) =
      match findText "-->".toList s with
      | none => some (.error .unterminatedComment)
      | some n => some (.ok (none, pos + (4 + n + 3))) := by
  have hcut : cutAt 4 ("<!--".toList ++ s) = some ("<!--".toList, s) := cutAt_append "<!--".toList s
  rw [read, if_pos (List.prefix_append _ s), hcut]
  rfl

theorem read_endTag (pos : Nat) (s : List Char) :
    read pos ("</".toList ++ s) =
      match Token.endText s with
      | none => some (.error (.unterminatedTag pos))
      | some (t, _) => some (.ok (some (.stop (String.ofList (trim t))), pos + (2 + byteLength t + 1))) := by
  have hcut : cutAt 2 ("</".toList ++ s) = some ("</".toList, s) := cutAt_append "</".toList s
  rw [read, if_neg (by simp), if_pos (List.prefix_append _ s), hcut]
  dsimp only [Option.bind_eq_bind, Option.bind_some]
  rw [findText_endText]
  cases h : Token.endText s with
  | none => rfl
  | some p =>
    dsimp only [Option.map_some]
    rw [eq_of_endText h, cutAt_append]
    rfl

/-- A bracket starts a tag unless it starts a comment or an end tag. -/
theorem read_startTag (pos : Nat) {s : List Char} (hcomment : ∀ r, s ≠ '!' :: '-' :: '-' :: r)
    (hslash : ∀ r, s ≠ '/' :: r) :
    read pos ('<' :: s) =
      match Token.tagText none s with
      | none => some (.error (.unterminatedTag pos))
      | some (t, _) => some ((Token.ofTagText pos t).map fun token =>
        (some token, pos + (byteLength ('<' :: t) + 1))) := by
  have hfind : findTagEnd none ('<' :: s) = (Token.tagText none s).map fun p => byteLength ('<' :: p.1) := by
    rw [findTagEnd_tagText, Token.tagText, if_neg (by decide), if_neg (by decide), Option.map_map]
    rfl
  have hopen : ¬ "<!--".toList <+: '<' :: s := by
    rintro ⟨r, hr⟩
    exact hcomment r (List.cons.inj hr).2.symm
  have hstop : ¬ "</".toList <+: '<' :: s := by
    rintro ⟨r, hr⟩
    exact hslash r (List.cons.inj hr).2.symm
  have hstart : "<".toList <+: '<' :: s := ⟨s, rfl⟩
  rw [read, if_neg hopen, if_neg hstop, if_pos hstart, hfind]
  cases h : Token.tagText none s with
  | none => rfl
  | some p =>
    have hcut : cutAt (byteLength ('<' :: p.1)) ('<' :: s) = some ('<' :: p.1, '>' :: p.2) := by
      rw [eq_of_tagText h]
      exact cutAt_append ('<' :: p.1) ('>' :: p.2)
    have hinside : cutAt 1 ('<' :: p.1) = some ("<".toList, p.1) := cutAt_append "<".toList p.1
    dsimp only [Option.map_some]
    rw [hcut]
    dsimp only [Option.bind_eq_bind, Option.bind_some]
    rw [hinside]
    rfl

theorem read_text (pos : Nat) {s : List Char} (h : ¬ "<".toList <+: s) :
    read pos s = some (.ok (Token.ofText (s.takeWhile (· ≠ '<')), pos + byteLength (s.takeWhile (· ≠ '<')))) := by
  have hcut := cutAt_append (s.takeWhile (· ≠ '<')) (s.dropWhile (· ≠ '<'))
  rw [List.takeWhile_append_dropWhile] at hcut
  have hlonger : ∀ {p : List Char}, "<".toList <+: p → ¬ p <+: s := fun hp hs => h (hp.trans hs)
  rw [read, if_neg (hlonger (by simp)), if_neg (hlonger (by simp)), if_neg h, findText_text]
  dsimp only [Option.bind_eq_bind]
  rw [hcut]
  rfl

/-- The cursor moves over the characters of a token, which are at least one. -/
theorem read_next (pos : Nat) {s : List Char} (hs : s ≠ []) :
    match Token.next pos s with
    | .error e => read pos s = some (.error e)
    | .ok (token, r) => ∃ a, s = a ++ r ∧ a ≠ [] ∧ read pos s = some (.ok (token, pos + byteLength a)) := by
  fun_cases Token.next pos s with
  | case1 s h => exact (read_comment pos s).trans (by rw [findText_comment h])
  | case2 s r h =>
    obtain ⟨t, rfl, hfind⟩ := exists_of_afterComment h
    refine ⟨"<!--".toList ++ t ++ "-->".toList, by simp, by simp, ?_⟩
    refine (read_comment pos (t ++ "-->".toList ++ r)).trans ?_
    rw [hfind, byteLength_append, byteLength_append]
    rfl
  | case3 s h => exact (read_endTag pos s).trans (by rw [h])
  | case4 s t r h =>
    refine ⟨"</".toList ++ t ++ ">".toList, by simp [eq_of_endText h], by simp, (read_endTag pos s).trans ?_⟩
    rw [h, byteLength_append, byteLength_append]
    rfl
  | case5 s hcomment hslash h => exact (read_startTag pos hcomment hslash).trans (by rw [h])
  | case6 s hcomment hslash t r h =>
    have hread := read_startTag pos hcomment hslash
    rw [h] at hread
    dsimp only at hread
    cases hof : Token.ofTagText pos t with
    | error e => exact hread.trans (by rw [hof]; rfl)
    | ok token =>
      refine ⟨'<' :: t ++ ">".toList, by simp [eq_of_tagText h], by simp, hread.trans ?_⟩
      rw [hof, byteLength_append]
      rfl
  | case7 s hcomment hslash hstart =>
    have hopen : ¬ "<".toList <+: s := by
      rintro ⟨r, hr⟩
      exact hstart r hr.symm
    have hread := read_text pos hopen
    refine ⟨s.takeWhile (· ≠ '<'), List.takeWhile_append_dropWhile.symm, ?_, hread⟩
    obtain ⟨c, t, rfl⟩ := List.exists_cons_of_ne_nil hs
    have hc : c ≠ '<' := fun hc => hstart t (by rw [hc])
    simp [hc]

/-! ## What a parser does -/

theorem nodes_put (fault : Option TemplateError) (c : Cursor) (token : Option Token) (ts : List Token) :
    Fragment.nodes fault c.stack c.siblings (token.toList ++ ts) =
      c.put token >>= fun (stack, siblings) => Fragment.nodes fault stack siblings ts := by
  obtain ⟨pos, stack, siblings⟩ := c
  match token with
  | none => rfl
  | some (.text content) => rfl
  | some (.start tag attrs leaf) => cases leaf <;> rfl
  | some (.stop name) =>
    cases stack with
    | nil => rfl
    | cons top stack =>
      simp only [Option.toList_some, List.singleton_append, Fragment.nodes, put]
      split <;> rfl

theorem nodes_nil (c : Cursor) : Fragment.nodes none c.stack c.siblings [] = c.close := by
  obtain ⟨pos, stack, siblings⟩ := c
  cases stack <;> rfl

/-- The byte `pos` of a source is between two characters, and `s` is left from there. -/
def Leaves (source : String) (pos : Nat) (s : List Char) : Prop :=
  ∃ before, source.toList = before ++ s ∧ byteLength before = pos

variable {source : String} {pos : Nat} {c c' : Cursor} {s : List Char}

theorem Leaves.cut (h : Leaves source pos s) : ∃ before, cutAt pos source.toList = some (before, s) := by
  obtain ⟨before, hsource, rfl⟩ := h
  exact ⟨before, by rw [hsource, cutAt_append]⟩

theorem Leaves.pos_eq (h : Leaves source pos s) : byteLength source.toList - byteLength s = pos := by
  obtain ⟨before, hsource, rfl⟩ := h
  rw [hsource, byteLength_append]
  omega

theorem step_nil (h : Leaves source c.pos []) : step source c = .stop c.close := by
  obtain ⟨before, hcut⟩ := h.cut
  rw [step, hcut]

theorem step_cons (h : Leaves source c.pos s) (hs : s ≠ []) :
    step source c =
      match read c.pos s with
      | none => .stuck
      | some (.error e) => .stop (.error e)
      | some (.ok (token, pos)) =>
        match c.put token with
        | .error e => .stop (.error e)
        | .ok (stack, siblings) => .go ⟨pos, stack, siblings⟩ := by
  obtain ⟨before, hcut⟩ := h.cut
  obtain ⟨d, t, rfl⟩ := List.exists_cons_of_ne_nil hs
  rw [step, hcut]

theorem step_fault (h : Leaves source c.pos s) (hs : s ≠ []) {e : TemplateError}
    (hnext : Token.next c.pos s = .error e) : step source c = .stop (.error e) := by
  have hread := read_next c.pos hs
  rw [hnext] at hread
  dsimp only at hread
  rw [step_cons h hs, hread]

theorem step_token (h : Leaves source c.pos s) (hs : s ≠ []) {token : Option Token} {r : List Char}
    (hnext : Token.next c.pos s = .ok (token, r)) :
    ∃ pos, c.pos < pos ∧ Leaves source pos r ∧
      step source c =
        match c.put token with
        | .error e => .stop (.error e)
        | .ok (stack, siblings) => .go ⟨pos, stack, siblings⟩ := by
  have hread := read_next c.pos hs
  rw [hnext] at hread
  obtain ⟨a, rfl, ha, hread⟩ := hread
  have hstep := step_cons h hs
  rw [hread] at hstep
  obtain ⟨before, hsource, hpos⟩ := h
  refine ⟨c.pos + byteLength a, Nat.lt_add_of_pos_right (byteLength_pos ha), ⟨before ++ a, ?_, ?_⟩, hstep⟩
  · rw [hsource, List.append_assoc]
  · rw [byteLength_append, hpos]

/-- A parser that is between two characters stops there, or moves on to such a place. -/
theorem step_leaves (h : Leaves source c.pos s) :
    (∃ result, step source c = .stop result) ∨
      ∃ c' r, step source c = .go c' ∧ c.pos < c'.pos ∧ Leaves source c'.pos r := by
  by_cases hs : s = []
  · subst hs
    exact .inl ⟨_, step_nil h⟩
  · cases hnext : Token.next c.pos s with
    | error e => exact .inl ⟨_, step_fault h hs hnext⟩
    | ok p =>
      obtain ⟨pos, hlt, hleaves, hstep⟩ := step_token h hs hnext
      cases hput : c.put p.1 with
      | error e => exact .inl ⟨.error e, by rw [hstep, hput]⟩
      | ok q => exact .inr ⟨⟨pos, q.1, q.2⟩, p.2, by rw [hstep, hput], hlt, hleaves⟩

/-! ## What a parser comes to -/

def Moves (source : String) (c c' : Cursor) : Prop := step source c = .go c'

/-- The places that a parser of the source comes to. -/
def Reaches (source : String) : Cursor → Prop := Relation.ReflTransGen (Moves source) {}

theorem Reaches.leaves (h : Reaches source c) : ∃ s, Leaves source c.pos s := by
  induction h with
  | refl => exact ⟨source.toList, [], rfl, rfl⟩
  | tail _ hmove ih =>
    obtain ⟨s, hs⟩ := ih
    obtain ⟨result, hstop⟩ | ⟨c', r, hgo, -, hr⟩ := step_leaves hs
    · cases hstop.symm.trans hmove
    · cases hgo.symm.trans hmove
      exact ⟨r, hr⟩

/-- Each token shortens what is left, so the tokens that are left bring the parser to its end. -/
theorem exists_stop (h : Leaves source c.pos s) :
    ∃ c', Relation.ReflTransGen (Moves source) c c' ∧
      step source c' = .stop (Fragment.nodes (Token.rest (byteLength source.toList) s).2 c.stack c.siblings
        (Token.rest (byteLength source.toList) s).1) := by
  -- The fault and the tokens are those of what is left, so the induction is on its length.
  induction hn : s.length using Nat.strong_induction_on generalizing s c with
  | _ n ih =>
    cases s with
    | nil =>
      refine ⟨c, .refl, ?_⟩
      rw [step_nil h, ← nodes_nil, Token.rest]
    | cons d t =>
      have hs := List.cons_ne_nil d t
      cases hnext : Token.next c.pos (d :: t) with
      | error e =>
        refine ⟨c, .refl, ?_⟩
        rw [step_fault h hs hnext, Piece.rest_fault (h.pos_eq ▸ hnext)]
        rfl
      | ok p =>
        obtain ⟨token, r⟩ := p
        obtain ⟨pos, hlt, hleaves, hstep⟩ := step_token h hs hnext
        rw [Piece.rest_cons (h.pos_eq ▸ hnext), nodes_put]
        cases hput : c.put token with
        | error e =>
          refine ⟨c, .refl, ?_⟩
          rw [hstep, hput]
          rfl
        | ok q =>
          rw [hput] at hstep
          have hshorter : r.length < n := hn ▸ Token.length_next hnext
          obtain ⟨c', hreach, hstop⟩ := ih r.length hshorter (c := ⟨pos, q.1, q.2⟩) hleaves rfl
          exact ⟨c', .head hstep hreach, hstop⟩

/-! ## Tags that do not end -/

/-- The quote that is open after a text, if `quote` was open before it. -/
def openQuote (quote : Option Char) (s : List Char) : Option Char :=
  s.foldl (fun quote c =>
    match quote with
    | some q => if c = q then none else some q
    | none => if c = '"' || c = '\'' then some c else none) quote

/-- No `>` ends the tag that starts with a bracket before `after`: none at all stands behind
the slash of an end tag, and none outside of quotes in a start tag. -/
def Unended (after : List Char) : Prop :=
  (∃ s, after = '/' :: s ∧ '>' ∉ s) ∨
    (after.head? ≠ some '/' ∧ ∀ a b, after = a ++ '>' :: b → openQuote none a ≠ none)

/-- The start tag that starts with a bracket before `after` has only blanks between its
brackets, or blanks and the slash of a leaf. -/
def Nameless (after : List Char) : Prop :=
  ∃ blanks r, blanks.all isBlank ∧
    (after = blanks ++ '>' :: r ∨ blanks ≠ [] ∧ after = blanks ++ '/' :: '>' :: r)

theorem not_mem_of_endText (h : Token.endText s = none) : '>' ∉ s := by
  induction s with
  | nil => exact List.not_mem_nil
  | cons d s ih =>
    rw [Token.endText] at h
    split at h
    · cases h
    · rename_i hd
      rw [Option.map_eq_none_iff] at h
      exact List.not_mem_cons_of_ne_of_not_mem (Ne.symm hd) (ih h)

theorem openQuote_of_tagText {quote : Option Char} (h : Token.tagText quote s = none) {a b : List Char}
    (hs : s = a ++ '>' :: b) : openQuote quote a ≠ none := by
  induction a generalizing s quote with
  | nil =>
    subst hs
    cases quote with
    | none => cases h
    | some q => exact Option.some_ne_none q
  | cons d a ih =>
    subst hs
    cases quote with
    | some q =>
      rw [List.cons_append, Token.tagText, Option.map_eq_none_iff] at h
      exact ih h rfl
    | none =>
      rw [List.cons_append, Token.tagText] at h
      split at h
      · cases h
      · rw [Option.map_eq_none_iff] at h
        exact ih h rfl

theorem attributes_ne_unterminatedTag (state : Token.AttrState) (attrs : Attrs) (s : List Char) (p : Nat) :
    Token.attributes state attrs s ≠ .error (.unterminatedTag p) := by
  fun_induction Token.attributes state attrs s <;> simp_all

theorem ofTagText_unterminatedTag {pos p : Nat} {t : List Char}
    (h : Token.ofTagText pos t = .error (.unterminatedTag p)) :
    p = pos ∧ ∃ blanks, blanks.all isBlank ∧ (t = blanks ∨ t = blanks ++ ['/']) := by
  simp only [Token.ofTagText] at h
  generalize hbody : (if t.getLast? = some '/' then t.dropLast else t) = body at h
  by_cases hname : (trim body).takeWhile (fun c => !isBlank c) = []
  · rw [if_pos (List.isEmpty_iff.2 hname)] at h
    cases h
    refine ⟨rfl, body, all_isBlank_of_trim hname, ?_⟩
    rw [← hbody]
    split
    · rename_i hslash
      exact .inr (List.dropLast_append_getLast? '/' hslash).symm
    · exact .inl rfl
  · rw [if_neg (mt List.isEmpty_iff.1 hname)] at h
    cases hattrs : Token.attributes .between [] ((trim body).dropWhile fun c => !isBlank c) with
    | error e =>
      rw [hattrs] at h
      cases h
      exact absurd hattrs (attributes_ne_unterminatedTag _ _ _ p)
    | ok attrs =>
      rw [hattrs] at h
      cases h

theorem head?_ne_of_forall {d : Char} (h : ∀ t, s ≠ d :: t) : s.head? ≠ some d := by
  intro hd
  obtain ⟨t, rfl⟩ := List.head?_eq_some_iff.1 hd
  exact h t rfl

theorem next_unterminatedTag {pos p : Nat} (h : Token.next pos s = .error (.unterminatedTag p)) :
    p = pos ∧ ∃ after, s = '<' :: after ∧ (Unended after ∨ Nameless after) := by
  revert h
  fun_cases Token.next pos s with
  | case1 s hend => intro h; cases h
  | case2 s r hend => intro h; cases h
  | case3 s hend =>
    intro h
    cases h
    exact ⟨rfl, _, rfl, .inl (.inl ⟨s, rfl, not_mem_of_endText hend⟩)⟩
  | case4 s t r hend => intro h; cases h
  | case5 s hcomment hslash hend =>
    intro h
    cases h
    exact ⟨rfl, s, rfl, .inl (.inr ⟨head?_ne_of_forall hslash, fun a b => openQuote_of_tagText hend⟩)⟩
  | case6 s hcomment hslash t r hend =>
    intro h
    cases hof : Token.ofTagText pos t with
    | ok token => rw [hof] at h; cases h
    | error e =>
      rw [hof] at h
      cases h
      obtain ⟨rfl, blanks, hblank, ht⟩ := ofTagText_unterminatedTag hof
      have hs := eq_of_tagText hend
      refine ⟨rfl, s, rfl, .inr ⟨blanks, r, hblank, ?_⟩⟩
      rcases ht with rfl | rfl
      · exact .inl hs
      · rw [List.append_assoc] at hs
        refine .inr ⟨?_, hs⟩
        rintro rfl
        exact hslash _ hs
  | case7 => intro h; cases h

theorem put_ne_unterminatedTag (c : Cursor) (token : Option Token) (p : Nat) :
    c.put token ≠ .error (.unterminatedTag p) := by
  fun_cases put c token <;> simp

theorem close_ne_unterminatedTag (c : Cursor) (p : Nat) : c.close ≠ .error (.unterminatedTag p) := by
  fun_cases close c <;> simp

theorem root_ne_unterminatedTag (ns : Nodes) (p : Nat) : Fragment.root ns ≠ .error (.unterminatedTag p) := by
  fun_cases Fragment.root ns <;> simp

/-- A parser that stops at a tag that does not end is where that tag starts. -/
theorem stop_unterminatedTag {p : Nat} (h : Leaves source c.pos s)
    (hstop : step source c = .stop (.error (.unterminatedTag p))) :
    p = c.pos ∧ ∃ after, s = '<' :: after ∧ (Unended after ∨ Nameless after) := by
  by_cases hs : s = []
  · subst hs
    rw [step_nil h] at hstop
    exact absurd (Turn.stop.inj hstop) (close_ne_unterminatedTag c p)
  · cases hnext : Token.next c.pos s with
    | error e =>
      rw [step_fault h hs hnext] at hstop
      cases hstop
      exact next_unterminatedTag hnext
    | ok q =>
      obtain ⟨pos, -, -, hstep⟩ := step_token h hs hnext
      rw [hstep] at hstop
      cases hput : c.put q.1 with
      | error e =>
        rw [hput] at hstop
        cases hstop
        exact absurd hput (put_ne_unterminatedTag c q.1 p)
      | ok q => rw [hput] at hstop; cases hstop

/-! ## What is said of a parser -/

/-- What holds of the parser of a source. -/
structure Sound (source : String) : Prop where
  /-- The cursor is between two characters of the source, or at one of its ends. -/
  boundary {c : Cursor} (h : Reaches source c) : (String.Pos.Raw.mk c.pos).IsValid source
  /-- No character is cut in two. -/
  unstuck {c : Cursor} (h : Reaches source c) : step source c ≠ .stuck
  grows {c c' : Cursor} (h : Reaches source c) (hmove : Moves source c c') : c.pos < c'.pos
  /-- The parser comes to a place where it stops, with what `Fragment.parse` comes to. -/
  returns : ∃ c result, Reaches source c ∧ step source c = .stop result ∧
    result >>= Fragment.root = Fragment.parse source
  /-- The byte of a tag that does not end is the one of its bracket. -/
  truthful {p : Nat} (h : Fragment.parse source = .error (.unterminatedTag p)) :
    ∃ before after, source.toList = before ++ '<' :: after ∧ byteLength before = p ∧
      (Unended after ∨ Nameless after)

theorem Leaves.isValid (h : Leaves source pos s) : (String.Pos.Raw.mk pos).IsValid source := by
  obtain ⟨before, hsource, rfl⟩ := h
  rw [String.Pos.Raw.isValid_iff_exists_append]
  refine ⟨String.ofList before, String.ofList s, ?_, ?_⟩
  · rw [← String.ofList_append, ← hsource, String.ofList_toList]
  · exact congrArg String.Pos.Raw.mk (utf8ByteSize_ofList before).symm

theorem Reaches.step_cases (h : Reaches source c) :
    (∃ result, step source c = .stop result) ∨ ∃ c', step source c = .go c' ∧ c.pos < c'.pos := by
  obtain ⟨s, hs⟩ := h.leaves
  obtain hstop | ⟨c', -, hgo, hlt, -⟩ := step_leaves hs
  · exact .inl hstop
  · exact .inr ⟨c', hgo, hlt⟩

theorem exists_parse (source : String) : ∃ c result, Reaches source c ∧ step source c = .stop result ∧
    result >>= Fragment.root = Fragment.parse source := by
  have hstart : Leaves source 0 source.toList := ⟨[], rfl, rfl⟩
  obtain ⟨c, hreach, hstop⟩ := exists_stop (c := {}) hstart
  exact ⟨c, _, hreach, hstop, rfl⟩

theorem truthful_of_parse {p : Nat} (h : Fragment.parse source = .error (.unterminatedTag p)) :
    ∃ before after, source.toList = before ++ '<' :: after ∧ byteLength before = p ∧
      (Unended after ∨ Nameless after) := by
  obtain ⟨c, result, hreach, hstop, hresult⟩ := exists_parse source
  obtain ⟨s, hs⟩ := hreach.leaves
  rw [h] at hresult
  cases result with
  | ok ns => exact absurd hresult (root_ne_unterminatedTag ns p)
  | error e =>
    cases hresult
    obtain ⟨rfl, after, rfl, hafter⟩ := stop_unterminatedTag hs hstop
    obtain ⟨before, hsource, hpos⟩ := hs
    exact ⟨before, after, hsource, hpos, hafter⟩

/-- A parser moves on until it stops, with its cursor between two characters all the way, and
what it reports of a tag that does not end is true. -/
theorem parse_cursor (source : String) :
    Sound source ∧ ∀ attrs s, Token.readAttributes attrs s = Token.attributes .between attrs s := by
  refine ⟨⟨fun h => ?_, fun h hstuck => ?_, fun h hmove => ?_, exists_parse source, truthful_of_parse⟩,
    Token.readAttributes_eq⟩
  · obtain ⟨s, hs⟩ := h.leaves
    exact hs.isValid
  · obtain ⟨result, hstop⟩ | ⟨c', hgo, -⟩ := h.step_cases
    · cases hstop.symm.trans hstuck
    · cases hgo.symm.trans hstuck
  · obtain ⟨result, hstop⟩ | ⟨c', hgo, hlt⟩ := h.step_cases
    · cases hstop.symm.trans hmove
    · cases hgo.symm.trans hmove
      exact hlt

/-- The tag behind the letter of two bytes starts at byte 5. -/
theorem parse_cursor_nameless :
    Fragment.parse "<p>é< />" = .error (.unterminatedTag 5) ∧
      ∃ before after, "<p>é< />".toList = before ++ '<' :: after ∧ byteLength before = 5 ∧
        (Unended after ∨ Nameless after) := by
  have hparse : Fragment.parse "<p>é< />" = .error (.unterminatedTag 5) := by decide +kernel
  exact ⟨hparse, (parse_cursor "<p>é< />").1.truthful hparse⟩

end Cursor

end FloatingPanels
