import FloatingPanels.Markup.Fragment
import FloatingPanels.Proofs.Keyed
import FloatingPanels.Proofs.Markup.Attribute
import FloatingPanels.Proofs.Markup.Entity
import Mathlib
/-!
# Pieces of markup

Markup is written in pieces: start tags with quoted values, end tags, comments and texts.
A reader of the pieces one after the other gets one token for each of them, and none for a
comment. `parse_source` is where what follows leaves the characters behind: parsing a
source that is written so is building a tree from those tokens.
-/

namespace FloatingPanels

inductive Piece where
  /-- The tag `<name a="v">`, or `<name a="v"/>` if it is closed. -/
  | start (name : String) (attrs : Attrs) (closed : Bool)
  | stop (name : String)
  | comment (inner : String)
  | text (content : String)
  deriving DecidableEq, Repr

namespace Piece

/-! ## Names -/

/-- A letter, a digit or a hyphen. -/
def isNameChar (c : Char) : Bool := c.isAlphanum || c = '-'

/-- A name without capital letters that starts with a letter. -/
def isName (name : String) : Bool :=
  match name.toList with
  | [] => false
  | c :: s => c.isLower && s.all fun d => d.isLower || d.isDigit || d = '-'

/-- Letters of any case, digits and hyphens, at least one of them. -/
def isSpelled (name : String) : Bool := !name.toList.isEmpty && name.toList.all isNameChar

theorem toNat_of_isNameChar {c : Char} (h : isNameChar c) : 45 ≤ c.toNat ∧ c.toNat ≤ 122 := by
  simp [isNameChar, Char.isAlphanum, Char.isAlpha, Char.isUpper, Char.isLower, Char.isDigit,
    UInt32.le_iff_toNat_le] at h
  have hv : c.toNat = c.val.toNat := rfl
  rcases h with h | rfl
  · omega
  · decide

theorem not_blank_of_isNameChar {c : Char} (h : isNameChar c) : isBlank c = false := by
  have := toNat_of_isNameChar h
  simp [isBlank, blankRanges]
  omega

theorem ne_of_isNameChar {c d : Char} (h : isNameChar c) (hd : isNameChar d = false) : c ≠ d := by
  rintro rfl
  rw [h] at hd
  cases hd

theorem isName_cases {name : String} (h : isName name) :
    name.toList ≠ [] ∧ ∀ c ∈ name.toList, c.isLower || c.isDigit || c = '-' := by
  unfold isName at h
  split at h
  · cases h
  · rename_i c s hs
    simp only [Bool.and_eq_true, List.all_eq_true] at h
    rw [hs]
    refine ⟨List.cons_ne_nil _ _, fun d hd => ?_⟩
    rcases List.mem_cons.1 hd with rfl | hd
    · simp [h.1]
    · exact h.2 d hd

theorem isSpelled_of_isName {name : String} (h : isName name) : isSpelled name := by
  obtain ⟨hne, hall⟩ := isName_cases h
  simp only [isSpelled, Bool.and_eq_true, Bool.not_eq_true', List.isEmpty_eq_false_iff, List.all_eq_true]
  refine ⟨hne, fun c hc => ?_⟩
  have := hall c hc
  simp only [isNameChar, Char.isAlphanum, Char.isAlpha]
  grind

theorem exists_of_isSpelled {name : String} (h : isSpelled name) :
    ∃ c s, name.toList = c :: s ∧ ∀ d ∈ name.toList, isNameChar d := by
  simp only [isSpelled, Bool.and_eq_true, Bool.not_eq_true', List.isEmpty_eq_false_iff, List.all_eq_true] at h
  obtain ⟨c, s, hs⟩ := List.exists_cons_of_ne_nil h.1
  exact ⟨c, s, hs, h.2⟩

theorem lower_of_isName {name : String} (h : isName name) : Token.lower name.toList = name := by
  have hup : ∀ c ∈ name.toList, ¬ c.isUpper := by
    intro c hc
    have := (isName_cases h).2 c hc
    simp [Char.isUpper, Char.isLower, Char.isDigit, UInt32.le_iff_toNat_le] at this ⊢
    have hv : c.toNat = c.val.toNat := rfl
    rcases this with this | rfl
    · omega
    · decide
  rw [Token.lower, List.map_congr_left fun c hc => Char.toLower_eq_of_not_isUpper (hup c hc), List.map_id',
    String.ofList_toList]

/-! ## What is written -/

def attrWritten (a : String × String) : List Char :=
  ' ' :: a.1.toList ++ '=' :: '"' :: Entity.encode a.2.toList ++ ['"']

/-- What a start tag has between its brackets. -/
def inside (name : String) (attrs : Attrs) (closed : Bool) : List Char :=
  name.toList ++ attrs.flatMap attrWritten ++ if closed then ['/'] else []

def startTag (name : String) (attrs : Attrs) (closed : Bool) : List Char := '<' :: inside name attrs closed ++ ['>']

def endTag (name : String) : List Char := '<' :: '/' :: name.toList ++ ['>']

def written : Piece → List Char
  | start name attrs closed => startTag name attrs closed
  | stop name => endTag name
  | comment inner => "<!--".toList ++ inner.toList ++ "-->".toList
  | text content => Entity.encode content.toList

/-- Pieces one after the other. -/
def source (ps : List Piece) : String := String.ofList (ps.flatMap written)

/-- The attributes that are set one after the other. -/
def setAll (attrs : Attrs) : Attrs := attrs.foldl (fun l a => Keyed.set a.1 a.2 l) []

/-- What a reader takes a piece for. -/
def token? : Piece → Option Token
  | start name attrs closed =>
    let tag := Token.lower name.toList
    some (.start tag (setAll attrs) (closed || Token.voidTags.contains tag))
  | stop name => some (.stop name)
  | comment _ => none
  | text content => some (.text content)

/-! ## The attributes of a tag -/

section

open Token

variable {acc : Attrs}

theorem quote_not_mem_encode (s : List Char) : '"' ∉ Entity.encode s := by
  intro h
  exact absurd (Entity.eq_of_mem_encode h (by decide)) (by decide)

theorem writtenValue_quoted {w : List Char} (hw : '"' ∉ w) (n : String) (r : List Char) :
    writtenValue n ('"' :: (w ++ '"' :: r)) = .ok (w, r) := by
  have hplain : ∀ c ∈ w, decide (c ≠ '"') = true := fun c hc => decide_eq_true (ne_of_mem_of_not_mem hc hw)
  rw [writtenValue, if_pos (by decide), List.dropWhile_append_of_pos hplain, List.takeWhile_append_of_pos hplain]
  simp

/-- What is written of an attribute is read up to its end. -/
theorem firstAttribute_attrWritten {a : String × String} (ha : isName a.1) (r : List Char) :
    firstAttribute (attrWritten a ++ r) = .ok (some (a.1, Entity.encode a.2.toList, r)) := by
  obtain ⟨c, s, hs, hall⟩ := exists_of_isSpelled (isSpelled_of_isName ha)
  have hname : ∀ d ∈ a.1.toList, (!endsName d) = true := fun d hd => by
    simp [endsName, not_blank_of_isNameChar (hall d hd), ne_of_isNameChar (hall d hd) (d := '=') rfl]
  let quoted := '"' :: (Entity.encode a.2.toList ++ '"' :: r)
  have htrim : trimStart (attrWritten a ++ r) = a.1.toList ++ '=' :: quoted := by
    have hc : isBlank c = false := not_blank_of_isNameChar (hall c (hs ▸ List.mem_cons_self))
    have hwritten : attrWritten a ++ r = ' ' :: (c :: s ++ '=' :: quoted) := by simp [attrWritten, quoted, hs]
    rw [hwritten, hs, trimStart, List.dropWhile_cons_of_pos (by decide), List.cons_append,
      List.dropWhile_cons_of_neg (by simp [hc])]
  have htake : (a.1.toList ++ '=' :: quoted).takeWhile (fun d => !endsName d) = a.1.toList := by
    rw [List.takeWhile_append_of_pos hname]
    exact List.append_nil _
  have hdrop : trimStart ((a.1.toList ++ '=' :: quoted).dropWhile fun d => !endsName d) = '=' :: quoted := by
    rw [List.dropWhile_append_of_pos hname]
    rfl
  have hvalue : writtenValue a.1 (trimStart quoted) = .ok (Entity.encode a.2.toList, r) :=
    writtenValue_quoted (quote_not_mem_encode _) a.1 r
  have hne : (a.1.toList ++ '=' :: quoted).isEmpty = false := by simp
  rw [firstAttribute, htrim]
  dsimp only
  rw [hne, if_neg Bool.false_ne_true, htake, hdrop, lower_of_isName ha, namedAttribute, hvalue]
  rfl

/-- A value is read as it was before it was written. -/
theorem attributes_attrWritten {a : String × String} (ha : isName a.1) (r : List Char) :
    attributes .between acc (attrWritten a ++ r) = attributes .between (Keyed.set a.1 a.2 acc) r := by
  rw [attributes_between, firstAttribute_attrWritten ha]
  dsimp only
  rw [setWritten, Entity.decode_encode, String.ofList_toList]

theorem attributes_written {attrs : Attrs} (h : ∀ a ∈ attrs, isName a.1) :
    attributes .between acc (attrs.flatMap attrWritten) =
      .ok (attrs.foldl (fun l a => Keyed.set a.1 a.2 l) acc) := by
  induction attrs generalizing acc with
  | nil => rfl
  | cons a attrs ih =>
    rw [List.flatMap_cons, attributes_attrWritten (h a List.mem_cons_self),
      ih fun b hb => h b (List.mem_cons_of_mem _ hb)]
    rfl

end

/-! ## Where a tag ends -/

section

open Token

variable {s t r : List Char}

theorem tagText_append {b : List Char} (hb : ∀ c ∈ b, c ≠ '>' ∧ c ≠ '"' ∧ c ≠ '\'')
    (h : tagText none s = some (t, r)) : tagText none (b ++ s) = some (b ++ t, r) := by
  induction b with
  | nil => exact h
  | cons c b ih =>
    obtain ⟨hgt, hquot, hapos⟩ := hb c List.mem_cons_self
    rw [List.cons_append, tagText, if_neg hgt]
    simp [hquot, hapos, ih fun d hd => hb d (List.mem_cons_of_mem _ hd)]

theorem tagText_quoted {v : List Char} (hv : '"' ∉ v) (h : tagText none s = some (t, r)) :
    tagText (some '"') (v ++ '"' :: s) = some (v ++ '"' :: t, r) := by
  induction v with
  | nil => simp [tagText, h]
  | cons c v ih =>
    simp only [List.mem_cons, not_or] at hv
    simp [tagText, Ne.symm hv.1, ih hv.2]

theorem plain_of_isNameChar {c : Char} (h : isNameChar c) : c ≠ '>' ∧ c ≠ '"' ∧ c ≠ '\'' :=
  ⟨ne_of_isNameChar h rfl, ne_of_isNameChar h rfl, ne_of_isNameChar h rfl⟩

theorem tagText_attrWritten {a : String × String} (ha : isName a.1) (h : tagText none s = some (t, r)) :
    tagText none (attrWritten a ++ s) = some (attrWritten a ++ t, r) := by
  obtain ⟨-, -, -, hall⟩ := exists_of_isSpelled (isSpelled_of_isName ha)
  have hplain : ∀ c ∈ ' ' :: a.1.toList ++ ['='], c ≠ '>' ∧ c ≠ '"' ∧ c ≠ '\'' := by
    intro c hc
    simp only [List.cons_append, List.mem_cons, List.mem_append, List.not_mem_nil, or_false] at hc
    rcases hc with rfl | hc | rfl
    · decide
    · exact plain_of_isNameChar (hall c hc)
    · decide
  have hquoted : tagText none ('"' :: (Entity.encode a.2.toList ++ '"' :: s)) =
      some ('"' :: (Entity.encode a.2.toList ++ '"' :: t), r) := by
    simp [tagText, tagText_quoted (quote_not_mem_encode _) h]
  simpa [attrWritten] using tagText_append hplain hquoted

theorem tagText_inside {name : String} {attrs : Attrs} (hn : isSpelled name) (ha : ∀ a ∈ attrs, isName a.1)
    (closed : Bool) (r : List Char) :
    tagText none (inside name attrs closed ++ '>' :: r) = some (inside name attrs closed, r) := by
  have hend : tagText none ((if closed then ['/'] else []) ++ '>' :: r) = some (if closed then ['/'] else [], r) := by
    cases closed <;> simp [tagText]
  have hattrs : tagText none (attrs.flatMap attrWritten ++ ((if closed then ['/'] else []) ++ '>' :: r)) =
      some (attrs.flatMap attrWritten ++ if closed then ['/'] else [], r) := by
    induction attrs with
    | nil => exact hend
    | cons a attrs ih =>
      have := tagText_attrWritten (ha a List.mem_cons_self) (ih fun b hb => ha b (List.mem_cons_of_mem _ hb))
      simpa only [List.flatMap_cons, List.append_assoc] using this
  obtain ⟨-, -, -, hall⟩ := exists_of_isSpelled hn
  have := tagText_append (fun c hc => plain_of_isNameChar (hall c hc)) hattrs
  simpa only [inside, List.append_assoc] using this

end

/-! ## A start tag -/

theorem trim_eq_self {s : List Char} (hh : ∀ c ∈ s.head?, isBlank c = false)
    (hl : ∀ c ∈ s.getLast?, isBlank c = false) : trim s = s := by
  have hstart : ∀ t : List Char, (∀ c ∈ t.head?, isBlank c = false) → trimStart t = t := by
    intro t ht
    cases t with
    | nil => rfl
    | cons c t => simp [trimStart, ht c rfl]
  rw [trim, hstart s hh, hstart s.reverse (by simpa using hl), List.reverse_reverse]

/-- A tag without its slash begins and ends with characters that are part of it. -/
theorem inside_ends {name : String} (hn : isSpelled name) (attrs : Attrs) :
    (∃ c, (inside name attrs false).head? = some c ∧ isNameChar c) ∧
      ∃ c, (inside name attrs false).getLast? = some c ∧ c ≠ '/' ∧ isBlank c = false := by
  obtain ⟨c, s, hs, hall⟩ := exists_of_isSpelled hn
  refine ⟨⟨c, by simp [inside, hs], hall c (by simp [hs])⟩, ?_⟩
  rcases List.eq_nil_or_concat attrs with rfl | ⟨attrs, a, rfl⟩
  · have hne : name.toList ≠ [] := by simp [hs]
    have hchar := hall _ (List.getLast_mem hne)
    refine ⟨name.toList.getLast hne, ?_, ne_of_isNameChar hchar rfl, not_blank_of_isNameChar hchar⟩
    simp [inside, List.getLast?_eq_some_getLast hne]
  · have hquote : inside name (attrs ++ [a]) false =
        name.toList ++ attrs.flatMap attrWritten ++
          (' ' :: a.1.toList ++ '=' :: '"' :: Entity.encode a.2.toList) ++ ['"'] := by
      simp [inside, attrWritten]
    exact ⟨'"', by rw [List.concat_eq_append, hquote, List.getLast?_concat], by decide, by decide⟩

theorem inside_closed (name : String) (attrs : Attrs) : inside name attrs true = inside name attrs false ++ ['/'] := by
  simp [inside]

theorem trim_inside {name : String} (hn : isSpelled name) (attrs : Attrs) :
    trim (inside name attrs false) = inside name attrs false := by
  obtain ⟨⟨c, hc, hchar⟩, d, hd, -, hblank⟩ := inside_ends hn attrs
  refine trim_eq_self (fun e he => ?_) fun e he => ?_
  · rw [hc, Option.mem_some_iff] at he
    exact he ▸ not_blank_of_isNameChar hchar
  · rw [hd, Option.mem_some_iff] at he
    exact he ▸ hblank

/-- A tag ends in a slash just if it is closed. -/
theorem getLast?_inside {name : String} (hn : isSpelled name) (attrs : Attrs) (closed : Bool) :
    (inside name attrs closed).getLast? = some '/' ↔ closed = true := by
  obtain ⟨-, d, hd, hslash, -⟩ := inside_ends hn attrs
  cases closed with
  | true => simp [inside_closed]
  | false => simp [hd, hslash]

/-- The name of a tag is its first word. -/
theorem name_inside {name : String} (hn : isSpelled name) (attrs : Attrs) :
    (inside name attrs false).takeWhile (fun c => !isBlank c) = name.toList ∧
      (inside name attrs false).dropWhile (fun c => !isBlank c) = attrs.flatMap attrWritten := by
  obtain ⟨-, -, -, hall⟩ := exists_of_isSpelled hn
  have hname : ∀ c ∈ name.toList, (!isBlank c) = true := by
    intro c hc
    rw [not_blank_of_isNameChar (hall c hc)]
    rfl
  have hattrs : (attrs.flatMap attrWritten).takeWhile (fun c => !isBlank c) = [] ∧
      (attrs.flatMap attrWritten).dropWhile (fun c => !isBlank c) = attrs.flatMap attrWritten := by
    cases attrs with
    | nil => exact ⟨rfl, rfl⟩
    | cons a attrs => simp [attrWritten, isBlank, blankRanges]
  simp only [inside, Bool.false_eq_true, if_false, List.append_nil]
  rw [List.takeWhile_append_of_pos hname, List.dropWhile_append_of_pos hname, hattrs.1, hattrs.2, List.append_nil]
  exact ⟨rfl, rfl⟩

theorem ofTagText_inside {name : String} {attrs : Attrs} (hn : isSpelled name) (ha : ∀ a ∈ attrs, isName a.1)
    (closed : Bool) (position : Nat) : Token.ofTagText position (inside name attrs closed) =
      .ok (.start (Token.lower name.toList) (setAll attrs)
        (closed || Token.voidTags.contains (Token.lower name.toList))) := by
  obtain ⟨c, s, hs, -⟩ := exists_of_isSpelled hn
  have hopen : trim (if closed then (inside name attrs closed).dropLast else inside name attrs closed) =
      inside name attrs false := by
    cases closed <;> simp [inside_closed, trim_inside hn]
  obtain ⟨hname, hattrs⟩ := name_inside hn attrs
  simp only [Token.ofTagText, getLast?_inside hn, hopen, hname, hattrs, attributes_written ha]
  simp [hs, setAll]

/-! ## Every piece -/

/-- A piece that a reader takes for what its writer meant. The name of a tag may have
letters of any case, and that of an end tag is anything that is not trimmed or cut. -/
def Readable : Piece → Prop
  | start name attrs _ => isSpelled name ∧ ∀ a ∈ attrs, isName a.1
  | stop name => '>' ∉ name.toList ∧ trim name.toList = name.toList
  | comment inner => ¬ "-->".toList <:+: inner.toList
  | text content => ¬ content.toList.all isBlank

instance (p : Piece) : Decidable p.Readable :=
  match p with
  | start _ _ _ => inferInstanceAs (Decidable (_ ∧ _))
  | stop _ => inferInstanceAs (Decidable (_ ∧ _))
  | comment _ => inferInstanceAs (Decidable (¬ _))
  | text _ => inferInstanceAs (Decidable (¬ _))

def isText : Piece → Bool
  | text _ => true
  | _ => false

theorem afterComment_cons {c : Char} {s : List Char} (h : ¬ ['-', '-', '>'] <+: c :: s) :
    Token.afterComment (c :: s) = Token.afterComment s := by
  rw [Token.afterComment.eq_def]
  split
  · contradiction
  · rename_i t heq
    exact absurd (heq ▸ List.prefix_append ['-', '-', '>'] t) h
  · rename_i heq
    cases heq
    rfl

/-- A comment ends where its writer ended it: not even the last characters of the inside
begin another end, since a hyphen follows them. -/
theorem afterComment_append {inner : List Char} (h : ¬ ['-', '-', '>'] <:+: inner) (r : List Char) :
    Token.afterComment (inner ++ '-' :: '-' :: '>' :: r) = some r := by
  induction inner with
  | nil => rfl
  | cons c inner ih =>
    have hinner : ¬ ['-', '-', '>'] <:+: inner := fun hi => h (List.infix_cons hi)
    rw [List.cons_append, afterComment_cons, ih hinner]
    intro hp
    match inner, hp with
    | [], hp => simp [List.cons_prefix_cons] at hp
    | [d], hp => simp [List.cons_prefix_cons] at hp
    | d :: e :: inner, hp =>
      simp only [List.cons_append, List.cons_prefix_cons, List.nil_prefix, and_true] at hp
      obtain ⟨rfl, rfl, rfl⟩ := hp
      exact h (List.prefix_append ['-', '-', '>'] inner).isInfix

theorem endText_append {name : List Char} (h : '>' ∉ name) (r : List Char) :
    Token.endText (name ++ '>' :: r) = some (name, r) := by
  induction name with
  | nil => rfl
  | cons c name ih =>
    simp only [List.mem_cons, not_or] at h
    rw [List.cons_append, Token.endText, if_neg (Ne.symm h.1), ih h.2]
    rfl

theorem next_startTag {name : String} {attrs : Attrs} (hn : isSpelled name) (ha : ∀ a ∈ attrs, isName a.1)
    (closed : Bool) (position : Nat) (r : List Char) :
    Token.next position (startTag name attrs closed ++ r) = .ok ((start name attrs closed).token?, r) := by
  obtain ⟨c, s, hs, hall⟩ := exists_of_isSpelled hn
  have hc : isNameChar c := hall c (by simp [hs])
  have hbang : c ≠ '!' := ne_of_isNameChar hc rfl
  have hslash : c ≠ '/' := ne_of_isNameChar hc rfl
  obtain ⟨t, ht⟩ : ∃ t, inside name attrs closed ++ '>' :: r = c :: t :=
    ⟨_, by simp only [inside, hs, List.cons_append]; rfl⟩
  have htext : startTag name attrs closed ++ r = '<' :: (inside name attrs closed ++ '>' :: r) := by simp [startTag]
  rw [htext, Token.next.eq_def]
  split
  · rename_i heq
    rw [ht] at heq
    exact absurd (List.cons.inj (List.cons.inj heq).2).1 hbang
  · rename_i heq
    rw [ht] at heq
    exact absurd (List.cons.inj (List.cons.inj heq).2).1 hslash
  · rename_i heq
    rw [← (List.cons.inj heq).2, tagText_inside hn ha]
    simp only [ofTagText_inside hn ha]
    rfl
  · rename_i hlt
    exact absurd rfl (hlt _)

theorem next_endTag {name : String} (hgt : '>' ∉ name.toList) (htrim : trim name.toList = name.toList)
    (position : Nat) (r : List Char) :
    Token.next position (endTag name ++ r) = .ok ((stop name).token?, r) := by
  have htext : endTag name ++ r = '<' :: '/' :: (name.toList ++ '>' :: r) := by simp [endTag]
  rw [htext, Token.next, endText_append hgt]
  simp only [htrim, String.ofList_toList]
  rfl

theorem next_comment {inner : String} (h : ¬ "-->".toList <:+: inner.toList) (position : Nat) (r : List Char) :
    Token.next position ((comment inner).written ++ r) = .ok ((comment inner).token?, r) := by
  have htext : (comment inner).written ++ r =
      '<' :: '!' :: '-' :: '-' :: (inner.toList ++ '-' :: '-' :: '>' :: r) := by simp [written]
  rw [htext, Token.next, afterComment_append h]
  rfl

theorem next_text {content : String} (h : ¬ content.toList.all isBlank) (position : Nat) {r : List Char}
    (hr : ∀ c ∈ r.head?, c = '<') :
    Token.next position ((text content).written ++ r) = .ok ((text content).token?, r) := by
  have hnone : ∀ c ∈ Entity.encode content.toList, c ≠ '<' := by
    rintro c hc rfl
    exact absurd (Entity.eq_of_mem_encode hc (by decide)) (by decide)
  have hplain : ∀ c ∈ Entity.encode content.toList, decide (c ≠ '<') = true :=
    fun c hc => decide_eq_true (hnone c hc)
  have hof : Token.ofText (Entity.encode content.toList) = some (.text content) := by
    rw [Token.ofText, Entity.decode_encode, if_neg h, String.ofList_toList]
  have hrest : r.takeWhile (fun c => decide (c ≠ '<')) = [] ∧ r.dropWhile (fun c => decide (c ≠ '<')) = r := by
    cases r with
    | nil => exact ⟨rfl, rfl⟩
    | cons c r => simp [hr c rfl]
  obtain ⟨c, s, hs⟩ : ∃ c s, Entity.encode content.toList = c :: s := by
    apply List.exists_cons_of_ne_nil
    intro hnil
    rw [hnil] at hof
    cases hof
  -- What is written has a first character, so no tag or comment is seen there.
  have hhead : ∀ t, (text content).written ++ r ≠ '<' :: t := by
    intro t ht
    rw [written, hs, List.cons_append] at ht
    exact hnone c (by rw [hs]; exact List.mem_cons_self) (List.cons.inj ht).1
  rw [Token.next.eq_def]
  split
  · rename_i heq
    exact absurd heq (hhead _)
  · rename_i heq
    exact absurd heq (hhead _)
  · rename_i heq
    exact absurd heq (hhead _)
  · simp only [written, token?]
    rw [List.takeWhile_append_of_pos hplain, List.dropWhile_append_of_pos hplain, hrest.1, hrest.2,
      List.append_nil, hof]

/-- A text ends where the next tag or comment starts; the other pieces end by themselves. -/
theorem next_written {p : Piece} (hp : p.Readable) (position : Nat) {r : List Char}
    (hr : p.isText → ∀ c ∈ r.head?, c = '<') : Token.next position (p.written ++ r) = .ok (p.token?, r) := by
  cases p with
  | start name attrs closed => exact next_startTag hp.1 hp.2 closed position r
  | stop name => exact next_endTag hp.1 hp.2 position r
  | comment inner => exact next_comment hp position r
  | text content => exact next_text hp position (hr rfl)

/-! ## All pieces -/

/-- No two texts stand next to each other, where a reader could not tell them apart. -/
def Spaced (ps : List Piece) : Prop := ps.IsChain fun p q => ¬ (p.isText ∧ q.isText)

instance (ps : List Piece) : Decidable (Spaced ps) := inferInstanceAs (Decidable (List.IsChain _ _))

theorem head?_written {p : Piece} (h : p.isText = false) : p.written.head? = some '<' := by
  cases p <;> first | rfl | simp [isText] at h

/-- After a text comes a piece that starts with a bracket, or nothing. -/
theorem head?_source {p : Piece} {ps : List Piece} (hs : Spaced (p :: ps)) (hp : p.isText) :
    ∀ c ∈ (ps.flatMap written).head?, c = '<' := by
  cases ps with
  | nil => simp
  | cons q ps =>
    have hq : q.isText = false := by
      simpa [hp] using (List.isChain_cons_cons.1 hs).1
    intro c hc
    rw [List.flatMap_cons, List.head?_append, head?_written hq] at hc
    exact (Option.some.inj hc).symm

theorem written_ne_nil {p : Piece} (hp : p.Readable) : p.written ≠ [] := by
  intro h
  cases p with
  | text content =>
    refine hp ?_
    rw [← Entity.decode_encode content.toList, ← written, h]
    rfl
  | start => cases h
  | stop => cases h
  | comment => simp [written] at h

theorem rest_cons {total : Nat} {c : Char} {s r : List Char} {t : Option Token}
    (h : Token.next (total - Token.byteLength (c :: s)) (c :: s) = .ok (t, r)) :
    Token.rest total (c :: s) = (t.toList ++ (Token.rest total r).1, (Token.rest total r).2) := by
  rw [Token.rest]
  split
  · rename_i heq
    cases h.symm.trans heq
  · rename_i heq
    cases h.symm.trans heq
    rfl

theorem rest_fault {total : Nat} {c : Char} {s : List Char} {e : TemplateError}
    (h : Token.next (total - Token.byteLength (c :: s)) (c :: s) = .error e) :
    Token.rest total (c :: s) = ([], some e) := by
  rw [Token.rest]
  split
  · rename_i heq
    cases h.symm.trans heq
    rfl
  · rename_i heq
    cases h.symm.trans heq

theorem rest_source {ps : List Piece} (hp : ∀ p ∈ ps, p.Readable) (hs : Spaced ps) (total : Nat) :
    Token.rest total (ps.flatMap written) = (ps.filterMap token?, none) := by
  induction ps with
  | nil => rw [List.flatMap_nil, Token.rest]; rfl
  | cons p ps ih =>
    have hread := hp p List.mem_cons_self
    have htail := ih (fun q hq => hp q (List.mem_cons_of_mem _ hq)) hs.tail
    obtain ⟨c, s, hcs⟩ := List.exists_cons_of_ne_nil (written_ne_nil hread)
    have hnext := fun position => next_written hread position (head?_source hs)
    rw [List.flatMap_cons]
    simp only [hcs, List.cons_append] at hnext ⊢
    rw [rest_cons (hnext _), htail]
    cases hp : p.token? <;> simp [hp]

/-- To parse a source is to build a tree from what its pieces are taken for. -/
theorem parse_source {ps : List Piece} (hp : ∀ p ∈ ps, p.Readable) (hs : Spaced ps) :
    Fragment.parse (source ps) = Fragment.nodes none [] .nil (ps.filterMap token?) >>= Fragment.root := by
  rw [Fragment.parse, Token.tokens, source, String.toList_ofList, rest_source hp hs]

end Piece

end FloatingPanels
