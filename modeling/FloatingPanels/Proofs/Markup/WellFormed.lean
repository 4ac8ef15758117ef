import FloatingPanels.Proofs.Keyed
import FloatingPanels.Proofs.Markup.Attribute
import FloatingPanels.Proofs.Markup.Canonical
import FloatingPanels.Proofs.Markup.Cursor
/-!
# Well-formed trees

However odd a source is, the tree that it is parsed into is in order: tags and names of
attributes are in small letters, no name comes twice, every text shows something, and void
elements are empty. Each token is in order for itself, and the parser, which keeps the open
elements and the nodes before them in order, adds nothing else.
-/

namespace FloatingPanels

/-- No letter of a name is a capital. -/
def InSmallLetters (name : String) : Prop := ∀ c ∈ name.toList, c.isUpper = false

namespace Attrs

/-- No name comes twice. -/
def Distinct (attrs : Attrs) : Prop := attrs.keys.Nodup

/-- The names are distinct and in small letters. -/
structure InOrder (attrs : Attrs) : Prop where
  distinct : attrs.Distinct
  small : ∀ name ∈ attrs.keys, InSmallLetters name

end Attrs

/-- A tag is a word in small letters. -/
structure IsTag (tag : String) : Prop where
  nonempty : tag.toList ≠ []
  word : ∀ c ∈ tag.toList, isBlank c = false
  small : InSmallLetters tag

/-- What holds at every depth of some nodes, where `named` is what holds of the attributes of
each element. -/
def Nodes.WellFormed (named : Attrs → Prop) : Nodes → Prop
  | nil => True
  | text content rest => ¬ content.toList.all isBlank ∧ rest.WellFormed named
  | element tag attrs children rest =>
    (IsTag tag ∧ named attrs ∧ (Token.voidTags.contains tag → children = nil)) ∧
      children.WellFormed named ∧ rest.WellFormed named

def Element.WellFormed (named : Attrs → Prop) (e : Element) : Prop := (Nodes.ofElement e).WellFormed named

theorem Nodes.wellFormed_append {named : Attrs → Prop} {ms ns : Nodes} (hm : ms.WellFormed named)
    (hn : ns.WellFormed named) : (ms ++ ns).WellFormed named := by
  induction ms with
  | nil => exact hn
  | text content rest ih => exact ⟨hm.1, ih hm.2⟩
  | element tag attrs children rest _ ih => exact ⟨hm.1, hm.2.1, ih hm.2.2⟩

namespace Token

/-! ## Attributes -/

theorem inSmallLetters_lower (s : List Char) : InSmallLetters (lower s) := by
  intro c hc
  rw [lower, String.toList_ofList] at hc
  obtain ⟨d, -, rfl⟩ := List.mem_map.1 hc
  exact Char.isUpper_toLower_eq_false d

theorem name_of_namedAttribute {name n : String} {s v r : List Char} (h : namedAttribute name s = .ok (n, v, r)) :
    n = name := by
  fun_cases namedAttribute name s with
  | case1 s =>
    rw [namedAttribute] at h
    cases hvalue : writtenValue name (trimStart s) with
    | error e => rw [hvalue] at h; cases h
    | ok p => rw [hvalue] at h; cases h; rfl
  | case2 s hne =>
    rw [namedAttribute] at h
    · cases h
      rfl
    · exact hne

theorem small_of_firstAttribute {n : String} {s v r : List Char} (h : firstAttribute s = .ok (some (n, v, r))) :
    InSmallLetters n := by
  simp only [firstAttribute] at h
  split at h
  · cases h
  · cases hnamed : namedAttribute (lower ((trimStart s).takeWhile fun c => !endsName c))
      (trimStart ((trimStart s).dropWhile fun c => !endsName c)) with
    | error e => rw [hnamed] at h; cases h
    | ok p =>
      rw [hnamed] at h
      cases h
      rw [name_of_namedAttribute hnamed]
      exact inSmallLetters_lower _

/-- Setting a name again does not make it come twice. -/
theorem inOrder_setWritten {n : String} {attrs : Attrs} (ha : attrs.InOrder) (hn : InSmallLetters n) (v : List Char) :
    (setWritten n v attrs).InOrder := by
  refine ⟨Keyed.nodup_keys_set ha.distinct, fun name hname => ?_⟩
  rw [setWritten, Keyed.keys_set] at hname
  split at hname
  · exact ha.small name hname
  · rcases List.mem_append.1 hname with hname | hname
    · exact ha.small name hname
    · rw [List.mem_singleton.1 hname]
      exact hn

theorem inOrder_readAttributes {attrs attrs' : Attrs} {s : List Char} (h : readAttributes attrs s = .ok attrs')
    (ha : attrs.InOrder) : attrs'.InOrder := by
  fun_induction readAttributes attrs s with
  | case1 attrs s e hfirst => cases h
  | case2 attrs s hfirst =>
    cases h
    exact ha
  | case3 attrs s n v r hfirst ih => exact ih h (inOrder_setWritten ha (small_of_firstAttribute hfirst) v)

theorem inOrder_attributes {attrs : Attrs} {s : List Char} (h : attributes .between [] s = .ok attrs) :
    attrs.InOrder := by
  rw [← readAttributes_eq] at h
  exact inOrder_readAttributes h ⟨List.nodup_nil, fun _ hname => absurd hname List.not_mem_nil⟩

/-! ## Tokens -/

/-- A token that adds nothing out of order to a tree. -/
def InOrder : Token → Prop
  | start tag attrs leaf => IsTag tag ∧ attrs.InOrder ∧ (voidTags.contains tag → leaf)
  | stop _ => True
  | text content => ¬ content.toList.all isBlank

/-- Small letters do not make a blank of anything. -/
theorem isBlank_toLower {c : Char} (h : isBlank c = false) : isBlank c.toLower = false := by
  by_cases hup : c.isUpper
  · refine Piece.not_blank_of_isNameChar ?_
    simp [Piece.isNameChar, Char.isAlphanum, Char.isAlpha, hup]
  · rwa [Char.toLower_eq_of_not_isUpper hup]

/-- The word that a tag starts with. -/
theorem isTag_lower {s : List Char} (h : (s.takeWhile fun c => !isBlank c).isEmpty = false) :
    IsTag (lower (s.takeWhile fun c => !isBlank c)) := by
  refine ⟨?_, fun c hc => ?_, inSmallLetters_lower _⟩
  · rw [lower, String.toList_ofList]
    simpa using h
  · rw [lower, String.toList_ofList] at hc
    obtain ⟨d, hd, rfl⟩ := List.mem_map.1 hc
    exact isBlank_toLower (by simpa using List.mem_takeWhile_imp hd)

theorem inOrder_ofTagText {position : Nat} {s : List Char} {t : Token} (h : ofTagText position s = .ok t) :
    t.InOrder := by
  simp only [ofTagText] at h
  generalize (if s.getLast? = some '/' then s.dropLast else s) = body at h
  by_cases hname : ((trim body).takeWhile fun c => !isBlank c).isEmpty
  · rw [if_pos hname] at h
    cases h
  · rw [if_neg hname] at h
    cases hattrs : attributes .between [] ((trim body).dropWhile fun c => !isBlank c) with
    | error e => rw [hattrs] at h; cases h
    | ok attrs =>
      rw [hattrs] at h
      cases h
      exact ⟨isTag_lower (Bool.eq_false_iff.2 hname), inOrder_attributes hattrs, fun hvoid => by rw [hvoid, Bool.or_true]⟩

theorem inOrder_ofText {s : List Char} {t : Token} (h : ofText s = some t) : t.InOrder := by
  unfold ofText at h
  dsimp only at h
  split at h
  · cases h
  · rename_i hblank
    cases h
    rwa [InOrder, String.toList_ofList]

theorem inOrder_next {position : Nat} {s r : List Char} {t : Token} (h : next position s = .ok (some t, r)) :
    t.InOrder := by
  revert h
  fun_cases next position s with
  | case1 => intro h; cases h
  | case2 => intro h; cases h
  | case3 => intro h; cases h
  | case4 => intro h; cases h; exact trivial
  | case5 => intro h; cases h
  | case6 s hcomment hslash t' r' htag =>
    intro h
    cases hof : ofTagText position t' with
    | error e => rw [hof] at h; cases h
    | ok token =>
      rw [hof] at h
      cases h
      exact inOrder_ofTagText hof
  | case7 =>
    intro h
    exact inOrder_ofText (Prod.mk.inj (Except.ok.inj h)).1

theorem inOrder_rest {total : Nat} {s : List Char} {t : Token} (ht : t ∈ (rest total s).1) : t.InOrder := by
  fun_induction rest total s with
  | case1 => cases ht
  | case2 => cases ht
  | case3 c s token r hnext ih =>
    rcases List.mem_append.1 ht with ht | ht
    · rw [Option.mem_toList.1 ht] at hnext
      exact inOrder_next hnext
    · exact ih ht

end Token

namespace Fragment

/-! ## The tree -/

/-- An open element that may get children. -/
structure Unfinished.WellFormed (u : Unfinished) : Prop where
  tag : IsTag u.tag
  attrs : u.attrs.InOrder
  open_ : ¬ Token.voidTags.contains u.tag
  before : u.before.WellFormed Attrs.InOrder

theorem nodes_wellFormed {fault : Option TemplateError} {stack : List Unfinished} {siblings ns : Nodes}
    {ts : List Token} (h : nodes fault stack siblings ts = .ok ns) (ht : ∀ t ∈ ts, t.InOrder)
    (hstack : ∀ u ∈ stack, u.WellFormed) (hs : siblings.WellFormed Attrs.InOrder) : ns.WellFormed Attrs.InOrder := by
  induction ts generalizing stack siblings with
  | nil =>
    simp only [nodes] at h
    split at h
    · cases h
    · cases h
      exact hs
    · cases h
  | cons t ts ih =>
    obtain ⟨hhead, htail⟩ := List.forall_mem_cons.1 ht
    cases t with
    | text content => exact ih h htail hstack (Nodes.wellFormed_append hs ⟨hhead, trivial⟩)
    | start tag attrs leaf =>
      obtain ⟨htag, hattrs, hvoid⟩ := hhead
      rw [nodes] at h
      split at h
      · exact ih h htail hstack (Nodes.wellFormed_append hs ⟨⟨htag, hattrs, fun _ => rfl⟩, trivial, trivial⟩)
      · rename_i hleaf
        exact ih h htail (List.forall_mem_cons.2 ⟨⟨htag, hattrs, fun hv => hleaf (hvoid hv), hs⟩, hstack⟩) trivial
    | stop name =>
      simp only [nodes] at h
      split at h
      · cases h
      · rename_i top stack
        obtain ⟨htop, hstack⟩ := List.forall_mem_cons.1 hstack
        split at h
        · -- The element is closed with the siblings as its children.
          refine ih h htail hstack (Nodes.wellFormed_append htop.before ⟨⟨htop.tag, htop.attrs, ?_⟩, hs, trivial⟩)
          exact fun hvoid => absurd hvoid htop.open_
        · cases h

theorem eq_ofElement_of_root {ns : Nodes} {e : Element} (h : root ns = .ok e) : ns = Nodes.ofElement e := by
  unfold root at h
  split at h <;> cases h
  rfl

theorem wellFormed_of_parse {source : String} {e : Element} (h : parse source = .ok e) :
    e.WellFormed Attrs.InOrder := by
  cases hnodes : nodes (Token.tokens source).2 [] .nil (Token.tokens source).1 with
  | error fault =>
    simp only [parse, hnodes] at h
    cases h
  | ok ns =>
    have hroot : root ns = .ok e := by
      simp only [parse, hnodes] at h
      exact h
    rw [Element.WellFormed, ← eq_ofElement_of_root hroot]
    exact nodes_wellFormed hnodes (fun t ht => Token.inOrder_rest ht) (List.forall_mem_nil _) trivial

end Fragment

end FloatingPanels
