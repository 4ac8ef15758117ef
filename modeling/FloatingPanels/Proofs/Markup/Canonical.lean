import FloatingPanels.Proofs.Markup.Piece
/-!
# Canonical markup

A tree whose names are names, whose texts show something and are told apart, and whose void
elements are empty has a canonical text: each element between its two tags, a void one as
its start tag alone. `nodes_recased` follows the building of a tree through such a text, and
through every one that differs from it in capital letters of the tags. Parsing undoes
printing, and capital letters make no difference in a start tag. In an end tag they do: its
name is compared as it is written with the name of the open element, which has none.
-/

namespace FloatingPanels

namespace Nodes

/-! ## Sequences of nodes -/

theorem nil_append (ns : Nodes) : nil ++ ns = ns := rfl

theorem text_append (content : String) (rest ns : Nodes) : text content rest ++ ns = text content (rest ++ ns) := rfl

theorem element_append (tag : String) (attrs : Attrs) (children rest ns : Nodes) :
    element tag attrs children rest ++ ns = element tag attrs children (rest ++ ns) := rfl

theorem append_nil (ns : Nodes) : ns ++ nil = ns := by
  induction ns with
  | nil => rfl
  | text content rest ih => rw [text_append, ih]
  | element tag attrs children rest _ ih => rw [element_append, ih]

theorem append_assoc (ls ms ns : Nodes) : ls ++ ms ++ ns = ls ++ (ms ++ ns) := by
  induction ls with
  | nil => rfl
  | text content rest ih => rw [text_append, text_append, text_append, ih]
  | element tag attrs children rest _ ih => rw [element_append, element_append, element_append, ih]

/-! ## Canonical trees -/

def startsWithText : Nodes → Bool
  | text _ _ => true
  | _ => false

/-- Nodes that can be told from their canonical text. -/
def Canonical : Nodes → Prop
  | nil => True
  | text content rest => ¬ content.toList.all isBlank ∧ ¬ rest.startsWithText ∧ rest.Canonical
  | element tag attrs children rest =>
    (Piece.isName tag ∧ (∀ a ∈ attrs, Piece.isName a.1) ∧ attrs.keys.Nodup) ∧
      (Token.voidTags.contains tag → children = nil) ∧ children.Canonical ∧ rest.Canonical

instance decidableCanonical : (ns : Nodes) → Decidable ns.Canonical
  | nil => inferInstanceAs (Decidable True)
  | text _ rest =>
    have := decidableCanonical rest
    inferInstanceAs (Decidable (_ ∧ _ ∧ rest.Canonical))
  | element _ _ children rest =>
    have := decidableCanonical children
    have := decidableCanonical rest
    inferInstanceAs (Decidable (_ ∧ _ ∧ children.Canonical ∧ rest.Canonical))

/-- The pieces of the canonical text of some nodes. -/
def pieces : Nodes → List Piece
  | nil => []
  | text content rest => .text content :: rest.pieces
  | element tag attrs children rest =>
    .start tag attrs false ::
      if Token.voidTags.contains tag then rest.pieces else children.pieces ++ .stop tag :: rest.pieces

end Nodes

namespace Element

def Canonical (e : Element) : Prop := (Nodes.ofElement e).Canonical

instance (e : Element) : Decidable e.Canonical := inferInstanceAs (Decidable (Nodes.Canonical _))

def pieces (e : Element) : List Piece := (Nodes.ofElement e).pieces

/-- The canonical text of an element. -/
def markup (e : Element) : String := Piece.source e.pieces

end Element

namespace Piece

/-! ## The pieces of canonical trees -/

/-- A piece that the canonical text of a tree can have. -/
def Plain : Piece → Prop
  | start name attrs _ => isName name ∧ ∀ a ∈ attrs, isName a.1
  | stop name => isName name
  | comment _ => False
  | text content => ¬ content.toList.all isBlank

theorem plain_of_mem {ns : Nodes} (h : ns.Canonical) {p : Piece} (hp : p ∈ ns.pieces) : p.Plain := by
  induction ns with
  | nil => cases hp
  | text content rest ih =>
    rcases List.mem_cons.1 hp with rfl | hp
    · exact h.1
    · exact ih h.2.2 hp
  | element tag attrs children rest ihc ihr =>
    obtain ⟨⟨htag, hattrs, -⟩, -, hchildren, hrest⟩ := h
    rcases List.mem_cons.1 hp with rfl | hp
    · exact ⟨htag, hattrs⟩
    · split at hp
      · exact ihr hrest hp
      · rcases List.mem_append.1 hp with hp | hp
        · exact ihc hchildren hp
        · rcases List.mem_cons.1 hp with rfl | hp
          · exact htag
          · exact ihr hrest hp

theorem Spaced.cons {p : Piece} {ps : List Piece} (hp : p.isText = false) (h : Spaced ps) : Spaced (p :: ps) :=
  List.isChain_cons.2 ⟨fun _ _ ht => by simp [hp] at ht, h⟩

/-- A piece that is no text keeps those before it and those after it apart. -/
theorem Spaced.append {p : Piece} {ps qs : List Piece} (hp : p.isText = false) (h : Spaced ps) (hq : Spaced qs) :
    Spaced (ps ++ p :: qs) := by
  refine List.isChain_append.2 ⟨h, hq.cons hp, fun q _ r hr ht => ?_⟩
  rw [List.head?_cons, Option.mem_some_iff] at hr
  simp [← hr, hp] at ht

theorem spaced_pieces {ns : Nodes} (h : ns.Canonical) : Spaced ns.pieces := by
  induction ns with
  | nil => exact .nil
  | text content rest ih =>
    refine List.isChain_cons.2 ⟨fun p hp ht => h.2.1 ?_, ih h.2.2⟩
    cases rest with
    | nil => cases hp
    | text => rfl
    | element =>
      cases Option.some.inj hp
      cases ht.2
  | element tag attrs children rest ihc ihr =>
    obtain ⟨-, -, hchildren, hrest⟩ := h
    rw [Nodes.pieces]
    split
    · exact (ihr hrest).cons rfl
    · exact ((ihc hchildren).append rfl (ihr hrest)).cons rfl

/-! ## Capital letters -/

/-- A name in which some of the letters of another are capitals. -/
def Capitals (name name' : String) : Prop := List.Forall₂ (fun c d => d = c ∨ d = c.toUpper) name.toList name'.toList

instance (name name' : String) : Decidable (Capitals name name') := inferInstanceAs (Decidable (List.Forall₂ _ _ _))

/-- Some of the letters of a tag's name become capitals. -/
inductive Recased : Piece → Piece → Prop where
  | start {name name' : String} (h : Capitals name name') (attrs : Attrs) (closed : Bool) :
    Recased (start name attrs closed) (start name' attrs closed)
  | stop {name name' : String} (h : Capitals name name') : Recased (stop name) (stop name')
  | same (p : Piece) : Recased p p

/-- A piece with the name of its tag in small letters. -/
def lowered : Piece → Piece
  | start name attrs closed => start (Token.lower name.toList) attrs closed
  | stop name => stop (Token.lower name.toList)
  | p => p

theorem toLower_of_capitals {s t : List Char} (h : List.Forall₂ (fun c d => d = c ∨ d = c.toUpper) s t) :
    t.map Char.toLower = s.map Char.toLower := by
  induction h with
  | nil => rfl
  | cons hc _ ih =>
    rw [List.map_cons, List.map_cons, ih]
    rcases hc with rfl | rfl
    · rfl
    · rw [Char.toLower_toUpper_eq_toLower]

theorem lower_of_capitals {name name' : String} (hn : isName name) (h : Capitals name name') :
    Token.lower name'.toList = name := by
  rw [Token.lower, toLower_of_capitals h]
  exact lower_of_isName hn

theorem isText_lowered (p : Piece) : p.lowered.isText = p.isText := by
  cases p <;> rfl

theorem lowered_of_plain {p : Piece} (h : p.Plain) : p.lowered = p := by
  cases p with
  | start name attrs closed => rw [lowered, lower_of_isName h.1]
  | stop name => rw [lowered, lower_of_isName h]
  | comment => rfl
  | text => rfl

/-- Small letters take capitals back. -/
theorem lowered_of_recased {p q : Piece} (hp : p.Plain) (h : p.Recased q) : q.lowered = p := by
  cases h with
  | start hc attrs closed => rw [lowered, lower_of_capitals hp.1 hc]
  | stop hc => rw [lowered, lower_of_capitals hp hc]
  | same => exact lowered_of_plain hp

theorem map_lowered_of_recased {ps qs : List Piece} (hp : ∀ p ∈ ps, p.Plain) (h : List.Forall₂ Recased ps qs) :
    qs.map lowered = ps := by
  induction h with
  | nil => rfl
  | cons hr _ ih =>
    rw [List.map_cons, lowered_of_recased (hp _ List.mem_cons_self) hr, ih fun p h => hp p (List.mem_cons_of_mem _ h)]

theorem isNameChar_of_toLower {c : Char} (h : isNameChar c.toLower) : isNameChar c := by
  by_cases hc : c.isUpper
  · simp [isNameChar, Char.isAlphanum, Char.isAlpha, hc]
  · rwa [Char.toLower_eq_of_not_isUpper hc] at h

/-- A name stays one that is read as a whole when some of its letters become capitals. -/
theorem isSpelled_of_lower {name : String} (h : isName (Token.lower name.toList)) : isSpelled name := by
  have hlower := isSpelled_of_isName h
  simp only [isSpelled, Token.lower, String.toList_ofList, List.isEmpty_map, List.all_map, Bool.and_eq_true,
    List.all_eq_true] at hlower ⊢
  exact ⟨hlower.1, fun c hc => isNameChar_of_toLower (hlower.2 c hc)⟩

theorem readable_of_lowered {p : Piece} (h : p.lowered.Plain) : p.Readable := by
  cases p with
  | start name attrs closed => exact ⟨isSpelled_of_lower h.1, h.2⟩
  | stop name =>
    obtain ⟨-, -, -, hall⟩ := exists_of_isSpelled (isSpelled_of_lower h)
    have hblank : ∀ c ∈ name.toList, isBlank c = false := fun c hc => not_blank_of_isNameChar (hall c hc)
    refine ⟨fun hgt => ne_of_isNameChar (hall _ hgt) rfl rfl, trim_eq_self (fun c hc => ?_) fun c hc => ?_⟩
    · exact hblank c (List.mem_of_mem_head? hc)
    · exact hblank c (List.mem_of_mem_getLast? hc)
  | comment => exact h.elim
  | text content => exact h

variable {α : Type}

/-- What comes of pieces that would come to `r`, if no end tag among them has a capital
letter: the first of those that have one is not the end tag of the open element. -/
def faultOr (ps : List Piece) (r : Except TemplateError α) : Except TemplateError α :=
  match ps with
  | [] => r
  | stop name :: ps =>
    if Token.lower name.toList = name then faultOr ps r
    else .error (.mismatched (some (Token.lower name.toList)) name)
  | _ :: ps => faultOr ps r

theorem faultOr_start (name : String) (attrs : Attrs) (closed : Bool) (ps : List Piece) (r : Except TemplateError α) :
    faultOr (start name attrs closed :: ps) r = faultOr ps r := rfl

theorem faultOr_append (ps qs : List Piece) (r : Except TemplateError α) :
    faultOr (ps ++ qs) r = faultOr ps (faultOr qs r) := by
  induction ps with
  | nil => rfl
  | cons p ps ih => cases p <;> simp [faultOr, ih]

theorem faultOr_bind {β : Type} (ps : List Piece) (r : Except TemplateError α) (f : α → Except TemplateError β) :
    faultOr ps r >>= f = faultOr ps (r >>= f) := by
  induction ps with
  | nil => rfl
  | cons p ps ih =>
    cases p with
    | stop name =>
      rw [faultOr, faultOr]
      split
      · exact ih
      · rfl
    | start => exact ih
    | comment => exact ih
    | text => exact ih

theorem faultOr_of_plain {ps : List Piece} (h : ∀ p ∈ ps, p.Plain) (r : Except TemplateError α) :
    faultOr ps r = r := by
  induction ps with
  | nil => rfl
  | cons p ps ih =>
    have htail := ih fun q hq => h q (List.mem_cons_of_mem _ hq)
    cases p with
    | stop name => rw [faultOr, if_pos (lower_of_isName (h _ List.mem_cons_self)), htail]
    | start => exact htail
    | comment => exact htail
    | text => exact htail

/-! ## Building a canonical tree -/

theorem setAll_eq_self {attrs : Attrs} (h : attrs.keys.Nodup) : setAll attrs = attrs := Keyed.foldl_set h

theorem eq_text_of_lowered {p : Piece} {content : String} (h : p.lowered = text content) : p = text content := by
  cases p with
  | text => exact h
  | _ => cases h

theorem eq_start_of_lowered {p : Piece} {tag : String} {attrs : Attrs} {closed : Bool}
    (h : p.lowered = start tag attrs closed) :
    ∃ name, p = start name attrs closed ∧ Token.lower name.toList = tag := by
  cases p with
  | start name =>
    cases h
    exact ⟨name, rfl, rfl⟩
  | _ => cases h

theorem eq_stop_of_lowered {p : Piece} {tag : String} (h : p.lowered = stop tag) :
    ∃ name, p = stop name ∧ Token.lower name.toList = tag := by
  cases p with
  | stop name =>
    cases h
    exact ⟨name, rfl, rfl⟩
  | _ => cases h

/-- The nodes come after those that were there before, whatever is open and whatever
follows, unless an end tag among them does not fit. -/
theorem nodes_recased {ns : Nodes} (h : ns.Canonical) {ps : List Piece} (hps : ps.map lowered = ns.pieces)
    (stack : List Fragment.Unfinished) (siblings : Nodes) (ts : List Token) :
    Fragment.nodes none stack siblings (ps.filterMap token? ++ ts) =
      faultOr ps (Fragment.nodes none stack (siblings ++ ns) ts) := by
  induction ns generalizing ps stack siblings ts with
  | nil =>
    obtain rfl := List.map_eq_nil_iff.1 hps
    rw [Nodes.append_nil]
    rfl
  | text content rest ih =>
    obtain ⟨p, qs, rfl, hp, hqs⟩ := List.map_eq_cons_iff.1 hps
    obtain rfl := eq_text_of_lowered hp
    calc Fragment.nodes none stack siblings (.text content :: (qs.filterMap token? ++ ts))
      _ = Fragment.nodes none stack (siblings ++ .text content .nil) (qs.filterMap token? ++ ts) := rfl
      _ = faultOr qs (Fragment.nodes none stack (siblings ++ .text content .nil ++ rest) ts) := ih h.2.2 hqs _ _ _
      _ = faultOr qs (Fragment.nodes none stack (siblings ++ .text content rest) ts) := by
        rw [Nodes.append_assoc]
        rfl
  | element tag attrs children rest ihc ihr =>
    obtain ⟨⟨-, -, hkeys⟩, hvoid, hchildren, hrest⟩ := h
    obtain ⟨p, qs, rfl, hp, hqs⟩ := List.map_eq_cons_iff.1 hps
    obtain ⟨name, rfl, hname⟩ := eq_start_of_lowered hp
    have htoken : (start name attrs false).token? = some (.start tag attrs (Token.voidTags.contains tag)) := by
      simp only [token?, hname, setAll_eq_self hkeys, Bool.false_or]
    -- Once the element is complete, only the nodes after it are left.
    have hafter : ∀ rs : List Piece, rs.map lowered = rest.pieces → ∀ nodes,
        Fragment.nodes none stack (siblings ++ .element tag attrs nodes .nil) (rs.filterMap token? ++ ts) =
          faultOr rs (Fragment.nodes none stack (siblings ++ .element tag attrs nodes rest) ts) := by
      intro rs hrs nodes
      rw [ihr hrest hrs, Nodes.append_assoc]
      rfl
    rw [List.filterMap_cons_some htoken, List.cons_append, Fragment.nodes]
    split at hqs
    · rename_i hv
      rw [if_pos hv, hvoid hv]
      exact hafter qs hqs .nil
    · rename_i hv
      rw [if_neg hv]
      obtain ⟨cs, ls, rfl, hcs, hls⟩ := List.map_eq_append_iff.1 hqs
      obtain ⟨l, rs, rfl, hl, hrs⟩ := List.map_eq_cons_iff.1 hls
      obtain ⟨last, rfl, hlast⟩ := eq_stop_of_lowered hl
      rw [faultOr_start, faultOr_append, List.filterMap_append, List.append_assoc, ihc hchildren hcs]
      congr 1
      calc Fragment.nodes none (⟨tag, attrs, siblings⟩ :: stack) children (.stop last :: (rs.filterMap token? ++ ts))
        _ = if tag = last then
              Fragment.nodes none stack (siblings ++ .element tag attrs children .nil) (rs.filterMap token? ++ ts)
            else .error (.mismatched (some tag) last) := rfl
        _ = faultOr (stop last :: rs) (Fragment.nodes none stack (siblings ++ .element tag attrs children rest) ts) := by
          rw [hafter rs hrs, faultOr, hlast]

end Piece

namespace Element

open Piece

variable {e : Element} {ps : List Piece}

theorem plain_of_pieces (h : e.Canonical) : ∀ p ∈ e.pieces, p.Plain := fun _ hp => plain_of_mem h hp

theorem readable_of_lowered_pieces (h : e.Canonical) (hps : ps.map lowered = e.pieces) : ∀ p ∈ ps, p.Readable := by
  intro p hp
  have hmem : p.lowered ∈ e.pieces := hps ▸ List.mem_map_of_mem hp
  exact readable_of_lowered (plain_of_pieces h _ hmem)

theorem spaced_of_lowered_pieces (h : e.Canonical) (hps : ps.map lowered = e.pieces) : Spaced ps := by
  have hspaced : Spaced e.pieces := spaced_pieces h
  rw [← hps, Spaced, List.isChain_map] at hspaced
  simpa only [Spaced, isText_lowered] using hspaced

theorem build_recased (h : e.Canonical) (hps : ps.map lowered = e.pieces) :
    Fragment.nodes none [] .nil (ps.filterMap token?) >>= Fragment.root = faultOr ps (.ok e) := by
  have hnodes := nodes_recased h hps [] .nil []
  rw [List.append_nil, Nodes.nil_append] at hnodes
  rw [hnodes, faultOr_bind]
  rfl

/-- Parsing undoes printing. -/
theorem parse_markup (h : e.Canonical) : Fragment.parse e.markup = .ok e := by
  have hplain := plain_of_pieces h
  have hps : e.pieces.map lowered = e.pieces :=
    (List.map_congr_left fun p hp => lowered_of_plain (hplain p hp)).trans (List.map_id' _)
  rw [markup, parse_source (readable_of_lowered_pieces h hps) (spaced_of_lowered_pieces h hps), build_recased h hps]
  exact faultOr_of_plain hplain _

/-- The attribute value and the texts have characters that are spelled out, and a void
element stands between the texts. -/
theorem parse_markup_nested :
    let e : Element := ⟨"p", [("title", "a \"b\" & <c>"), ("x-1", "")],
      .text " 1 < 2 " (.element "br" [] .nil (.text "&lt;" (.element "i" [("title", ">")] (.text "it's" .nil) .nil)))⟩
    e.Canonical ∧
      e.markup = "<p title=\"a &quot;b&quot; &amp; &lt;c&gt;\" x-1=\"\"> 1 &lt; 2 <br>&amp;lt;" ++
        "<i title=\"&gt;\">it&#39;s</i></p>" ∧
      Fragment.parse e.markup = .ok e := by
  intro e
  have hcanonical : e.Canonical := by decide
  exact ⟨hcanonical, by decide, parse_markup hcanonical⟩

/-- Capital letters in the names of tags, whichever they are, change nothing as long as
they stand in start tags. The first end tag that has one is a fault. -/
theorem parse_recased (h : e.Canonical) (hps : List.Forall₂ Recased e.pieces ps) :
    Fragment.parse (source ps) = faultOr ps (.ok e) := by
  have hlowered := map_lowered_of_recased (plain_of_pieces h) hps
  rw [parse_source (readable_of_lowered_pieces h hlowered) (spaced_of_lowered_pieces h hlowered),
    build_recased h hlowered]

/-- Here the end tags have capitals, or only the other tags. -/
theorem parse_recased_capitals :
    let e : Element := ⟨"p", [("x", "A")], .element "br" [] .nil (.element "i" [] .nil .nil)⟩
    let shown (inner outer : String) : List Piece := [.start "P" [("x", "A")] false, .start "bR" [] false,
      .start "I" [] false, .stop inner, .stop outer]
    e.Canonical ∧ List.Forall₂ Recased e.pieces (shown "I" "P") ∧ List.Forall₂ Recased e.pieces (shown "i" "p") ∧
      source (shown "i" "p") = "<P x=\"A\"><bR><I></i></p>" ∧
      Fragment.parse (source (shown "I" "P")) = .error (.mismatched (some "i") "I") ∧
      Fragment.parse (source (shown "i" "p")) = .ok e := by
  intro e shown
  have hcanonical : e.Canonical := by decide
  have hrecased : ∀ inner outer, Capitals "i" inner → Capitals "p" outer →
      List.Forall₂ Recased e.pieces (shown inner outer) := by
    intro inner outer hi ho
    exact .cons (.start (by decide) _ _) (.cons (.start (by decide) _ _) (.cons (.start (by decide) _ _)
      (.cons (.stop hi) (.cons (.stop ho) .nil))))
  have hcapital := hrecased "I" "P" (by decide) (by decide)
  have hsmall := hrecased "i" "p" (by decide) (by decide)
  exact ⟨hcanonical, hcapital, hsmall, by decide, parse_recased hcanonical hcapital, parse_recased hcanonical hsmall⟩

/-- A tree is not parsed from its canonical text in capital letters. -/
theorem parse_recased_fails_stop :
    let e : Element := ⟨"div", [], .nil⟩
    let ps : List Piece := [.start "DIV" [] false, .stop "DIV"]
    e.Canonical ∧ List.Forall₂ Recased e.pieces ps ∧ source ps = "<DIV></DIV>" ∧
      Fragment.parse (source ps) ≠ .ok e := by
  intro e ps
  have hrecased : List.Forall₂ Recased e.pieces ps := .cons (.start (by decide) _ _) (.cons (.stop (by decide)) .nil)
  have hparse : Fragment.parse (source ps) = .error (.mismatched (some "div") "DIV") := by
    rw [parse_source (by decide) (by decide)]
    rfl
  refine ⟨by decide, hrecased, by decide, ?_⟩
  rw [hparse]
  intro h
  cases h

end Element

end FloatingPanels
