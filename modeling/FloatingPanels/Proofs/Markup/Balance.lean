import FloatingPanels.Proofs.Markup.Canonical
/-!
# Balance

Whether markup has a tree is a matter of its tags alone. A reader that goes through the
pieces with the names of the open elements, and remembers no more of the tree than whether
the nodes at the top are texts or elements, comes to the verdict of the parser, fault by
fault: `parse_balance`. The stack on which the parser keeps unfinished elements simulates
that reader, and the nodes before the outermost of them are those at the top.
-/

namespace FloatingPanels

/-! ## The reader -/

/-- What a node at the top of a fragment is. -/
inductive Root where
  | text
  | element
  deriving DecidableEq, Repr

/-- What is known of the pieces that were read. -/
structure Balance where
  /-- The names of the open elements, the innermost first. -/
  opened : List String := []
  /-- The nodes at the top that are complete. -/
  roots : List Root := []
  deriving DecidableEq, Repr

namespace Balance

/-- A node is complete. It is one of those at the top if no element is open. -/
def add (b : Balance) (r : Root) : Balance := if b.opened = [] then { b with roots := b.roots ++ [r] } else b

def read (b : Balance) : Piece → Except TemplateError Balance
  | .start name _ closed =>
    .ok (if closed || Token.voidTags.contains name then b.add .element else { b with opened := name :: b.opened })
  | .stop name =>
    match b.opened with
    | [] => .error (.mismatched none name)
    | top :: opened =>
      if top = name then .ok ({ b with opened }.add .element) else .error (.mismatched (some top) name)
  | .comment _ => .ok b
  | .text _ => .ok (b.add .text)

/-- The verdict when all pieces were read. -/
def verdict (b : Balance) : Except TemplateError Unit :=
  match b.opened, b.roots with
  | top :: _, _ => .error (.unclosed top)
  | [], [] => .error .empty
  | [], [.element] => .ok ()
  | [], [.text] => .error .textRoot
  | [], roots => .error (.multipleRoots roots.length)

def judge (ps : List Piece) : Except TemplateError Unit := ps.foldlM read {} >>= verdict

end Balance

namespace Piece

/-- A piece whose start tag has a name in small letters and quoted values, and that can be
told from its text. -/
def WellFormed : Piece → Prop
  | start name attrs _ => isName name ∧ ∀ a ∈ attrs, isName a.1
  | p => p.Readable

instance (p : Piece) : Decidable p.WellFormed :=
  match p with
  | start _ _ _ => inferInstanceAs (Decidable (_ ∧ _))
  | stop name => inferInstanceAs (Decidable (stop name).Readable)
  | comment inner => inferInstanceAs (Decidable (comment inner).Readable)
  | text content => inferInstanceAs (Decidable (text content).Readable)

theorem WellFormed.readable {p : Piece} (h : p.WellFormed) : p.Readable := by
  cases p with
  | start => exact ⟨isSpelled_of_isName h.1, h.2⟩
  | stop => exact h
  | comment => exact h
  | text => exact h

end Piece

/-! ## The simulation -/

namespace Nodes

def roots : Nodes → List Root
  | nil => []
  | text _ rest => .text :: rest.roots
  | element _ _ _ rest => .element :: rest.roots

theorem roots_append (ms ns : Nodes) : (ms ++ ns).roots = ms.roots ++ ns.roots := by
  induction ms with
  | nil => rfl
  | text content rest ih => rw [text_append, roots, ih, roots, List.cons_append]
  | element tag attrs children rest _ ih => rw [element_append, roots, ih, roots, List.cons_append]

theorem length_roots (ns : Nodes) : ns.roots.length = ns.length := by
  induction ns with
  | nil => rfl
  | text content rest ih => rw [roots, List.length_cons, ih, length]
  | element tag attrs children rest _ ih => rw [roots, List.length_cons, ih, length]

/-- The nodes at the top while `siblings` are read in the open elements `stack`. -/
def atTop (siblings : Nodes) : List Fragment.Unfinished → Nodes
  | [] => siblings
  | top :: stack => top.before.atTop stack

end Nodes

namespace Balance

/-- What a reader knows when the parser has `siblings` in the open elements `stack`. -/
def ofParser (stack : List Fragment.Unfinished) (siblings : Nodes) : Balance where
  opened := stack.map Fragment.Unfinished.tag
  roots := (siblings.atTop stack).roots

variable {stack : List Fragment.Unfinished} {siblings : Nodes}

theorem ofParser_append {ns : Nodes} {r : Root} (h : ns.roots = [r]) :
    ofParser stack (siblings ++ ns) = (ofParser stack siblings).add r := by
  cases stack with
  | nil => simp [ofParser, add, Nodes.atTop, Nodes.roots_append, h]
  | cons top stack => simp [ofParser, add, Nodes.atTop]

theorem verdict_multiple (x y : Root) (rest : Nodes) :
    verdict ⟨[], x :: y :: rest.roots⟩ = .error (.multipleRoots (rest.length + 2)) := by
  rw [← rest.length_roots]
  cases x <;> rfl

theorem verdict_ofParser (ns : Nodes) : (Fragment.root ns).map (fun _ => ()) = (ofParser [] ns).verdict := by
  match ns with
  | .nil => rfl
  | .text _ .nil => rfl
  | .element _ _ _ .nil => rfl
  | .text _ (.text _ rest) => exact (verdict_multiple _ _ rest).symm
  | .text _ (.element _ _ _ rest) => exact (verdict_multiple _ _ rest).symm
  | .element _ _ _ (.text _ rest) => exact (verdict_multiple _ _ rest).symm
  | .element _ _ _ (.element _ _ _ rest) => exact (verdict_multiple _ _ rest).symm

end Balance

/-- The parser and the reader come to the same verdict, whatever was read before. -/
theorem nodes_balance {ps : List Piece} (h : ∀ p ∈ ps, p.WellFormed) (stack : List Fragment.Unfinished)
    (siblings : Nodes) :
    (Fragment.nodes none stack siblings (ps.filterMap Piece.token?) >>= Fragment.root).map (fun _ => ()) =
      ps.foldlM Balance.read (Balance.ofParser stack siblings) >>= Balance.verdict := by
  induction ps generalizing stack siblings with
  | nil =>
    cases stack with
    | nil => exact Balance.verdict_ofParser siblings
    | cons top stack => rfl
  | cons p ps ih =>
    have hp := h p List.mem_cons_self
    have ih := ih fun q hq => h q (List.mem_cons_of_mem _ hq)
    rw [List.foldlM_cons]
    cases p with
    | start name attrs closed =>
      have htoken : (Piece.start name attrs closed).token? =
          some (.start name (Piece.setAll attrs) (closed || Token.voidTags.contains name)) := by
        simp only [Piece.token?, Piece.lower_of_isName hp.1]
      rw [List.filterMap_cons_some htoken, Fragment.nodes, Balance.read]
      split
      · rw [ih, Balance.ofParser_append rfl]
        rfl
      · exact ih (⟨name, Piece.setAll attrs, siblings⟩ :: stack) .nil
    | stop name =>
      cases stack with
      | nil => rfl
      | cons top stack =>
        have hread : (Balance.ofParser (top :: stack) siblings).read (.stop name) =
            if top.tag = name then .ok ((Balance.ofParser stack top.before).add .element)
            else .error (.mismatched (some top.tag) name) := rfl
        have htoken : (Piece.stop name).token? = some (.stop name) := rfl
        rw [List.filterMap_cons_some htoken, Fragment.nodes, hread]
        split
        · rw [ih, Balance.ofParser_append rfl]
          rfl
        · rfl
    | comment inner => exact ih stack siblings
    | text content =>
      calc (Fragment.nodes none stack (siblings ++ .text content .nil) (ps.filterMap Piece.token?) >>=
            Fragment.root).map (fun _ => ())
        _ = ps.foldlM Balance.read ((Balance.ofParser stack siblings).add .text) >>= Balance.verdict := by
          rw [ih, Balance.ofParser_append rfl]

/-- Comments, void and closed tags, values and texts have no part in the verdict, however
deep the elements are nested. -/
theorem parse_balance {ps : List Piece} (h : ∀ p ∈ ps, p.WellFormed) (hs : Piece.Spaced ps) :
    (Fragment.parse (Piece.source ps)).map (fun _ => ()) = Balance.judge ps := by
  rw [Piece.parse_source (fun p hp => (h p hp).readable) hs]
  exact nodes_balance h [] .nil

/-- A comment, a value and a void tag are passed over, and the end tag of the outer element
comes before that of the inner one. Without the inner one there are two elements at the top. -/
theorem parse_balance_early :
    let ps (inner : List Piece) : List Piece := [.start "p" [("a", ">")] false, .comment "</p>"] ++ inner ++
      [.start "br" [] false, .stop "p", .start "i" [] true]
    let early := ps [.start "b" [] false]
    (∀ p ∈ early, p.WellFormed) ∧ Piece.Spaced early ∧
      Piece.source early = "<p a=\"&gt;\"><!--</p>--><b><br></p><i/>" ∧
      (Fragment.parse (Piece.source early)).map (fun _ => ()) = .error (.mismatched (some "b") "p") ∧
      (Fragment.parse (Piece.source (ps []))).map (fun _ => ()) = .error (.multipleRoots 2) := by
  intro ps early
  have hformed : ∀ p ∈ early, p.WellFormed := by decide
  have hspaced : Piece.Spaced early := by decide
  exact ⟨hformed, hspaced, by decide, parse_balance hformed hspaced, parse_balance (by decide) (by decide)⟩

end FloatingPanels
