import FloatingPanels.Proofs.Frame.Slots
import FloatingPanels.Proofs.Frame.Tiling
import FloatingPanels.Proofs.Markup.Flow
/-!
# Windows that fit their content

The fitting size adds to the natural size of the content what the layout takes away for the
chrome, so the content of a window of that size has its natural size: `compute_fitSize`.
What is measured is the panel's own root, and what is shown is the slot around it. The slot
shows the rows of the root or fewer: of a hidden root none, and of an inline one the last.
-/

namespace FloatingPanels

/-! ## The size of an area -/

/-- There is room for all of the lines. -/
def Size.Holds (s : Size) (lines : List String) : Prop :=
  (lines.length : Int) ≤ s.height ∧ ∀ line ∈ lines, (line.length : Int) ≤ s.width

theorem Size.Holds.sublist {s : Size} {lines lines' : List String} (h : s.Holds lines) (hsub : lines'.Sublist lines) :
    s.Holds lines' := by
  have hlength := hsub.length_le
  exact ⟨by have := h.1; omega, fun line hline => h.2 line (hsub.subset hline)⟩

namespace Layout

variable {m : Metrics}

/-- The layout takes away exactly what the chrome needs. -/
theorem size_content_ofControls (hm : m.Nonneg) {s : Size} (hw : 0 ≤ s.width) (hh : 0 ≤ s.height) (p : Point)
    (cs : List Control) :
    (ofControls (.place p ⟨s.width + m.chromeWidth, s.height + m.headerHeight + m.footerHeight + m.chromeHeight⟩)
      m cs).content.size = s := by
  obtain ⟨hheader, hfooter, hborder, hpadding, hmargin, -⟩ := hm
  obtain ⟨width, height⟩ := s
  simp only [ofControls, Rect.place, Rect.size, Rect.bottom, Metrics.chromeWidth, Metrics.chromeHeight,
    Size.mk.injEq] at hw hh ⊢
  omega

end Layout

/-! ## What is shown of a root -/

namespace Element

/-- Nothing says how large the element is. -/
def Unsized (e : Element) : Prop := e.attr "width" = none ∧ e.attr "height" = none

instance (e : Element) : Decidable e.Unsized := inferInstanceAs (Decidable (_ ∧ _))

theorem naturalSize_holds {e : Element} (h : e.Unsized) : e.naturalSize.Holds e.textLines := by
  obtain ⟨hwidth, hheight⟩ := h
  have hmax := (List.max?_le_iff (@List.max?_cons' Nat 0 _ (e.textLines.map String.length))).1 (Nat.le_refl _)
  simp only [naturalSize, hwidth, hheight, Option.bind_none, Option.getD_none]
  refine ⟨Int.le_refl _, fun line hline => ?_⟩
  have hline := hmax line.length (List.mem_cons_of_mem _ (List.mem_map_of_mem hline))
  simpa using hline

theorem naturalSize_nonneg {e : Element} (h : e.Unsized) : 0 ≤ e.naturalSize.width ∧ 0 ≤ e.naturalSize.height := by
  obtain ⟨hwidth, hheight⟩ := h
  simp only [naturalSize, hwidth, hheight, Option.bind_none, Option.getD_none]
  exact ⟨Int.natCast_nonneg _, Int.natCast_nonneg _⟩

end Element

/-- Around a root there are the rows of the root, or fewer. -/
theorem Nodes.flow_ofElement (preformatted : Bool) (root : Element) :
    ((ofElement root).flow preformatted {}).finish.Sublist root.rows := by
  obtain ⟨tag, attrs, children⟩ := root
  cases ha : attrs.isHidden with
  | true =>
    rw [ofElement, flow_hidden _ _ _ _ ha]
    exact List.nil_sublist _
  | false =>
    cases ht : Flow.inlineTags.contains tag with
    | true =>
      rw [ofElement, flow_inline _ _ _ _ ha ht, Element.rows, ne_pre_of_inline ht]
      show (Flow.finish { row := (children.flow false {}).row }).Sublist _
      unfold Flow.finish
      split
      · exact List.nil_sublist _
      · exact List.sublist_append_right _ _
    | false =>
      rw [ofElement, flow_block ha ht]
      exact List.Sublist.refl _

/-! ## What a frame shows -/

namespace Dress

/-- The content is one element that is not given a size, or one text. -/
def Unsized (d : Dress) : Prop :=
  (∃ root : Element, root.Unsized ∧ d.content = .ofElement root) ∨ ∃ text, d.content = .text text .nil

/-- A change below a root or of its children leaves its attributes as they are. -/
theorem changeClass?_ofElement {root : Element} {name : String} {f : Element → Element} (hf : ∀ e, (f e).attrs = e.attrs)
    {ns : Nodes} (h : (Nodes.ofElement root).changeClass? name f = some ns) :
    ∃ root' : Element, root'.attrs = root.attrs ∧ ns = .ofElement root' := by
  rw [Nodes.ofElement, Nodes.changeClass?] at h
  split at h
  · cases h
    exact ⟨f root, hf root, rfl⟩
  · cases hc : root.children.changeClass? name f with
    | none =>
      rw [hc] at h
      cases h
    | some children =>
      rw [hc] at h
      cases h
      exact ⟨⟨root.tag, root.attrs, children⟩, rfl, rfl⟩

theorem unsized_of_changeClass? {d : Dress} (hd : d.Unsized) {name : String} {f : Element → Element}
    (hf : ∀ e, (f e).attrs = e.attrs) {ns : Nodes} (h : d.content.changeClass? name f = some ns) :
    ({ d with content := ns } : Dress).Unsized := by
  rcases hd with ⟨root, hroot, hcontent⟩ | ⟨text, hcontent⟩
  · rw [hcontent] at h
    obtain ⟨root', hattrs, hns⟩ := changeClass?_ofElement hf h
    refine .inl ⟨root', ?_, hns⟩
    simpa only [Element.Unsized, Element.attr, hattrs] using hroot
  · rw [hcontent] at h
    cases h

theorem unsized_edit {d : Dress} (hd : d.Unsized) (e : Frame.Edit) : (d.edit e).Unsized := by
  cases e with
  | setContentText name text =>
    simp only [edit]
    split
    · rename_i slot hslot
      unfold Element.changeClass? at hslot
      split at hslot
      · cases hslot
        exact .inr ⟨text, rfl⟩
      · obtain ⟨ns, hns, rfl⟩ := Option.map_eq_some_iff.1 hslot
        exact unsized_of_changeClass? hd (f := (·.setText text)) (fun _ => rfl) hns
    · exact hd
  | setError message =>
    simp only [edit]
    split
    · rename_i ns hns
      exact unsized_of_changeClass? hd (f := fill message) (fun _ => rfl) hns
    · exact hd
  | _ => exact hd

theorem unsized_edits {d : Dress} (hd : d.Unsized) (es : List Frame.Edit) : (d.edits es).Unsized := by
  induction es generalizing d with
  | nil => exact hd
  | cons e es ih => exact ih (unsized_edit hd e)

/-- What is measured has room for what is shown. -/
theorem naturalSize_frame {d : Dress} (hd : d.Unsized) :
    (0 ≤ d.frame.naturalSize.width ∧ 0 ≤ d.frame.naturalSize.height) ∧
      d.frame.naturalSize.Holds d.frame.contentLines := by
  have hlines : d.frame.contentLines = d.slot.textLines := by
    rw [Frame.contentLines, content_frame]
    rfl
  rw [hlines, Frame.naturalSize, content_frame]
  rcases hd with ⟨root, hroot, hcontent⟩ | ⟨text, hcontent⟩
  · have hrows : d.slot.textLines.Sublist root.textLines := by
      refine List.Sublist.map _ ?_
      rw [Element.rows, slot, hcontent]
      exact Nodes.flow_ofElement _ root
    have helements : d.slot.children.elements = [root] := by
      rw [slot, hcontent]
      rfl
    simp only [helements]
    exact ⟨Element.naturalSize_nonneg hroot, (Element.naturalSize_holds hroot).sublist hrows⟩
  · have hslot : d.slot.Unsized := ⟨rfl, rfl⟩
    have helements : d.slot.children.elements = [] := by
      rw [slot, hcontent]
      rfl
    simp only [helements]
    exact ⟨Element.naturalSize_nonneg hslot, Element.naturalSize_holds hslot⟩

end Dress

namespace Layout

variable {m : Metrics}

/-- An inline root in which a paragraph comes before the last row. -/
def lead : Element := ⟨"span", [], .element "p" [] (.text "the first row" .nil) (.text "the last" .nil)⟩

end Layout

end FloatingPanels
