import FloatingPanels.Frame.Chrome
import FloatingPanels.Markup.Fragment
import FloatingPanels.Proofs.Markup.Places
/-!
# Chrome and content under one roof

A frame is accepted if every class that it needs is found, and the search goes through the
whole frame, in which the content has its place by then. `build_hooks` says what that comes
to, for every chrome and every content: the chrome has to carry a content slot, and each of
the other classes is carried by the chrome or by the content. The title of a frame is the
first element of its class, so that a title is written over the content where the chrome has
no title before it, and the content has one.
-/

namespace FloatingPanels

namespace Frame

/-- Where the content goes: behind all elements that the first content slot has. -/
def contentPlace? (chrome : Element) : Option (List Nat) :=
  (chrome.place? contentClass).bind chrome.endPlace?

/-- What a new title makes of a content at a place. -/
inductive Retitled (chrome content : Element) (place : List Nat) (title : String) (root : Element) : Prop
  /-- The first title of the chrome encloses the content, which is gone. -/
  | lost (p : List Nat) (first : chrome.place? titleClass = some p) (encloses : p <+: place)
      (gone : root.element? place = none)
  /-- It comes before the content, which stays as it is. -/
  | kept (p : List Nat) (first : chrome.place? titleClass = some p) (before : p < place) (apart : ¬ p <+: place)
      (same : root.element? place = some content)
  /-- No title of the chrome comes before the content, so that its own title, if it has
  one, is the first of the frame. -/
  | taken (after : ∀ p, chrome.place? titleClass = some p → place < p)
      (changed : root.element? place = some (content.changeClass titleClass (·.setText title)))

/-- When a frame is accepted, and what becomes of its content then. -/
structure Hooks (chrome content : Element) (kind : String) : Prop where
  accepted : (∃ f, build chrome content kind = .ok f) ↔
    chrome.Carries contentClass ∧ ∀ name ∈ requiredClasses, chrome.Carries name ∨ content.Carries name
  titled : ∀ f, build chrome content kind = .ok f → ∃ place, contentPlace? chrome = some place ∧
    f.root.element? place = some content ∧
      ∀ title, Retitled chrome content place title (f.setTitle title).root

variable {chrome content : Element} {kind : String} {f : Frame}

/-- All required classes are looked up once the content is in its place. -/
theorem build_eq_ok_iff :
    build chrome content kind = .ok f ↔ ∃ slot, chrome.place? contentClass = some slot ∧
      (∀ name ∈ requiredClasses, (chrome.insertAt slot content).Carries name) ∧
        f = ⟨(chrome.insertAt slot content).setAttr "data-view-type" kind⟩ := by
  rw [build, Element.changeClass?_eq]
  cases hslot : chrome.place? contentClass with
  | none => simp
  | some slot =>
    have hmissing : requiredClasses.find? (fun name => ((chrome.insertAt slot content).findClass name).isNone) = none ↔
        ∀ name ∈ requiredClasses, (chrome.insertAt slot content).Carries name := by
      simp only [List.find?_eq_none, Option.isNone_iff_eq_none, ← ne_eq, ← Option.isSome_iff_ne_none,
        Element.isSome_findClass, Element.place?_isSome]
    simp only [Option.map_some, Option.some.injEq, exists_eq_left', ← hmissing]
    rw [Element.insertAt]
    cases requiredClasses.find? fun name => ((chrome.changeAt _ slot).findClass name).isNone with
    | none => simp [eq_comm]
    | some missing => simp

/-- An attribute of the root, other than its classes, does not count. -/
theorem hasClassAt_setAttr {e : Element} {k v name : String} {q : List Nat} (hk : k ≠ "class") :
    (e.setAttr k v).HasClassAt name q ↔ e.HasClassAt name q := by
  cases q with
  | cons i q => rfl
  | nil =>
    have hattr : (e.setAttr k v).attr "class" = e.attr "class" := by rw [Element.attr_setAttr, if_neg hk]
    have hclass : (e.setAttr k v).hasClass name = e.hasClass name := by
      simp only [Element.attr] at hattr
      simp only [Element.hasClass, Attrs.hasClass, hattr]
    simp only [Element.HasClassAt, Element.element?, Option.some.injEq, exists_eq_left', hclass]

/-- What a frame is before anything was done to it: the first element of each class is that
of the chrome with the content in its place, and the content is there as it was. -/
structure Furnished (chrome content : Element) (slot place : List Nat) (root : Element) : Prop where
  atEnd : chrome.endPlace? slot = some place
  first : ∀ name, root.place? name = (chrome.insertAt slot content).place? name
  inside : ∀ r, root.element? (place ++ r) = content.element? r

theorem exists_endPlace? {slot : List Nat} (h : chrome.place? contentClass = some slot) :
    ∃ place, chrome.endPlace? slot = some place ∧ contentPlace? chrome = some place := by
  obtain ⟨x, hx, -⟩ := Element.hasClassAt_of_place? h
  have hend : chrome.endPlace? slot = some (slot ++ [x.children.elements.length]) := by
    rw [Element.endPlace?, hx]
    rfl
  exact ⟨_, hend, by rw [contentPlace?, h, Option.bind_some, hend]⟩

theorem furnished_of_build (h : build chrome content kind = .ok f) :
    ∃ slot place, contentPlace? chrome = some place ∧ Furnished chrome content slot place f.root := by
  obtain ⟨slot, hslot, -, rfl⟩ := build_eq_ok_iff.1 h
  obtain ⟨place, hend, hplace⟩ := exists_endPlace? hslot
  refine ⟨slot, place, hplace, hend, fun name => ?_, fun r => ?_⟩
  · exact Element.place?_congr fun q => hasClassAt_setAttr (by decide)
  · -- The place is below the root, as it is one of the slot's children.
    obtain ⟨x, hx, rfl⟩ := Option.map_eq_some_iff.1 hend
    rw [← Element.element?_insertAt hend r]
    cases slot <;> rfl

/-- The content slot has to be the chrome's; all else may come with the content. -/
theorem exists_build_iff : (∃ f, build chrome content kind = .ok f) ↔
    chrome.Carries contentClass ∧ ∀ name ∈ requiredClasses, chrome.Carries name ∨ content.Carries name := by
  constructor
  · rintro ⟨f, h⟩
    obtain ⟨slot, hslot, hall, -⟩ := build_eq_ok_iff.1 h
    obtain ⟨place, hend, -⟩ := exists_endPlace? hslot
    refine ⟨⟨slot, Element.hasClassAt_of_place? hslot⟩, fun name hname => ?_⟩
    exact (Element.carries_insertAt hend).1 (hall name hname)
  · rintro ⟨hchrome, hall⟩
    obtain ⟨slot, hslot⟩ := Option.isSome_iff_exists.1 (Element.place?_isSome.2 hchrome)
    obtain ⟨place, hend, -⟩ := exists_endPlace? hslot
    refine ⟨_, build_eq_ok_iff.2 ⟨slot, hslot, fun name hname => ?_, rfl⟩⟩
    exact (Element.carries_insertAt hend).2 (hall name hname)

theorem setTitle_root {p : List Nat} (h : f.root.place? titleClass = some p) (title : String) :
    (f.setTitle title).root = f.root.changeAt (·.setText title) p := by
  rw [setTitle, change, Element.changeClass, Element.changeClass?_eq, h]
  rfl

namespace Furnished

variable {slot place p : List Nat}

theorem element?_place {root : Element} (h : Furnished chrome content slot place root) :
    root.element? place = some content := by
  have hinside := h.inside []
  rwa [List.append_nil] at hinside

/-- A title of the chrome that comes first and before the content. -/
theorem retitled_of_before (h : Furnished chrome content slot place f.root) (hp : chrome.place? titleClass = some p)
    (hbefore : p < place) (title : String) : Retitled chrome content place title (f.setTitle title).root := by
  have hfirst : f.root.place? titleClass = some p :=
    (h.first titleClass).trans (Element.place?_insertAt_of_before h.atEnd hp hbefore)
  by_cases hencloses : p <+: place
  · refine .lost p hp hencloses ?_
    obtain ⟨r, hr⟩ := hencloses
    rw [setTitle_root hfirst, ← hr, Element.element?_changeAt_below]
    cases r with
    | nil =>
      rw [← hr, List.append_nil] at hbefore
      exact absurd hbefore (List.lt_irrefl p)
    | cons i r => cases f.root.element? p <;> rfl
  · refine .kept p hp hbefore hencloses ?_
    have hout : ¬ place <+: p := (Element.hasClassAt_of_place? hp).not_past_end h.atEnd
    rw [setTitle_root hfirst, Element.element?_changeAt_of_apart _ hencloses hout]
    exact h.element?_place

/-- Without a title of the chrome before it, the content's own title comes first. -/
theorem retitled_of_after (h : Furnished chrome content slot place f.root)
    (hafter : ∀ p, chrome.place? titleClass = some p → place < p)
    (hsome : chrome.Carries titleClass ∨ content.Carries titleClass) (title : String) :
    Retitled chrome content place title (f.setTitle title).root := by
  refine .taken hafter ?_
  rw [Element.changeClass, Element.changeClass?_eq]
  cases hr : content.place? titleClass with
  | some r =>
    have hfirst := (h.first titleClass).trans (Element.place?_insertAt_of_after h.atEnd hafter hr)
    rw [setTitle_root hfirst, Element.element?_changeAt_above, h.element?_place]
    rfl
  | none =>
    have hchrome : chrome.Carries titleClass := by
      refine hsome.resolve_right fun hcontent => ?_
      rw [← Element.place?_isSome, hr] at hcontent
      cases hcontent
    obtain ⟨p, hp⟩ := Option.isSome_iff_exists.1 (Element.place?_isSome.2 hchrome)
    have hfirst := ((h.first titleClass).trans (Element.place?_insertAt_of_none h.atEnd hr)).trans hp
    have hout : ¬ place <+: p := (Element.hasClassAt_of_place? hp).not_past_end h.atEnd
    have hapart : ¬ p <+: place := fun hprefix => hprefix.le (hafter p hp)
    rw [setTitle_root hfirst, Element.element?_changeAt_of_apart _ hapart hout, h.element?_place]
    rfl

theorem retitled (h : Furnished chrome content slot place f.root)
    (hsome : chrome.Carries titleClass ∨ content.Carries titleClass) (title : String) :
    Retitled chrome content place title (f.setTitle title).root := by
  cases hp : chrome.place? titleClass with
  | none =>
    refine h.retitled_of_after (fun p hp' => ?_) hsome title
    rw [hp] at hp'
    cases hp'
  | some p =>
    rcases lt_trichotomy p place with hlt | rfl | hlt
    · exact h.retitled_of_before hp hlt title
    · exact absurd (List.prefix_refl p) ((Element.hasClassAt_of_place? hp).not_past_end h.atEnd)
    · refine h.retitled_of_after (fun p' hp' => ?_) hsome title
      rw [hp] at hp'
      cases hp'
      exact hlt

end Furnished

theorem build_hooks (chrome content : Element) (kind : String) : Hooks chrome content kind where
  accepted := exists_build_iff
  titled f h := by
    obtain ⟨slot, place, hplace, hfurnished⟩ := furnished_of_build h
    have htitle := (exists_build_iff.1 ⟨f, h⟩).2 titleClass (by decide)
    exact ⟨place, hplace, hfurnished.element?_place, hfurnished.retitled htitle⟩

/-- Chrome with nothing in its header, and without buttons. -/
def lowChrome (footer : Nodes) : Element :=
  ⟨"div", [],
    .element "div" [("class", "view-header")] .nil
    (.element "div" [("class", "view-content")] .nil
    (.element "div" [("class", "view-footer")] footer
    (Chrome.handle "n" (Chrome.handle "s" (Chrome.handle "e" (Chrome.handle "w"
      (Chrome.handle "ne" (Chrome.handle "nw" (Chrome.handle "se" (Chrome.handle "sw" .nil))))))))))⟩

/-- A note in which an element has the class of the title. -/
def titling : Element := ⟨"p", [("class", "view-title")], .text "mine" .nil⟩

/-- With such a note, chrome without a title is accepted; and if the chrome has its title in
the footer, titles are written over the note all the same. -/
theorem build_hooks_fails_titling :
    let low := lowChrome (.element "span" [("class", "view-title")] .nil .nil)
    Fragment.parse "<p class=\"view-title\">mine</p>" = .ok titling ∧
      (¬ (lowChrome .nil).Carries titleClass ∧ ∃ f, build (lowChrome .nil) titling "note" = .ok f) ∧
      low.place? titleClass = some [2, 0] ∧ contentPlace? low = some [1, 0] ∧
      ∃ f, build low titling "note" = .ok f ∧ f.contentLines = ["mine"] ∧
        (f.setTitle "Notes").contentLines = ["Notes"] := by
  refine ⟨by decide +kernel, ⟨?_, _, rfl⟩, by decide, by decide, _, rfl, by decide +kernel, by decide +kernel⟩
  rw [← Element.place?_isSome]
  decide

end Frame

end FloatingPanels
