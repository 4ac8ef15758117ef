import FloatingPanels.Frame.Basic
import FloatingPanels.Proofs.Keyed
/-!
# The interaction lock of a frame

A frame is locked when its root carries the lock's attribute. `Frame.lock` sets and
removes it; a title, an error, a text in the content and the visible buttons leave it
alone, and a new frame is locked only if its chrome carries the attribute already.
-/

namespace FloatingPanels

namespace Element

/-! ## Attributes of a root -/

@[simp] theorem attr_setAttr (e : Element) (k j v : String) :
    (e.setAttr k v).attr j = if k = j then some v else e.attr j :=
  Keyed.value?_set e.attrs k j v

@[simp] theorem attr_removeAttr (e : Element) (k j : String) :
    (e.removeAttr k).attr j = if k = j then none else e.attr j :=
  Keyed.value?_remove e.attrs k j

@[simp] theorem attr_setText (e : Element) (content j : String) : (e.setText content).attr j = e.attr j := rfl

@[simp] theorem attr_append (e : Element) (nodes : Nodes) (j : String) : (e.append nodes).attr j = e.attr j := rfl

theorem attr_setHidden (e : Element) (hidden : Bool) {j : String} (hj : "hidden" ≠ j) :
    (e.setHidden hidden).attr j = e.attr j := by
  unfold setHidden
  split <;> simp [hj]

/-- A change below a root does not reach its attributes, and neither does a change of the
root that keeps them. -/
theorem attr_changeClass? {e e' : Element} {name j : String} {f : Element → Element}
    (hf : (f e).attr j = e.attr j) (h : e.changeClass? name f = some e') : e'.attr j = e.attr j := by
  unfold changeClass? at h
  split at h
  · cases h
    exact hf
  · obtain ⟨children, -, rfl⟩ := Option.map_eq_some_iff.1 h
    rfl

theorem attr_changeClass {e : Element} {name j : String} {f : Element → Element} (hf : (f e).attr j = e.attr j) :
    (e.changeClass name f).attr j = e.attr j := by
  unfold changeClass
  cases h : e.changeClass? name f with
  | none => rfl
  | some e' => exact attr_changeClass? hf h

end Element

namespace Frame

/-! ## What the lock depends on -/

@[simp] theorem isLocked_lock (f : Frame) (b : Bool) : (f.lock b).isLocked = b := by
  cases b <;> simp [lock, isLocked]

theorem isLocked_change {f : Frame} {name : String} {g : Element → Element}
    (hg : (g f.root).attr lockAttr = f.root.attr lockAttr) : (f.change name g).isLocked = f.isLocked :=
  congrArg Option.isSome (Element.attr_changeClass hg)

@[simp] theorem isLocked_setTitle (f : Frame) (title : String) : (f.setTitle title).isLocked = f.isLocked :=
  isLocked_change rfl

@[simp] theorem isLocked_setError (f : Frame) (message : Option String) :
    (f.setError message).isLocked = f.isLocked := by
  refine isLocked_change ?_
  cases message <;> rfl

@[simp] theorem isLocked_allow (f : Frame) (caps : Capabilities) : (f.allow caps).isLocked = f.isLocked := by
  unfold allow
  induction Control.all generalizing f with
  | nil => rfl
  | cons c cs ih =>
    rw [List.foldl_cons, ih]
    exact isLocked_change (Element.attr_setHidden _ _ (by decide))

theorem isLocked_setContentText? {f f' : Frame} {name text : String} (h : f.setContentText? name text = some f') :
    f'.isLocked = f.isLocked := by
  obtain ⟨slot, hslot, h⟩ := Option.bind_eq_some_iff.1 h
  obtain ⟨slot', hslot', h⟩ := Option.bind_eq_some_iff.1 h
  cases h
  -- Only where the root is the content slot itself is it replaced.
  by_cases hroot : f.root.hasClass contentClass
  · have hr : f.root = slot := by simpa [content, Element.findClass, hroot] using hslot
    refine isLocked_change ?_
    rw [Element.attr_changeClass? (f := (·.setText text)) rfl hslot', hr]
  · simp only [isLocked, change, Element.changeClass, Element.changeClass?, hroot, Bool.false_eq_true, if_false]
    cases f.root.children.changeClass? contentClass fun _ => slot' <;> rfl

/-! ## What the lock leaves alone -/

/-- Without its lock a frame is the same, whether it was locked or not. -/
@[simp] theorem lock_lock (f : Frame) (b : Bool) : (f.lock b).lock false = f.lock false := by
  cases b
  · exact congrArg (fun attrs => (⟨{ f.root with attrs }⟩ : Frame)) (Keyed.remove_remove lockAttr f.root.attrs)
  · exact congrArg (fun attrs => (⟨{ f.root with attrs }⟩ : Frame)) (Keyed.remove_set lockAttr "" f.root.attrs)

/-- The first element of a class keeps its children; only the attributes of the root change. -/
theorem findClass_lock (f : Frame) (b : Bool) (name : String) :
    ((f.lock b).root.findClass name).map Element.children = (f.root.findClass name).map Element.children := by
  have hchildren : (f.lock b).root.children = f.root.children := by cases b <;> rfl
  have hclass : (f.lock b).root.hasClass name = f.root.hasClass name := by
    have hattr : (f.lock b).root.attr "class" = f.root.attr "class" := by
      have hne : lockAttr ≠ "class" := by decide
      cases b <;> simp [lock, hne]
    simp only [Element.attr] at hattr
    simp only [Element.hasClass, Attrs.hasClass, hattr]
  unfold Element.findClass
  rw [hclass, hchildren]
  split
  · exact congrArg some hchildren
  · rfl

theorem text_eq_of_children {o o' : Option Element} (h : o.map Element.children = o'.map Element.children) :
    o.map Element.text = o'.map Element.text := by
  have ht : Element.text = Nodes.allText ∘ Element.children := rfl
  rw [ht, ← Option.map_map, ← Option.map_map, h]

@[simp] theorem title_lock (f : Frame) (b : Bool) : (f.lock b).title = f.title := by
  rw [title, text_eq_of_children (findClass_lock f b titleClass), title]

@[simp] theorem error_lock (f : Frame) (b : Bool) : (f.lock b).error = f.error := by
  rw [error, text_eq_of_children (findClass_lock f b errorClass), error]

theorem content_lock (f : Frame) (b : Bool) :
    (f.lock b).content.map Element.children = f.content.map Element.children := findClass_lock f b contentClass

/-! ## New frames -/

/-- A frame has the lock's attribute from its chrome alone. -/
theorem isLocked_build {chrome content : Element} {kind : String} {f : Frame} (h : build chrome content kind = .ok f) :
    f.isLocked = (chrome.attr lockAttr).isSome := by
  unfold build at h
  split at h
  · cases h
  · rename_i root hroot
    split at h
    · cases h
    · cases h
      have ha : root.attr lockAttr = chrome.attr lockAttr :=
        Element.attr_changeClass? (f := fun slot => slot.append (.ofElement content)) rfl hroot
      have hne : "data-view-type" ≠ lockAttr := by decide
      simp only [isLocked, Element.attr_setAttr, if_neg hne, ha]

end Frame

end FloatingPanels
