import FloatingPanels.Frame.Chrome
import FloatingPanels.Proofs.Frame.Lock
/-!
# Frames in the usual chrome

Two frames in the usual chrome differ at most in their `Dress`: the kind of the window,
what its title, its content slot and its error slot hold, which buttons are hidden, and
whether it is locked. A new frame is the frame of a dress, and whatever changes a frame
changes its dress.

The parts are looked for in the order of the tree: header, content, footer, handles. A
class inside the content therefore never hides the title or a button, but it comes before
the error slot.
-/

namespace FloatingPanels

namespace Nodes

theorem changeClass?_eq_none {ns : Nodes} {name : String} {f : Element → Element} :
    ns.changeClass? name f = none ↔ ns.findClass name = none := by
  induction ns with
  | nil => simp [changeClass?, findClass]
  | text content rest ih => simp [changeClass?, findClass, ih]
  | element tag attrs children rest ihc ihr =>
    by_cases hclass : attrs.hasClass name
    · simp [changeClass?, findClass, hclass]
    · cases hc : children.changeClass? name f with
      | none => simp [changeClass?, findClass, hclass, hc, ihc.1 hc, ihr]
      | some ns =>
        have hfound : children.findClass name ≠ none := fun hn => by rw [ihc.2 hn] at hc; cases hc
        simp [changeClass?, findClass, hclass, hc, hfound]

theorem isSome_findClass_element (tag : String) (attrs : Attrs) (children rest : Nodes) (name : String) :
    ((element tag attrs children rest).findClass name).isSome =
      (attrs.hasClass name || (children.findClass name).isSome || (rest.findClass name).isSome) := by
  by_cases hclass : attrs.hasClass name <;> simp [findClass, hclass, Option.isSome_or]

theorem findClass_ofElement (e : Element) (name : String) : (ofElement e).findClass name = e.findClass name := by
  simp only [ofElement, findClass, Option.or_none]
  rfl

end Nodes

structure Dress where
  kind : String
  /-- The text of the title, once it was set. -/
  title : Option String := none
  hidden : Control → Bool := fun _ => false
  content : Nodes
  /-- What the error slot of the footer says. -/
  error : Option String := none
  locked : Bool := false

namespace Dress

/-! ## The tree of a dress -/

/-- What an element holds whose text was set, or not yet. -/
def textNodes : Option String → Nodes
  | none => .nil
  | some text => .text text .nil

theorem allText_textNodes (text : Option String) : (textNodes text).allText = text.getD "" := by
  cases text <;> simp [textNodes, Nodes.allText]

theorem findClass_textNodes (text : Option String) (name : String) : (textNodes text).findClass name = none := by
  cases text <;> rfl

theorem changeClass?_textNodes (text : Option String) (name : String) (f : Element → Element) :
    (textNodes text).changeClass? name f = none := by
  cases text <;> rfl

def tip : Control → String
  | .stick => "Stick"
  | .hide => "Hide"
  | .maximize => "Maximize"
  | .close => "Close"

def mark : Control → String
  | .stick => "s"
  | .hide => "_"
  | .maximize => "+"
  | .close => "x"

variable (d : Dress)

def buttonAttrs (c : Control) : Attrs :=
  [("class", c.className), ("title", tip c)] ++ if d.hidden c then [("hidden", "")] else []

def button (c : Control) : Element := ⟨"button", d.buttonAttrs c, .text (mark c) .nil⟩

def buttons : List Control → Nodes
  | [] => .nil
  | c :: cs => .element "button" (d.buttonAttrs c) (.text (mark c) .nil) (buttons cs)

def header : Nodes :=
  .element "span" [("class", Frame.titleClass)] (textNodes d.title) (d.buttons [.stick, .hide, .maximize, .close])

def slot : Element := ⟨"div", [("class", Frame.contentClass)], d.content⟩

def footer : Nodes := .element "span" [("class", Frame.errorClass)] (textNodes d.error) .nil

def handles : Nodes :=
  Chrome.handle "n" (Chrome.handle "s" (Chrome.handle "e" (Chrome.handle "w"
    (Chrome.handle "ne" (Chrome.handle "nw" (Chrome.handle "se" (Chrome.handle "sw" .nil)))))))

def attrs : Attrs :=
  [("class", "view"), ("data-view-type", d.kind)] ++ if d.locked then [(Frame.lockAttr, "")] else []

/-- The root's children, with these nodes in the header and this content slot. -/
def children (header : Nodes) (slot : Element) : Nodes :=
  .element "div" [("class", "view-header")] header
    (.element slot.tag slot.attrs slot.children (.element "div" [("class", "view-footer")] d.footer handles))

def frame : Frame := ⟨"div", d.attrs, d.children d.header d.slot⟩

/-! ## Where a class is found -/

/-- The classes of the root and of its three first children. -/
def outerClasses : List String := ["view", "view-header", Frame.contentClass, "view-footer"]

theorem hasClass_of_not_outer {name outer : String} (h : name ∉ outerClasses) (ho : outer ∈ outerClasses)
    (rest : Attrs) : Attrs.hasClass (("class", outer) :: rest) name = false := by
  have hwords : words outer.toList = [outer.toList] := by
    simp only [outerClasses, List.mem_cons, List.not_mem_nil, or_false] at ho
    rcases ho with rfl | rfl | rfl | rfl <;> rfl
  have hne : name ≠ outer := fun he => h (he ▸ ho)
  simp only [Attrs.hasClass, Keyed.value?_cons, if_true, hwords]
  simpa [String.toList_inj] using hne

theorem findClass_frame {name : String} (h : name ∉ outerClasses) :
    d.frame.root.findClass name =
      (d.header.findClass name).or ((d.content.findClass name).or
        ((d.footer.findClass name).or (handles.findClass name))) := by
  have hc : ∀ outer ∈ outerClasses, ∀ rest, Attrs.hasClass (("class", outer) :: rest) name = false :=
    fun _ ho rest => hasClass_of_not_outer h ho rest
  have hroot : d.attrs.hasClass name = false := hc "view" (by decide) _
  simp only [frame, children, slot, Element.findClass, Element.hasClass, Nodes.findClass, hroot,
    hc "view-header" (by decide), hc Frame.contentClass (by decide), hc "view-footer" (by decide),
    Bool.false_eq_true, if_false]

/-- What is found in the header is changed there. -/
theorem change_of_header {name : String} (h : name ∉ outerClasses) {f : Element → Element} {ns : Nodes}
    (hns : d.header.changeClass? name f = some ns) : d.frame.change name f = ⟨"div", d.attrs, d.children ns d.slot⟩ := by
  have hroot : d.attrs.hasClass name = false := hasClass_of_not_outer h (by decide) _
  have hfirst : Attrs.hasClass [("class", "view-header")] name = false := hasClass_of_not_outer h (by decide) _
  simp only [frame, children, Frame.change, Element.changeClass, Element.changeClass?, Element.hasClass,
    Nodes.changeClass?, hroot, hfirst, hns, Bool.false_eq_true, if_false, Option.map_some, Option.getD_some]

/-! ## New frames -/

theorem isSome_findClass_required {name : String} (h : name ∈ Frame.requiredClasses) :
    (d.frame.root.children.findClass name).isSome := by
  have hhandle : ∀ i : Handle, (handles.findClass i.className).isSome := by
    intro i
    cases i <;> rfl
  simp only [frame, children, Nodes.isSome_findClass_element, Bool.or_eq_true]
  simp only [Frame.requiredClasses, List.mem_append, List.mem_cons, List.not_mem_nil, or_false, List.mem_map] at h
  rcases h with (rfl | rfl | rfl) | ⟨i, -, rfl⟩
  · exact .inl (.inl rfl)
  · exact .inl (.inr rfl)
  · exact .inr (.inr (.inl (.inl rfl)))
  · exact .inr (.inr (.inr (hhandle i)))

/-- With the usual chrome every content makes a frame. -/
theorem build_usual (content : Element) (kind : String) :
    Frame.build Chrome.usual content kind = .ok (frame { kind, content := .ofElement content }) := by
  have hslot : Chrome.usual.changeClass? Frame.contentClass (fun slot => slot.append (.ofElement content)) =
      some ⟨"div", [("class", "view")], (frame { kind, content := .ofElement content }).root.children⟩ := rfl
  have hfound : Frame.requiredClasses.find? (fun name => (Element.findClass ⟨"div", [("class", "view")],
      (frame { kind, content := .ofElement content }).root.children⟩ name).isNone) = none := by
    refine List.find?_eq_none.2 fun name hname => ?_
    have hbelow := isSome_findClass_required { kind, content := .ofElement content } hname
    rw [Option.isNone_iff_eq_none, Element.findClass]
    split
    · exact fun h => by cases h
    · exact fun h => by rw [h] at hbelow; cases hbelow
  rw [Frame.build, hslot]
  simp only [hfound]
  rfl

/-! ## Buttons -/

theorem hasClass_button (c i : Control) : Attrs.hasClass (d.buttonAttrs i) c.className = decide (i = c) := by
  cases i <;> cases c <;> rfl

theorem findClass_buttons {c : Control} {cs : List Control} (hc : c ∈ cs) :
    (d.buttons cs).findClass c.className = some (d.button c) := by
  induction cs with
  | nil => cases hc
  | cons i cs ih =>
    simp only [buttons, Nodes.findClass, hasClass_button, decide_eq_true_eq]
    by_cases hi : i = c
    · subst hi
      rw [if_pos rfl]
      rfl
    · rw [if_neg hi, Option.none_or, ih ((List.mem_cons.1 hc).resolve_left (Ne.symm hi))]

/-- The dress with one button hidden or shown. -/
def hide (c : Control) (b : Bool) : Dress := { d with hidden := fun i => if i = c then b else d.hidden i }

theorem setHidden_button (c : Control) (b : Bool) : (d.button c).setHidden b = (d.hide c b).button c := by
  cases h : d.hidden c <;> cases b <;>
    simp [button, hide, buttonAttrs, h, Element.setHidden, Element.setAttr, Element.removeAttr, Keyed.set,
      Keyed.remove]

theorem buttonAttrs_hide {c i : Control} (hi : i ≠ c) (b : Bool) : (d.hide c b).buttonAttrs i = d.buttonAttrs i := by
  simp only [buttonAttrs, hide, if_neg hi]

theorem buttons_hide {c : Control} {cs : List Control} (hc : c ∉ cs) (b : Bool) :
    (d.hide c b).buttons cs = d.buttons cs := by
  induction cs with
  | nil => rfl
  | cons i cs ih =>
    rw [List.mem_cons, not_or] at hc
    rw [buttons, buttons, ih hc.2, buttonAttrs_hide d (Ne.symm hc.1)]

theorem changeClass?_buttons {c : Control} {cs : List Control} (hn : cs.Nodup) (hc : c ∈ cs) (b : Bool) :
    (d.buttons cs).changeClass? c.className (·.setHidden b) = some ((d.hide c b).buttons cs) := by
  induction cs with
  | nil => cases hc
  | cons i cs ih =>
    rw [List.nodup_cons] at hn
    simp only [buttons, Nodes.changeClass?, hasClass_button, decide_eq_true_eq]
    by_cases hi : i = c
    · subst hi
      have hset : (Element.mk "button" (d.buttonAttrs i) (.text (mark i) .nil)).setHidden b = (d.hide i b).button i :=
        d.setHidden_button i b
      rw [if_pos rfl, hset, buttons_hide d hn.1]
      rfl
    · rw [if_neg hi, ih hn.2 ((List.mem_cons.1 hc).resolve_left (Ne.symm hi)), buttonAttrs_hide d hi]
      rfl

theorem className_not_outer (c : Control) : c.className ∉ outerClasses := by cases c <;> decide

theorem findClass_button (c : Control) : d.frame.root.findClass c.className = some (d.button c) := by
  have hheader : d.header.findClass c.className = some (d.button c) := by
    have htitle : Attrs.hasClass [("class", Frame.titleClass)] c.className = false := by cases c <;> rfl
    rw [header, Nodes.findClass, htitle, findClass_textNodes, findClass_buttons d (by cases c <;> decide)]
    rfl
  rw [findClass_frame d (className_not_outer c), hheader, Option.some_or]

theorem change_button (c : Control) (b : Bool) : d.frame.change c.className (·.setHidden b) = (d.hide c b).frame := by
  have hheader : d.header.changeClass? c.className (·.setHidden b) = some (d.hide c b).header := by
    have htitle : Attrs.hasClass [("class", Frame.titleClass)] c.className = false := by cases c <;> rfl
    rw [header, Nodes.changeClass?, htitle, changeClass?_textNodes, changeClass?_buttons d (by decide) (by cases c <;> decide)]
    rfl
  rw [change_of_header d (className_not_outer c) hheader]
  rfl

theorem shows_frame (c : Control) : d.frame.shows c = !d.hidden c := by
  rw [Frame.shows, findClass_button]
  cases h : d.hidden c <;> simp [button, buttonAttrs, h, Element.isHidden, Attrs.isHidden, Keyed.value?_cons]

/-- Whatever was hidden before, exactly what is not allowed is hidden afterwards. -/
theorem allow_frame (caps : Capabilities) :
    d.frame.allow caps = ({ d with hidden := fun c => !caps.has c.capability } : Dress).frame := by
  rw [Frame.allow, Control.all]
  simp only [List.foldl_cons, List.foldl_nil, change_button]
  congr 1
  simp only [hide, Dress.mk.injEq, true_and, and_true]
  funext c
  cases c <;> rfl

/-! ## Title, lock and content -/

theorem title_frame : d.frame.title = d.title.getD "" := by
  have hroot : d.frame.root.findClass Frame.titleClass =
      some ⟨"span", [("class", Frame.titleClass)], textNodes d.title⟩ := rfl
  rw [Frame.title, hroot]
  exact allText_textNodes d.title

theorem setTitle_frame (title : String) : d.frame.setTitle title = ({ d with title := some title } : Dress).frame := rfl

theorem lock_frame (b : Bool) : d.frame.lock b = ({ d with locked := b } : Dress).frame := by
  obtain ⟨kind, title, hidden, content, error, locked⟩ := d
  cases locked <;> cases b <;> rfl

theorem content_frame : d.frame.content = some d.slot := by
  obtain ⟨kind, _ | title, hidden, content, error, locked⟩ := d <;> rfl

theorem change_content (f : Element → Element) :
    d.frame.change Frame.contentClass f = ⟨"div", d.attrs, d.children d.header (f d.slot)⟩ := by
  obtain ⟨kind, _ | title, hidden, content, error, locked⟩ := d <;> rfl

/-- A text is set in the content, or in the slot as a whole, and nowhere else. -/
theorem setContentText?_frame (name text : String) :
    d.frame.setContentText? name text = (d.slot.changeClass? name (·.setText text)).map fun slot =>
      ({ d with content := slot.children } : Dress).frame := by
  have hset : ∀ slot, d.slot.changeClass? name (·.setText text) = some slot →
      d.frame.change Frame.contentClass (fun _ => slot) = ({ d with content := slot.children } : Dress).frame := by
    intro slot hslot
    rw [change_content]
    unfold Element.changeClass? at hslot
    split at hslot
    · cases hslot
      rfl
    · obtain ⟨ns, -, rfl⟩ := Option.map_eq_some_iff.1 hslot
      rfl
  simp only [Frame.setContentText?, content_frame, Option.bind_eq_bind, Option.bind_some]
  cases h : d.slot.changeClass? name (·.setText text) with
  | none => rfl
  | some slot => exact congrArg some (hset slot h)

/-! ## The error slot -/

theorem findClass_error :
    d.frame.root.findClass Frame.errorClass =
      (d.content.findClass Frame.errorClass).or (some ⟨"span", [("class", Frame.errorClass)], textNodes d.error⟩) := by
  have hheader : d.header.findClass Frame.errorClass = none := by
    obtain ⟨kind, _ | title, hidden, content, error, locked⟩ := d <;> rfl
  have hfooter : d.footer.findClass Frame.errorClass =
      some ⟨"span", [("class", Frame.errorClass)], textNodes d.error⟩ := rfl
  rw [findClass_frame d (by decide), hheader, hfooter, Option.none_or, Option.some_or]

/-- The footer says the error as long as no element of the content has the class. -/
theorem error_frame (h : d.content.findClass Frame.errorClass = none) : d.frame.error = d.error.filter (· ≠ "") := by
  rw [Frame.error, findClass_error, h, Option.none_or, Option.map_some, Element.text, allText_textNodes]
  cases d.error <;> rfl

/-- What changes the first element of the error class: one in the content, or else the
error slot. -/
theorem change_error (f : Element → Element) :
    d.frame.change Frame.errorClass f =
      match d.content.changeClass? Frame.errorClass f with
      | some ns => ({ d with content := ns } : Dress).frame
      | none => ⟨"div", d.attrs,
          .element "div" [("class", "view-header")] d.header
            (.element "div" [("class", Frame.contentClass)] d.content
              (.element "div" [("class", "view-footer")]
                (.ofElement (f ⟨"span", [("class", Frame.errorClass)], textNodes d.error⟩)) handles))⟩ := by
  have hheader : d.header.changeClass? Frame.errorClass f = none := by
    obtain ⟨kind, _ | title, hidden, content, error, locked⟩ := d <;> rfl
  have hc : ∀ outer ∈ outerClasses, ∀ rest, Attrs.hasClass (("class", outer) :: rest) Frame.errorClass = false :=
    fun _ ho rest => hasClass_of_not_outer (by decide) ho rest
  have hroot : d.attrs.hasClass Frame.errorClass = false := hc "view" (by decide) _
  have hspan : Attrs.hasClass [("class", Frame.errorClass)] Frame.errorClass = true := rfl
  simp only [frame, children, slot, footer, Frame.change, Element.changeClass, Element.changeClass?, Element.hasClass,
    Nodes.changeClass?, hroot, hc "view-header" (by decide), hc Frame.contentClass (by decide),
    hc "view-footer" (by decide), hspan, hheader, Bool.false_eq_true, if_false, if_true]
  cases d.content.changeClass? Frame.errorClass f <;> rfl

/-- The element with a message as its only content, or with nothing in it. -/
def fill (message : Option String) (e : Element) : Element := { e with children := textNodes message }

theorem setError_eq (f : Frame) (message : Option String) :
    f.setError message = f.change Frame.errorClass (fill message) := by
  cases message <;> rfl

theorem setError_frame (h : d.content.findClass Frame.errorClass = none) (message : Option String) :
    d.frame.setError message = ({ d with error := message } : Dress).frame := by
  rw [setError_eq, change_error, Nodes.changeClass?_eq_none.2 h]
  rfl

end Dress

end FloatingPanels
