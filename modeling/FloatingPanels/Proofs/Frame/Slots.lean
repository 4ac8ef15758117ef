import FloatingPanels.Proofs.Frame.Usual
import FloatingPanels.Markup.Fragment
/-!
# Title, buttons, content and error of a frame

Panels and hosts change a frame in five ways, the `Edit`s, and in the usual chrome each of
them is a change of its dress. `build_immune` says that no content can get at the title or
the buttons, and that only a text set in the content or an error may change the content.
`build_separate` says that errors stay out of the content as long as no element of the
content carries the class of the error slot. One that does takes the error's place.
-/

namespace FloatingPanels

namespace Nodes

/-- A text that is set brings no class with it. -/
theorem findClass_of_setText {ns ns' : Nodes} {name text missing : String} (h : ns.findClass missing = none)
    (hns : ns.changeClass? name (·.setText text) = some ns') : ns'.findClass missing = none := by
  induction ns generalizing ns' with
  | nil => cases hns
  | text content rest ih =>
    obtain ⟨rest', hrest, rfl⟩ := Option.map_eq_some_iff.1 hns
    show rest'.findClass missing = none
    exact ih h hrest
  | element tag attrs children rest ihc ihr =>
    have hclass : attrs.hasClass missing = false := by
      by_contra hclass
      rw [findClass, if_pos (by simpa using hclass)] at h
      cases h
    rw [findClass, hclass, if_neg Bool.false_ne_true, Option.or_eq_none_iff] at h
    rw [changeClass?] at hns
    by_cases hname : attrs.hasClass name
    · rw [if_pos hname] at hns
      cases hns
      simp only [Element.setText, findClass, hclass, Bool.false_eq_true, if_false, h.2, Option.or_none]
    · rw [if_neg hname] at hns
      cases hc : children.changeClass? name (·.setText text) with
      | some children' =>
        simp only [hc, Option.some.injEq] at hns
        subst hns
        simp only [findClass, hclass, Bool.false_eq_true, if_false, ihc h.1 hc, h.2, Option.or_none]
      | none =>
        simp only [hc] at hns
        obtain ⟨rest', hrest, rfl⟩ := Option.map_eq_some_iff.1 hns
        simp only [findClass, hclass, Bool.false_eq_true, if_false, h.1, ihr h.2 hrest, Option.or_none]

end Nodes

namespace Frame

/-- What panels and hosts do to a frame. -/
inductive Edit where
  | allow (caps : Capabilities)
  | setTitle (title : String)
  /-- Without effect where the content has no element of the class. -/
  | setContentText (name text : String)
  | lock (locked : Bool)
  | setError (message : Option String)
  deriving DecidableEq, Repr

def edit (f : Frame) : Edit → Frame
  | .allow caps => f.allow caps
  | .setTitle title => f.setTitle title
  | .setContentText name text => (f.setContentText? name text).getD f
  | .lock locked => f.lock locked
  | .setError message => f.setError message

def edits (f : Frame) (es : List Edit) : Frame := es.foldl edit f

def Edit.title? : Edit → Option String
  | .setTitle title => some title
  | _ => none

def Edit.caps? : Edit → Option Capabilities
  | .allow caps => some caps
  | _ => none

def Edit.isError : Edit → Bool
  | .setError _ => true
  | _ => false

/-- What the last of the edits that set it has set. -/
def latest {α : Type} (set? : Edit → Option α) (es : List Edit) : Option α := (es.filterMap set?).getLast?

theorem latest_cons {α : Type} (set? : Edit → Option α) (e : Edit) (es : List Edit) :
    latest set? (e :: es) = (latest set? es).or (set? e) := by
  cases he : set? e with
  | none => rw [latest, List.filterMap_cons_none he, Option.or_none, latest]
  | some a =>
    rw [latest, List.filterMap_cons_some he, List.getLast?_cons, latest]
    cases (es.filterMap set?).getLast? <;> rfl

end Frame

namespace Dress

open FloatingPanels.Frame (Edit latest)

variable (d : Dress)

/-- An edit of the frame, as an edit of its dress. -/
def edit (d : Dress) : Edit → Dress
  | .allow caps => { d with hidden := fun c => !caps.has c.capability }
  | .setTitle title => { d with title := some title }
  | .setContentText name text =>
    match d.slot.changeClass? name (·.setText text) with
    | some slot => { d with content := slot.children }
    | none => d
  | .lock locked => { d with locked }
  | .setError message =>
    match d.content.changeClass? Frame.errorClass (fill message) with
    | some content => { d with content }
    | none => { d with error := message }

def edits (es : List Edit) : Dress := es.foldl edit d

theorem edit_frame (e : Edit) : d.frame.edit e = (d.edit e).frame := by
  cases e with
  | allow caps => exact d.allow_frame caps
  | setTitle title => exact d.setTitle_frame title
  | setContentText name text =>
    rw [Frame.edit, setContentText?_frame, edit]
    cases d.slot.changeClass? name (·.setText text) <;> rfl
  | lock locked => exact d.lock_frame locked
  | setError message =>
    rw [Frame.edit, setError_eq, change_error, edit]
    cases d.content.changeClass? Frame.errorClass (fill message) <;> rfl

theorem edits_frame (es : List Edit) : d.frame.edits es = (d.edits es).frame := by
  induction es generalizing d with
  | nil => rfl
  | cons e es ih =>
    rw [Frame.edits, List.foldl_cons, edit_frame]
    exact ih (d.edit e)

/-! ## What one edit leaves alone -/

theorem title_edit (e : Edit) : (d.edit e).title = e.title?.or d.title := by
  cases e with
  | setContentText name text => simp only [edit]; split <;> rfl
  | setError message => simp only [edit]; split <;> rfl
  | _ => rfl

theorem hidden_edit (e : Edit) :
    (d.edit e).hidden = (e.caps?.map fun caps (c : Control) => !caps.has c.capability).getD d.hidden := by
  cases e with
  | setContentText name text => simp only [edit]; split <;> rfl
  | setError message => simp only [edit]; split <;> rfl
  | _ => rfl

theorem error_edit {e : Edit} (he : e.isError = false) : (d.edit e).error = d.error := by
  cases e with
  | setError message => cases he
  | setContentText name text => simp only [edit]; split <;> rfl
  | _ => rfl

theorem content_edit {e : Edit} (h : d.content.findClass Frame.errorClass = none) :
    (d.edit e).content.findClass Frame.errorClass = none := by
  cases e with
  | setError message =>
    rw [edit, Nodes.changeClass?_eq_none.2 h]
    exact h
  | setContentText name text =>
    simp only [edit]
    split
    · rename_i slot hslot
      unfold Element.changeClass? at hslot
      split at hslot
      · cases hslot
        rfl
      · obtain ⟨ns, hns, rfl⟩ := Option.map_eq_some_iff.1 hslot
        exact Nodes.findClass_of_setText h hns
    · exact h
  | _ => exact h

/-! ## What many edits leave alone -/

theorem title_edits (es : List Edit) : (d.edits es).title = (latest Edit.title? es).or d.title := by
  induction es generalizing d with
  | nil => rfl
  | cons e es ih =>
    rw [Frame.latest_cons, Option.or_assoc, ← title_edit]
    exact ih (d.edit e)

theorem hidden_edits (es : List Edit) :
    (d.edits es).hidden =
      ((latest Edit.caps? es).map fun caps (c : Control) => !caps.has c.capability).getD d.hidden := by
  induction es generalizing d with
  | nil => rfl
  | cons e es ih =>
    refine (ih (d.edit e)).trans ?_
    rw [Frame.latest_cons, hidden_edit]
    cases latest Edit.caps? es <;> rfl

theorem error_edits {es : List Edit} (h : ∀ e ∈ es, e.isError = false) : (d.edits es).error = d.error := by
  induction es generalizing d with
  | nil => rfl
  | cons e es ih =>
    refine (ih (d.edit e) fun e he => h e (List.mem_cons_of_mem _ he)).trans ?_
    exact d.error_edit (h e List.mem_cons_self)

theorem content_edits (es : List Edit) (h : d.content.findClass Frame.errorClass = none) :
    (d.edits es).content.findClass Frame.errorClass = none := by
  induction es generalizing d with
  | nil => exact h
  | cons e es ih => exact ih (d.edit e) (d.content_edit h)

end Dress

namespace Frame

/-- After these edits the title and the buttons are as they were set last, the content
slot is that of the chrome, and title, buttons and lock can be set without touching it. -/
structure Immune (f : Frame) (es : List Edit) : Prop where
  title : ∀ title, latest Edit.title? es = some title → (f.edits es).title = title
  shows : ∀ caps, latest Edit.caps? es = some caps → ∀ c, (f.edits es).shows c = caps.has c.capability
  /-- The second of the root's children. -/
  slot : ∃ ns, (f.edits es).content = some ⟨"div", [("class", contentClass)], ns⟩ ∧
    (f.edits es).root.children.elements[1]? = (f.edits es).content
  allow : ∀ caps, ((f.edits es).allow caps).content = (f.edits es).content
  setTitle : ∀ title, ((f.edits es).setTitle title).content = (f.edits es).content
  lock : ∀ locked, ((f.edits es).lock locked).content = (f.edits es).content

/-- In the usual chrome no content, whatever its classes, gets at the title or the
buttons. -/
theorem build_immune (content : Element) (kind : String) (es : List Edit) :
    ∃ f, build Chrome.usual content kind = .ok f ∧ f.Immune es := by
  refine ⟨_, Dress.build_usual content kind, ?_⟩
  generalize ({ kind, content := .ofElement content } : Dress) = d
  constructor
  · intro title ht
    rw [d.edits_frame, Dress.title_frame, d.title_edits, ht, Option.some_or, Option.getD_some]
  · intro caps hc c
    rw [d.edits_frame, Dress.shows_frame, d.hidden_edits, hc, Option.map_some, Option.getD_some, Bool.not_not]
  · rw [d.edits_frame, Dress.content_frame]
    exact ⟨(d.edits es).content, rfl, rfl⟩
  · intro caps
    rw [d.edits_frame, Dress.allow_frame, Dress.content_frame, Dress.content_frame]
    rfl
  · intro title
    rw [d.edits_frame, Dress.setTitle_frame, Dress.content_frame, Dress.content_frame]
    rfl
  · intro locked
    rw [d.edits_frame, Dress.lock_frame, Dress.content_frame, Dress.content_frame]
    rfl

/-- After these edits an error is set and cleared without touching the content, and before
any was set there is none. -/
structure Separate (f : Frame) (es : List Edit) : Prop where
  unset : (∀ e ∈ es, e.isError = false) → (f.edits es).error = none
  set : ∀ message, ((f.edits es).setError (some message)).content = (f.edits es).content ∧
    (message ≠ "" → ((f.edits es).setError (some message)).error = some message)
  clear : ((f.edits es).setError none).content = (f.edits es).content ∧ ((f.edits es).setError none).error = none

/-- In the usual chrome the error slot is separate from a content in which no element has
its class. -/
theorem build_separate {content : Element} (hc : content.findClass errorClass = none) (kind : String)
    (es : List Edit) : ∃ f, build Chrome.usual content kind = .ok f ∧ f.Separate es := by
  refine ⟨_, Dress.build_usual content kind, ?_⟩
  have hnone : ({ kind, content := .ofElement content } : Dress).error = none := rfl
  have hfree : ({ kind, content := .ofElement content } : Dress).content.findClass errorClass = none :=
    (Nodes.findClass_ofElement content errorClass).trans hc
  generalize ({ kind, content := .ofElement content } : Dress) = d at hnone hfree
  have hfree' := d.content_edits es hfree
  have hset : ∀ message, ((d.edits es).frame.setError message).content = (d.edits es).frame.content ∧
      ((d.edits es).frame.setError message).error = message.filter (· ≠ "") := by
    intro message
    rw [(d.edits es).setError_frame hfree' message, Dress.content_frame, Dress.content_frame]
    exact ⟨rfl, Dress.error_frame { d.edits es with error := message } hfree'⟩
  rw [← d.edits_frame] at hset
  constructor
  · intro hes
    rw [d.edits_frame, (d.edits es).error_frame hfree', d.error_edits hes, hnone, Option.filter_none]
  · intro message
    refine ⟨(hset (some message)).1, fun hm => (hset (some message)).2.trans ?_⟩
    exact Option.filter_some_pos (by simpa using hm)
  · exact ⟨(hset none).1, (hset none).2⟩

/-- A note whose text has a class of its own. -/
def note : Element := ⟨"p", [("class", "text error")], .text "hello" .nil⟩

theorem build_separate_note :
    note.findClass errorClass = none ∧
      ∃ f, build Chrome.usual note "note" = .ok f ∧
        f.Separate [.allow {}, .setTitle "Notes", .setError (some "failed"), .setContentText "text" "bye"] :=
  ⟨by decide, build_separate (by decide) "note" _⟩

/-- A note in which an element has the class of the error slot. -/
def erring : Element := ⟨"p", [("class", "view-error")], .text "hello" .nil⟩

/-- The frame of such a note has an error before any was set, and the next error is written
over the note. -/
theorem build_separate_fails_erring :
    Fragment.parse "<p class=\"view-error\">hello</p>" = .ok erring ∧
      ∃ f, build Chrome.usual erring "note" = .ok f ∧ f.error = some "hello" ∧
        f.contentLines = ["hello"] ∧ (f.setError (some "failed")).contentLines = ["failed"] ∧
        (f.setError none).content ≠ f.content := by
  refine ⟨by decide +kernel, _, Dress.build_usual erring "note", ?_⟩
  decide +kernel

end Frame

end FloatingPanels
