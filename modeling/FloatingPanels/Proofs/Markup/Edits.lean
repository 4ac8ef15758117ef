import FloatingPanels.Proofs.Frame.Lock
import FloatingPanels.Proofs.Markup.WellFormed
/-!
# Edits of attributes

The attributes of a tree that was parsed are set and removed one by one, at the root and at
any depth. Edits leave the tree in shape and no name comes twice. Every attribute of every
element has the value that the last edit of this name at this place has left, and is gone if
that was its removal; a name that no edit was about keeps the value from the source.
-/

namespace FloatingPanels

/-- A change of an attribute. -/
inductive AttrEdit where
  | set (name value : String)
  | remove (name : String)
  | hide (hidden : Bool)
  deriving DecidableEq, Repr

namespace AttrEdit

def apply (x : AttrEdit) (e : Element) : Element :=
  match x with
  | set name value => e.setAttr name value
  | remove name => e.removeAttr name
  | hide hidden => e.setHidden hidden

/-- What an edit leaves as the value of a name, where it is about that name: no value if it
removes it. -/
def leaves? (name : String) : AttrEdit → Option (Option String)
  | set n value => if n = name then some (some value) else none
  | remove n => if n = name then some none else none
  | hide hidden => if "hidden" = name then some (if hidden then some "" else none) else none

variable (x : AttrEdit) (e : Element)

@[simp] theorem tag_apply : (x.apply e).tag = e.tag := by
  cases x with
  | hide hidden => cases hidden <;> rfl
  | _ => rfl

@[simp] theorem children_apply : (x.apply e).children = e.children := by
  cases x with
  | hide hidden => cases hidden <;> rfl
  | _ => rfl

theorem attr_apply (name : String) : (x.apply e).attr name = (x.leaves? name).getD (e.attr name) := by
  cases x with
  | set n value =>
    rw [apply, Element.attr_setAttr, leaves?]
    split <;> rfl
  | remove n =>
    rw [apply, Element.attr_removeAttr, leaves?]
    split <;> rfl
  | hide hidden =>
    cases hidden with
    | true =>
      rw [apply, Element.setHidden, if_pos rfl, Element.attr_setAttr, leaves?]
      split <;> rfl
    | false =>
      rw [apply, Element.setHidden, if_neg Bool.false_ne_true, Element.attr_removeAttr, leaves?]
      split <;> rfl

theorem distinct_apply (h : e.attrs.Distinct) : (x.apply e).attrs.Distinct := by
  have hset : ∀ name value, (e.setAttr name value).attrs.Distinct := fun _ _ => Keyed.nodup_keys_set h
  have hremove : ∀ name, (e.removeAttr name).attrs.Distinct := fun _ => Keyed.nodup_keys_filter h _
  cases x with
  | set name value => exact hset name value
  | remove name => exact hremove name
  | hide hidden =>
    cases hidden with
    | true => exact hset "hidden" ""
    | false => exact hremove "hidden"

end AttrEdit

/-! ## Places -/

namespace Nodes

/-- The element at a place: the one of a number, counted from zero without the texts, or one
below it. -/
def element? : Nodes → Nat → List Nat → Option Element
  | nil, _, _ => none
  | text _ rest, i, place => rest.element? i place
  | element tag attrs children _, 0, [] => some ⟨tag, attrs, children⟩
  | element _ _ children _, 0, i :: place => children.element? i place
  | element _ _ _ rest, i + 1, place => rest.element? i place

/-- The nodes with the element at a place changed, if there is one. -/
def changeAt (f : Element → Element) : Nodes → Nat → List Nat → Nodes
  | nil, _, _ => nil
  | text content rest, i, place => text content (rest.changeAt f i place)
  | element tag attrs children rest, 0, [] =>
    let e := f ⟨tag, attrs, children⟩
    element e.tag e.attrs e.children rest
  | element tag attrs children rest, 0, i :: place => element tag attrs (children.changeAt f i place) rest
  | element tag attrs children rest, i + 1, place => element tag attrs children (rest.changeAt f i place)

variable {f : Element → Element}

/-- A change of an element that keeps its children reaches the attributes of no other one. -/
theorem attrs_changeAt (hf : ∀ e, (f e).children = e.children) (ns : Nodes) (i j : Nat) (place place' : List Nat) :
    ((ns.changeAt f i place).element? j place').map Element.attrs =
      if (i, place) = (j, place') then (ns.element? j place').map fun e => (f e).attrs
      else (ns.element? j place').map Element.attrs := by
  fun_induction changeAt f ns i place generalizing j place' with
  | case1 => simp [element?]
  | case2 content rest i place ih => exact ih j place'
  | case3 tag attrs children rest e =>
    match j, place' with
    | 0, [] => simp [element?, e]
    | 0, k :: place' => simp [element?, e, hf]
    | j + 1, place' => simp [element?]
  | case4 tag attrs children rest i place ih =>
    match j, place' with
    | 0, [] => simp [element?]
    | 0, k :: place' => simpa [element?] using ih k place'
    | j + 1, place' => simp [element?]
  | case5 tag attrs children rest i place ih =>
    match j, place' with
    | 0, [] => simp [element?]
    | 0, k :: place' => simp [element?]
    | j + 1, place' => simpa [element?] using ih j place'

theorem wellFormed_changeAt {named : Attrs → Prop} (htag : ∀ e, (f e).tag = e.tag)
    (hchildren : ∀ e, (f e).children = e.children) (hnamed : ∀ e, named e.attrs → named (f e).attrs) {ns : Nodes}
    (h : ns.WellFormed named) (i : Nat) (place : List Nat) : (ns.changeAt f i place).WellFormed named := by
  fun_induction changeAt f ns i place with
  | case1 => exact trivial
  | case2 content rest i place ih => exact ⟨h.1, ih h.2⟩
  | case3 tag attrs children rest e =>
    obtain ⟨⟨hword, hattrs, hvoid⟩, hbelow, hrest⟩ := h
    rw [WellFormed, htag, hchildren]
    exact ⟨⟨hword, hnamed _ hattrs, hvoid⟩, hbelow, hrest⟩
  | case4 tag attrs children rest i place ih =>
    obtain ⟨⟨hword, hattrs, hvoid⟩, hbelow, hrest⟩ := h
    refine ⟨⟨hword, hattrs, fun hv => ?_⟩, ih hbelow, hrest⟩
    rw [hvoid hv]
    rfl
  | case5 tag attrs children rest i place ih => exact ⟨h.1, h.2.1, ih h.2.2⟩

theorem WellFormed.imp {P Q : Attrs → Prop} (hpq : ∀ attrs, P attrs → Q attrs) {ns : Nodes} (h : ns.WellFormed P) :
    ns.WellFormed Q := by
  induction ns with
  | nil => exact trivial
  | text content rest ih => exact ⟨h.1, ih h.2⟩
  | element tag attrs children rest ihc ihr =>
    obtain ⟨⟨hword, hattrs, hvoid⟩, hbelow, hrest⟩ := h
    exact ⟨⟨hword, hpq _ hattrs, hvoid⟩, ihc hbelow, ihr hrest⟩

end Nodes

/-- An edit at a place of a tree: the numbers of the elements on the way from the root. -/
structure PlacedEdit where
  place : List Nat
  edit : AttrEdit
  deriving DecidableEq, Repr

/-- What the last edit of a name at a place has left as its value, if there was one. -/
def lastLeft? (place : List Nat) (name : String) (xs : List PlacedEdit) : Option (Option String) :=
  (xs.filterMap fun x => if x.place = place then x.edit.leaves? name else none).getLast?

theorem lastLeft?_cons (place : List Nat) (name : String) (x : PlacedEdit) (xs : List PlacedEdit) :
    lastLeft? place name (x :: xs) =
      (lastLeft? place name xs).or (if x.place = place then x.edit.leaves? name else none) := by
  rw [lastLeft?, List.filterMap_cons]
  split
  · rename_i h
    rw [h, Option.or_none, lastLeft?]
  · rename_i value h
    rw [h, List.getLast?_cons, lastLeft?]
    cases List.getLast? _ <;> rfl

namespace Element

def element? (e : Element) : List Nat → Option Element
  | [] => some e
  | i :: place => e.children.element? i place

def changeAt (f : Element → Element) (e : Element) : List Nat → Element
  | [] => f e
  | i :: place => { e with children := e.children.changeAt f i place }

def edit (e : Element) (x : PlacedEdit) : Element := e.changeAt x.edit.apply x.place

def edits (e : Element) (xs : List PlacedEdit) : Element := xs.foldl edit e

theorem attrs_edit (e : Element) (x : PlacedEdit) (place : List Nat) :
    ((e.edit x).element? place).map attrs =
      if x.place = place then (e.element? place).map fun y => (x.edit.apply y).attrs
      else (e.element? place).map attrs := by
  have hbelow := fun i k p q => Nodes.attrs_changeAt x.edit.children_apply e.children i k p q
  obtain ⟨here, x⟩ := x
  match here, place with
  | [], [] => rfl
  | [], j :: place => simp [edit, changeAt, element?]
  | i :: here, [] => simp [edit, changeAt, element?]
  | i :: here, j :: place => simpa [edit, changeAt, element?] using hbelow i j here place

theorem attr_edit (e : Element) (x : PlacedEdit) (place : List Nat) (name : String) :
    ((e.edit x).element? place).map (·.attr name) = (e.element? place).map fun y =>
      ((if x.place = place then x.edit.leaves? name else none).getD (y.attr name)) := by
  have hattrs := congrArg (Option.map fun attrs : Attrs => attrs.value? name) (e.attrs_edit x place)
  rw [Option.map_map] at hattrs
  refine hattrs.trans ?_
  split
  · rw [Option.map_map]
    exact Option.map_congr fun y _ => x.edit.attr_apply y name
  · rw [Option.map_map]
    rfl

/-- The last edit of a name at a place decides. -/
theorem attr_edits (e : Element) (xs : List PlacedEdit) (place : List Nat) (name : String) :
    ((e.edits xs).element? place).map (·.attr name) =
      (e.element? place).map fun y => (lastLeft? place name xs).getD (y.attr name) := by
  induction xs generalizing e with
  | nil => rfl
  | cons x xs ih =>
    have hhead := congrArg (Option.map fun v => (lastLeft? place name xs).getD v) (e.attr_edit x place name)
    rw [Option.map_map, Option.map_map] at hhead
    refine (ih (e.edit x)).trans (hhead.trans (Option.map_congr fun y _ => ?_))
    rw [lastLeft?_cons]
    cases lastLeft? place name xs <;> rfl

theorem wellFormed_edit {e : Element} (h : e.WellFormed Attrs.Distinct) (x : PlacedEdit) :
    (e.edit x).WellFormed Attrs.Distinct := by
  obtain ⟨here, x⟩ := x
  have hplaced := Nodes.wellFormed_changeAt x.tag_apply x.children_apply x.distinct_apply h 0 here
  cases here with
  | nil => exact hplaced
  | cons i here => exact hplaced

theorem wellFormed_edits {e : Element} (h : e.WellFormed Attrs.Distinct) (xs : List PlacedEdit) :
    (e.edits xs).WellFormed Attrs.Distinct :=
  List.foldlRecOn xs edit h fun _ he x _ => wellFormed_edit he x

/-- Whatever is parsed is in order, and stays so under edits of its attributes, which have the
values that were set last. -/
theorem parse_wellFormed {source : String} {e : Element} (h : Fragment.parse source = .ok e) :
    e.WellFormed Attrs.InOrder ∧ ∀ xs : List PlacedEdit, (e.edits xs).WellFormed Attrs.Distinct ∧
      ∀ place name, ((e.edits xs).element? place).map (·.attr name) =
        (e.element? place).map fun y => (lastLeft? place name xs).getD (y.attr name) := by
  have hparsed := Fragment.wellFormed_of_parse h
  refine ⟨hparsed, fun xs => ⟨wellFormed_edits ?_ xs, e.attr_edits xs⟩⟩
  exact Nodes.WellFormed.imp (fun _ => Attrs.InOrder.distinct) hparsed

/-- An attribute comes twice, an entity stands for a blank, a void element is written like
others, and an empty one with a slash. -/
theorem parse_wellFormed_untidy :
    let e : Element := ⟨"div", [("id", "b"), ("hidden", "")],
      .element "br" [("x", "1")] .nil (.element "p" [("", "&")] .nil (.text "&lt;" .nil))⟩
    let xs : List PlacedEdit := [⟨[1], .set "" "2"⟩, ⟨[], .hide false⟩, ⟨[0], .set "" "3"⟩, ⟨[1], .remove "x"⟩]
    Fragment.parse "<DIV Id=a hidden ID='b'><BR x=1>&nbsp;<p =&amp;/>&amp;lt;</div>" = .ok e ∧
      e.WellFormed Attrs.InOrder ∧ (e.edits xs).WellFormed Attrs.Distinct ∧
      (e.edits xs).attr "hidden" = none ∧ ((e.edits xs).element? [1]).map (·.attr "") = some (some "2") := by
  intro e xs
  have hparse : Fragment.parse "<DIV Id=a hidden ID='b'><BR x=1>&nbsp;<p =&amp;/>&amp;lt;</div>" = .ok e := by
    decide +kernel
  obtain ⟨hparsed, hedits⟩ := parse_wellFormed hparse
  obtain ⟨hshape, hattr⟩ := hedits xs
  exact ⟨hparse, hparsed, hshape, Option.some.inj ((hattr [] "hidden").trans (by decide)), (hattr [1] "").trans (by decide)⟩

end Element

end FloatingPanels
