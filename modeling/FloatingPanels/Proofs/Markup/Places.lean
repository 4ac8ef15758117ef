import Mathlib.Data.List.Lex
import FloatingPanels.Proofs.Frame.Lock
import FloatingPanels.Proofs.Markup.Edits
/-!
# Places of elements

In the order of the document, an element comes before those below it and before its later
siblings and all below them; this is the lexical order of their places. So the first element
of a class is the one at the least place where there is one. A change at a place is seen at
this place, below it and above it, and nowhere else; an element that goes to the end of
another one brings its own places along and moves no other.
-/

namespace FloatingPanels

/-! ## Reading after a change -/

namespace Nodes

variable {f : Element → Element}

theorem element?_eq (ns : Nodes) (i : Nat) (place : List Nat) :
    ns.element? i place = ns.elements[i]?.bind (·.element? place) := by
  induction ns generalizing i with
  | nil => rfl
  | text content rest ih => exact ih i
  | element tag attrs children rest _ ihr =>
    cases i with
    | zero => cases place <;> rfl
    | succ i => exact ihr i

theorem elements_changeAt (ns : Nodes) (i : Nat) (place : List Nat) :
    (ns.changeAt f i place).elements = ns.elements.modify i (·.changeAt f place) := by
  induction ns generalizing i with
  | nil => exact (List.modify_nil _ _).symm
  | text content rest ih => exact ih i
  | element tag attrs children rest _ ihr =>
    cases i with
    | zero => cases place <;> rfl
    | succ i => exact congrArg _ (ihr i)

theorem elements_append (ns ns' : Nodes) : (ns ++ ns').elements = ns.elements ++ ns'.elements := by
  induction ns with
  | nil => rfl
  | text content rest ih => exact ih
  | element tag attrs children rest _ ihr => exact congrArg _ ihr

end Nodes

namespace Element

variable {f : Element → Element} {e x : Element} {p q : List Nat}

theorem element?_cons (e : Element) (i : Nat) (place : List Nat) :
    e.element? (i :: place) = e.children.elements[i]?.bind (·.element? place) := e.children.element?_eq i place

theorem element?_append (e : Element) (p q : List Nat) : e.element? (p ++ q) = (e.element? p).bind (·.element? q) := by
  induction p generalizing e with
  | nil => rfl
  | cons i p ih =>
    rw [List.cons_append, element?_cons, element?_cons, Option.bind_assoc]
    exact congrArg _ (funext ih)

theorem element?_changeAt_cons (e : Element) (i j : Nat) (p q : List Nat) :
    (e.changeAt f (i :: p)).element? (j :: q) =
      e.children.elements[j]?.bind fun x => if i = j then (x.changeAt f p).element? q else x.element? q := by
  rw [element?_cons, changeAt, Nodes.elements_changeAt, List.getElem?_modify]
  cases e.children.elements[j]? with
  | none => rfl
  | some x =>
    by_cases h : i = j
    · simp [h]
    · simp [h]

/-- What is seen of a change at its place and below. -/
theorem element?_changeAt_below (e : Element) (p q : List Nat) :
    (e.changeAt f p).element? (p ++ q) = (e.element? p).bind fun x => (f x).element? q := by
  induction p generalizing e with
  | nil => rfl
  | cons i p ih =>
    rw [List.cons_append, element?_changeAt_cons, element?_cons, Option.bind_assoc]
    simp only [if_true, ih]

/-- What is seen of a change above its place. -/
theorem element?_changeAt_above (e : Element) (p q : List Nat) :
    (e.changeAt f (p ++ q)).element? p = (e.element? p).map (·.changeAt f q) := by
  induction p generalizing e with
  | nil => rfl
  | cons i p ih =>
    rw [List.cons_append, element?_changeAt_cons, element?_cons, Option.map_bind]
    simp only [if_true, ih]
    rfl

/-- What is seen of a change elsewhere. -/
theorem element?_changeAt_of_apart (e : Element) (hp : ¬ p <+: q) (hq : ¬ q <+: p) :
    (e.changeAt f p).element? q = e.element? q := by
  induction p generalizing e q with
  | nil => exact absurd (List.nil_prefix) hp
  | cons i p ih =>
    cases q with
    | nil => exact absurd (List.nil_prefix) hq
    | cons j q =>
      rw [List.cons_prefix_cons] at hp hq
      rw [element?_changeAt_cons, element?_cons]
      refine congrArg _ (funext fun x => ?_)
      split
      · rename_i h
        exact ih x (fun h' => hp ⟨h, h'⟩) fun h' => hq ⟨h.symm, h'⟩
      · rfl

/-- Attributes stay as they are, but at the place of the change and below. -/
theorem attrs_changeAt_of_not_prefix (e : Element) (hp : ¬ p <+: q) :
    ((e.changeAt f p).element? q).map attrs = (e.element? q).map attrs := by
  by_cases hq : q <+: p
  · obtain ⟨r, rfl⟩ := hq
    cases r with
    | nil => exact absurd (by rw [List.append_nil]) hp
    | cons i r =>
      rw [element?_changeAt_above, Option.map_map]
      rfl
  · rw [element?_changeAt_of_apart e hp hq]

end Element

/-! ## The first element of a class -/

namespace Nodes

/-- The place of the first element of a class. -/
def place? (name : String) : Nodes → Option (Nat × List Nat)
  | nil => none
  | text _ rest => rest.place? name
  | element _ attrs children rest =>
    if attrs.hasClass name then some (0, [])
    else
      match children.place? name with
      | some (i, place) => some (0, i :: place)
      | none => (rest.place? name).map fun (i, place) => (i + 1, place)

variable {ns : Nodes} {name : String} {x : Element} {i : Nat} {place : List Nat}

theorem changeClass?_eq (ns : Nodes) (name : String) (f : Element → Element) :
    ns.changeClass? name f = (ns.place? name).map fun a => ns.changeAt f a.1 a.2 := by
  induction ns with
  | nil => rfl
  | text content rest ih =>
    rw [changeClass?, ih, place?, Option.map_map]
    rfl
  | element tag attrs children rest ihc ihr =>
    rw [changeClass?, place?]
    by_cases hclass : attrs.hasClass name
    · rw [if_pos hclass, if_pos hclass]
      rfl
    · rw [if_neg hclass, if_neg hclass, ihc]
      cases hc : children.place? name with
      | some a => rfl
      | none =>
        rw [ihr]
        cases rest.place? name <;> rfl

theorem isSome_findClass (ns : Nodes) (name : String) : (ns.findClass name).isSome = (ns.place? name).isSome := by
  induction ns with
  | nil => rfl
  | text content rest ih => exact ih
  | element tag attrs children rest ihc ihr =>
    rw [findClass, place?]
    by_cases hclass : attrs.hasClass name
    · rw [if_pos hclass, if_pos hclass]
      rfl
    · rw [if_neg hclass, if_neg hclass, Option.isSome_or, ihc, ihr]
      cases children.place? name with
      | some a => rfl
      | none => cases rest.place? name <;> rfl

theorem hasClass_of_place? (h : ns.place? name = some (i, place)) :
    ∃ x, ns.element? i place = some x ∧ x.hasClass name := by
  induction ns generalizing i place with
  | nil => cases h
  | text content rest ih => exact ih h
  | element tag attrs children rest ihc ihr =>
    rw [place?] at h
    split at h
    · rename_i hclass
      cases h
      exact ⟨⟨tag, attrs, children⟩, rfl, hclass⟩
    · split at h
      · rename_i a hc
        cases h
        exact ihc hc
      · obtain ⟨a, ha, h⟩ := Option.map_eq_some_iff.1 h
        cases h
        exact ihr ha

/-- No element of the class comes before that place. -/
theorem not_before_place? (hx : ns.element? i place = some x) (hclass : x.hasClass name) :
    ∃ a, ns.place? name = some a ∧ ¬ i :: place < a.1 :: a.2 := by
  induction ns generalizing i place with
  | nil => cases hx
  | text content rest ih => exact ih hx
  | element tag attrs children rest ihc ihr =>
    rw [place?]
    by_cases hattrs : attrs.hasClass name
    · rw [if_pos hattrs]
      refine ⟨(0, []), rfl, ?_⟩
      simp [List.cons_lt_cons_iff]
    rw [if_neg hattrs]
    cases i with
    | zero =>
      cases place with
      | nil =>
        cases hx
        exact absurd hclass hattrs
      | cons j place =>
        obtain ⟨a, ha, hfirst⟩ := ihc hx
        refine ⟨(0, a.1 :: a.2), by rw [ha], ?_⟩
        simpa [List.cons_lt_cons_iff] using hfirst
    | succ i =>
      cases children.place? name with
      | some a =>
        refine ⟨(0, a.1 :: a.2), rfl, ?_⟩
        simp [List.cons_lt_cons_iff]
      | none =>
        obtain ⟨a, ha, hfirst⟩ := ihr hx
        refine ⟨(a.1 + 1, a.2), by rw [ha]; rfl, ?_⟩
        simpa [List.cons_lt_cons_iff] using hfirst

end Nodes

namespace Element

/-- The place of the first element of a class. -/
def place? (name : String) (e : Element) : Option (List Nat) :=
  if e.hasClass name then some [] else (e.children.place? name).map fun (i, place) => i :: place

/-- The element at a place has the class. -/
def HasClassAt (e : Element) (name : String) (place : List Nat) : Prop :=
  ∃ x, e.element? place = some x ∧ x.hasClass name

/-- Some element has the class. -/
def Carries (e : Element) (name : String) : Prop := ∃ place, e.HasClassAt name place

variable {e e' : Element} {name : String} {p q : List Nat}

theorem changeClass?_eq (e : Element) (name : String) (f : Element → Element) :
    e.changeClass? name f = (e.place? name).map (e.changeAt f) := by
  rw [changeClass?, place?]
  by_cases hclass : e.hasClass name
  · rw [if_pos hclass, if_pos hclass]
    rfl
  · rw [if_neg hclass, if_neg hclass, Nodes.changeClass?_eq, Option.map_map, Option.map_map]
    rfl

theorem isSome_findClass (e : Element) (name : String) : (e.findClass name).isSome = (e.place? name).isSome := by
  rw [findClass, place?]
  by_cases hclass : e.hasClass name
  · rw [if_pos hclass, if_pos hclass]
    rfl
  · rw [if_neg hclass, if_neg hclass, Nodes.isSome_findClass, Option.isSome_map]

theorem hasClassAt_congr (h : (e.element? p).map attrs = (e'.element? q).map attrs) :
    e.HasClassAt name p ↔ e'.HasClassAt name q := by
  have hiff : ∀ o : Option Element, (∃ x, o = some x ∧ x.hasClass name) ↔ (o.map attrs).any (·.hasClass name) := by
    intro o
    cases o <;> simp [hasClass]
  rw [HasClassAt, HasClassAt, hiff, hiff, h]

theorem hasClassAt_of_place? (h : e.place? name = some p) : e.HasClassAt name p := by
  rw [place?] at h
  split at h
  · rename_i hclass
    cases h
    exact ⟨e, rfl, hclass⟩
  · obtain ⟨⟨i, place⟩, ha, h⟩ := Option.map_eq_some_iff.1 h
    cases h
    exact Nodes.hasClass_of_place? ha

theorem HasClassAt.not_before_place? (h : e.HasClassAt name q) : ∃ p, e.place? name = some p ∧ ¬ q < p := by
  obtain ⟨x, hx, hclass⟩ := h
  rw [place?]
  by_cases hroot : e.hasClass name
  · rw [if_pos hroot]
    exact ⟨[], rfl, List.not_lt_nil q⟩
  · rw [if_neg hroot]
    cases q with
    | nil =>
      cases hx
      exact absurd hclass hroot
    | cons i q =>
      obtain ⟨a, ha, hfirst⟩ := Nodes.not_before_place? hx hclass
      exact ⟨a.1 :: a.2, by rw [ha]; rfl, hfirst⟩

/-- The first element of a class comes before all others of it. -/
theorem place?_eq_some_iff :
    e.place? name = some p ↔ e.HasClassAt name p ∧ ∀ q, e.HasClassAt name q → ¬ q < p := by
  constructor
  · intro h
    refine ⟨hasClassAt_of_place? h, fun q hq => ?_⟩
    obtain ⟨p', hp', hfirst⟩ := hq.not_before_place?
    rwa [← Option.some.inj (h.symm.trans hp')] at hfirst
  · rintro ⟨hp, hfirst⟩
    obtain ⟨p', hp', hbefore⟩ := hp.not_before_place?
    rcases lt_trichotomy p p' with hlt | heq | hlt
    · exact absurd hlt hbefore
    · rw [hp', heq]
    · exact absurd hlt (hfirst p' (hasClassAt_of_place? hp'))

theorem place?_isSome : (e.place? name).isSome ↔ e.Carries name := by
  constructor
  · intro h
    obtain ⟨p, hp⟩ := Option.isSome_iff_exists.1 h
    exact ⟨p, hasClassAt_of_place? hp⟩
  · rintro ⟨q, hq⟩
    obtain ⟨p, hp, -⟩ := hq.not_before_place?
    rw [hp]
    rfl

/-- Where a class is decides where it is first. -/
theorem place?_congr (h : ∀ q, e.HasClassAt name q ↔ e'.HasClassAt name q) : e.place? name = e'.place? name := by
  refine Option.ext fun p => ?_
  rw [place?_eq_some_iff, place?_eq_some_iff]
  simp only [h]

/-! ## An element at the end of another -/

/-- The tree with an element at the end of the one at a place. -/
def insertAt (e : Element) (slot : List Nat) (content : Element) : Element :=
  e.changeAt (·.append (.ofElement content)) slot

/-- The place that an element at the end of another one would have. -/
def endPlace? (e : Element) (slot : List Nat) : Option (List Nat) :=
  (e.element? slot).map fun x => slot ++ [x.children.elements.length]

variable {slot here r : List Nat} {content : Element}

theorem elements_append_ofElement (e content : Element) :
    (e.append (.ofElement content)).children.elements = e.children.elements ++ [content] :=
  Nodes.elements_append e.children (.ofElement content)

theorem element?_past_end (h : e.endPlace? slot = some here) (r : List Nat) : e.element? (here ++ r) = none := by
  obtain ⟨x, hx, rfl⟩ := Option.map_eq_some_iff.1 h
  rw [List.append_assoc, List.singleton_append, element?_append, hx, Option.bind_some, element?_cons,
    List.getElem?_eq_none (Nat.le_refl _), Option.bind_none]

theorem HasClassAt.not_past_end (h : e.endPlace? slot = some here) (hq : e.HasClassAt name q) : ¬ here <+: q := by
  rintro ⟨r, rfl⟩
  obtain ⟨x, hx, -⟩ := hq
  rw [element?_past_end h] at hx
  cases hx

theorem element?_insertAt (h : e.endPlace? slot = some here) (r : List Nat) :
    (e.insertAt slot content).element? (here ++ r) = content.element? r := by
  obtain ⟨x, hx, rfl⟩ := Option.map_eq_some_iff.1 h
  rw [List.append_assoc, List.singleton_append, insertAt, element?_changeAt_below, hx, Option.bind_some, element?_cons,
    elements_append_ofElement, List.getElem?_concat_length, Option.bind_some]

theorem attrs_insertAt (h : e.endPlace? slot = some here) (hq : ¬ here <+: q) :
    ((e.insertAt slot content).element? q).map attrs = (e.element? q).map attrs := by
  obtain ⟨x, hx, rfl⟩ := Option.map_eq_some_iff.1 h
  by_cases hslot : slot <+: q
  · obtain ⟨r, rfl⟩ := hslot
    rw [insertAt, element?_changeAt_below, element?_append, hx, Option.bind_some, Option.bind_some]
    cases r with
    | nil => rfl
    | cons i r =>
      have hi : x.children.elements.length ≠ i := by
        rintro rfl
        exact hq ⟨r, by simp⟩
      have hsame : (x.children.elements ++ [content])[i]? = x.children.elements[i]? := by
        rw [List.getElem?_append, List.getElem?_singleton]
        split
        · rfl
        · rw [if_neg (by omega), List.getElem?_eq_none (by omega)]
      rw [element?_cons, element?_cons, elements_append_ofElement, hsame]
  · exact attrs_changeAt_of_not_prefix e hslot

/-- The classes of an inserted element come to those of the tree. -/
theorem hasClassAt_insertAt (h : e.endPlace? slot = some here) :
    (e.insertAt slot content).HasClassAt name q ↔
      e.HasClassAt name q ∨ ∃ r, q = here ++ r ∧ content.HasClassAt name r := by
  by_cases hq : here <+: q
  · obtain ⟨r, rfl⟩ := hq
    have hout : ¬ e.HasClassAt name (here ++ r) := fun hin => hin.not_past_end h (List.prefix_append here r)
    have hin : (e.insertAt slot content).HasClassAt name (here ++ r) ↔ content.HasClassAt name r := by
      rw [HasClassAt, HasClassAt, element?_insertAt h]
    simp only [hin, hout, false_or, List.append_cancel_left_eq, exists_eq_left']
  · rw [hasClassAt_congr (attrs_insertAt h hq)]
    refine ⟨.inl, fun hor => hor.resolve_right ?_⟩
    rintro ⟨r, rfl, -⟩
    exact hq (List.prefix_append here r)

theorem carries_insertAt (h : e.endPlace? slot = some here) :
    (e.insertAt slot content).Carries name ↔ e.Carries name ∨ content.Carries name := by
  simp only [Carries, hasClassAt_insertAt h]
  constructor
  · rintro ⟨q, hq | ⟨r, -, hr⟩⟩
    · exact .inl ⟨q, hq⟩
    · exact .inr ⟨r, hr⟩
  · rintro (⟨q, hq⟩ | ⟨r, hr⟩)
    · exact ⟨q, .inl hq⟩
    · exact ⟨here ++ r, .inr ⟨r, rfl, hr⟩⟩

/-! ### The first of a class -/

theorem append_lt_append_iff {p q r : List Nat} : p ++ q < p ++ r ↔ q < r := by
  induction p with
  | nil => rfl
  | cons i p ih => simp [ih]

/-- What comes after an element and is not below it comes after all that is below it. -/
theorem append_lt_of_lt {p q : List Nat} (h : p < q) (hp : ¬ p <+: q) (r : List Nat) : p ++ r < q := by
  induction p generalizing q with
  | nil => exact absurd List.nil_prefix hp
  | cons i p ih =>
    cases q with
    | nil => exact absurd h (List.not_lt_nil _)
    | cons j q =>
      rw [List.cons_append, List.cons_lt_cons_iff]
      rw [List.cons_prefix_cons] at hp
      exact (List.cons_lt_cons_iff.1 h).imp_right fun ⟨hij, hlt⟩ => ⟨hij, ih hlt fun h' => hp ⟨hij, h'⟩⟩

/-- An element that comes before the inserted one stays the first of its class. -/
theorem place?_insertAt_of_before (h : e.endPlace? slot = some here) (hp : e.place? name = some p) (hbefore : p < here) :
    (e.insertAt slot content).place? name = some p := by
  obtain ⟨hclass, hfirst⟩ := place?_eq_some_iff.1 hp
  refine place?_eq_some_iff.2 ⟨(hasClassAt_insertAt h).2 (.inl hclass), fun q hq => ?_⟩
  rcases (hasClassAt_insertAt h).1 hq with hq | ⟨r, rfl, -⟩
  · exact hfirst q hq
  · intro hlt
    exact (List.prefix_append here r).le (List.lt_trans hlt hbefore)

/-- An element that comes with the inserted one is the first of its class, unless one comes
before. -/
theorem place?_insertAt_of_after (h : e.endPlace? slot = some here) (hp : ∀ p, e.place? name = some p → here < p)
    (hr : content.place? name = some r) : (e.insertAt slot content).place? name = some (here ++ r) := by
  obtain ⟨hclass, hfirst⟩ := place?_eq_some_iff.1 hr
  refine place?_eq_some_iff.2 ⟨(hasClassAt_insertAt h).2 (.inr ⟨r, rfl, hclass⟩), fun q hq => ?_⟩
  rcases (hasClassAt_insertAt h).1 hq with hq | ⟨r', rfl, hr'⟩
  · obtain ⟨p, hp', hnot⟩ := hq.not_before_place?
    have hlt : here < q := lt_of_lt_of_le (hp p hp') (not_lt.1 hnot)
    exact List.lt_asymm (append_lt_of_lt hlt (hq.not_past_end h) r)
  · rw [append_lt_append_iff]
    exact hfirst r' hr'

/-- An inserted element without the class leaves the first of the class where it is. -/
theorem place?_insertAt_of_none (h : e.endPlace? slot = some here) (hc : content.place? name = none) :
    (e.insertAt slot content).place? name = e.place? name := by
  refine place?_congr fun q => (hasClassAt_insertAt h).trans ⟨fun hor => hor.resolve_right ?_, .inl⟩
  rintro ⟨r, -, hr⟩
  obtain ⟨p, hp, -⟩ := hr.not_before_place?
  rw [hc] at hp
  cases hp

end Element

end FloatingPanels
