import FloatingPanels.Desktop.Construction
import FloatingPanels.Proofs.Desktop.Sound
import Mathlib.Data.List.Induction
/-!
# Windows that join a desktop

A desktop that some windows have joined is the desktop of before with these windows on
top of all others and last in their containers. To build, to discard and to complete one
of them changes the list of those that joined and leaves the desktop of before as it
was; what comes of creations that overlap can be read off that list.
-/

namespace FloatingPanels

/-! ## Heights -/

namespace Window

/-- Windows on top of each other, the lowest at the height `z`. -/
def heaped (z : Nat) : List Window → List Window
  | [] => []
  | w :: ws => { w with z } :: heaped (z + 1) ws

theorem heaped_append (z : Nat) (ws vs : List Window) :
    heaped z (ws ++ vs) = heaped z ws ++ heaped (z + ws.length) vs := by
  induction ws generalizing z with
  | nil => rfl
  | cons w ws ih =>
    rw [List.cons_append, heaped, ih, heaped, List.cons_append, List.length_cons, Nat.add_right_comm, Nat.add_assoc]

theorem length_heaped (z : Nat) (ws : List Window) : (heaped z ws).length = ws.length := by
  induction ws generalizing z with
  | nil => rfl
  | cons w ws ih => rw [heaped, List.length_cons, ih, List.length_cons]

/-- Whatever does not depend on the height is as it was. -/
theorem map_heaped {α : Type} {f g : Window → α} (h : ∀ w z, f { w with z } = g w) (z : Nat) (ws : List Window) :
    (heaped z ws).map f = ws.map g := by
  induction ws generalizing z with
  | nil => rfl
  | cons w ws ih => rw [heaped, List.map_cons, List.map_cons, h, ih]

theorem map_id_heaped (z : Nat) (ws : List Window) : (heaped z ws).map Window.id = ws.map Window.id :=
  map_heaped (fun _ _ => rfl) z ws

/-- A change that leaves heights alone and does not depend on them. -/
theorem heaped_map {f : Window → Window} (h : ∀ w z, f { w with z } = { f w with z }) (z : Nat) (ws : List Window) :
    (heaped z ws).map f = heaped z (ws.map f) := by
  induction ws generalizing z with
  | nil => rfl
  | cons w ws ih => rw [heaped, List.map_cons, List.map_cons, heaped, h, ih]

theorem heaped_filter {p : Window → Bool} (h : ∀ w z, p { w with z } = p w) (z : Nat) {ws : List Window}
    (hp : ∀ w ∈ ws, p w) : (heaped z ws).filter p = heaped z ws := by
  refine List.filter_eq_self.2 fun v hv => ?_
  have hm : p v ∈ (heaped z ws).map p := List.mem_map_of_mem hv
  rw [map_heaped h] at hm
  obtain ⟨w, hw, he⟩ := List.mem_map.1 hm
  rw [← he]
  exact hp w hw

/-- Windows below a height stay where they are when others sink. -/
theorem sink_of_le {y : Nat} {w : Window} (h : w.z ≤ y) : w.sink y = w := by
  rw [sink, if_neg (Nat.not_lt.2 h)]

theorem heaped_sink_of_le {y z : Nat} {ws : List Window} (h : z + ws.length ≤ y + 1) :
    (heaped z ws).map (sink y) = heaped z ws := by
  induction ws generalizing z with
  | nil => rfl
  | cons w ws ih =>
    rw [List.length_cons] at h
    rw [heaped, List.map_cons, sink_of_le (show z ≤ y by omega), ih (by omega)]

theorem heaped_sink {y z : Nat} (h : y ≤ z) (ws : List Window) :
    (heaped (z + 1) ws).map (sink y) = heaped z ws := by
  induction ws generalizing z with
  | nil => rfl
  | cons w ws ih =>
    rw [heaped, List.map_cons, ih (Nat.le_succ_of_le h), heaped, sink, if_pos (Nat.lt_succ_of_le h)]
    rfl

end Window

/-- With distinct numbers, the list without one window. -/
theorem Window.filter_ne {pre post : List Window} {w : Window} (hn : ((pre ++ w :: post).map Window.id).Nodup) :
    (∀ v ∈ pre ++ post, v.id ≠ w.id) ∧ (pre ++ w :: post).filter (fun v => v.id ≠ w.id) = pre ++ post := by
  rw [List.map_append, List.map_cons, List.nodup_middle, ← List.map_append, List.nodup_cons] at hn
  have hne : ∀ v ∈ pre ++ post, v.id ≠ w.id := fun v hv he => hn.1 (he ▸ List.mem_map_of_mem hv)
  refine ⟨hne, ?_⟩
  rw [List.filter_append, List.filter_cons_of_neg (by simp), ← List.filter_append]
  exact List.filter_eq_self.2 fun v hv => decide_eq_true (hne v hv)

/-- The window at its anchor, if it has one and that is known. -/
def Window.placed (p : Page) (under : Option String) (w : Window) : Window :=
  match under.bind p.anchor? with
  | some a => { w with rect := { w.rect with left := a.left, top := a.bottom }.clamp p.viewport.width }
  | none => w

def Window.completed (p : Page) (under : Option String) (w : Window) : Window :=
  { w.placed p under with constructed := true }

theorem Window.placed_z (p : Page) (under : Option String) (w : Window) (z : Nat) :
    placed p under { w with z } = { placed p under w with z } := by
  unfold placed
  split <;> rfl

theorem Window.placed_eq (p : Page) (under : Option String) (w : Window) :
    ∃ rect, w.placed p under = { w with rect } := by
  unfold placed
  split
  · exact ⟨_, rfl⟩
  · exact ⟨w.rect, rfl⟩

/-- A window that has just been built, with the next number. -/
structure Window.IsNew (w : Window) (issued : Nat) : Prop where
  id : w.id = ⟨issued + 1⟩
  visible : w.mode.isHidden = false
  widgets : w.widgets = []
  constructed : w.constructed = false

/-! ## Libraries -/

/-- What is registered for each kind. -/
def Library.texts (l : Library) : List (String × String) := l.templates.map fun e => (e.1, e.2.markup)

/-- Two libraries know the same, but one may have parsed more of it. -/
structure Library.Alike (l l' : Library) : Prop where
  texts : l'.texts = l.texts
  presets : l'.presets = l.presets

theorem Library.Alike.refl (l : Library) : l.Alike l := ⟨rfl, rfl⟩

/-- Setting a key to a value that looks the same changes nothing that is seen. -/
theorem Keyed.map_set {κ α β : Type} [DecidableEq κ] {l : Keyed κ α} {k : κ} {a a' : α} {f : κ × α → β}
    (h : l.value? k = some a) (hf : f (k, a') = f (k, a)) : (Keyed.set k a' l).map f = l.map f := by
  induction l with
  | nil => cases h
  | cons e l ih =>
    rw [Keyed.value?_cons] at h
    rw [Keyed.set]
    by_cases he : e.1 = k
    · rw [if_pos he] at h ⊢
      rw [List.map_cons, List.map_cons, hf, ← Option.some.inj h, ← he]
    · rw [if_neg he] at h ⊢
      rw [List.map_cons, List.map_cons, ih h]

theorem Library.alike_fragment (l : Library) (kind : String) : l.Alike (l.fragment kind).1 := by
  unfold Library.fragment
  split
  · exact .refl l
  · rename_i t ht
    split
    · exact .refl l
    · exact ⟨Keyed.map_set (f := fun e : String × Template => (e.1, e.2.markup)) ht rfl, rfl⟩

/-! ## Containers -/

namespace Page

/-- The page with these windows at the end of their containers. -/
def joinedBy (p : Page) (ws : List Window) : Page :=
  { p with containers := p.containers.map fun e =>
      (e.1, { e.2 with children := e.2.children ++ (ws.filter fun w => w.container = e.1).map Window.id }) }

@[simp] theorem joinedBy_nil (p : Page) : p.joinedBy [] = p := by
  simp [joinedBy]

theorem hasKey_joinedBy (p : Page) (ws : List Window) :
    (p.joinedBy ws).containers.hasKey = p.containers.hasKey := by
  funext k
  simp only [joinedBy, Keyed.hasKey, List.any_map]
  rfl

@[simp] theorem resolve_joinedBy (p : Page) (ws : List Window) (requested : Option String) :
    (p.joinedBy ws).resolve requested = p.resolve requested := by
  rw [resolve, resolve, hasKey_joinedBy]
  rfl

theorem attach_joinedBy (p : Page) (ws : List Window) (w : Window) :
    (p.joinedBy ws).attach w.container w.id = p.joinedBy (ws ++ [w]) := by
  simp only [attach, joinedBy, Keyed.update, List.map_map]
  congr 1
  refine List.map_congr_left fun e _ => ?_
  by_cases h : w.container = e.1
  · simp [h, List.filter_append]
  · simp [h, Ne.symm h, List.filter_append]

/-- A window that is detached leaves no trace, if the page did not list it before. -/
theorem detach_joinedBy {p : Page} {pre post : List Window} {w : Window}
    (hp : ∀ e ∈ p.containers, w.id ∉ e.2.children) (hn : ((pre ++ w :: post).map Window.id).Nodup) :
    (p.joinedBy (pre ++ w :: post)).detach w.id = p.joinedBy (pre ++ post) := by
  simp only [detach, joinedBy, List.map_map]
  congr 1
  refine List.map_congr_left fun e he => ?_
  have hown : e.2.children.filter (· ≠ w.id) = e.2.children :=
    List.filter_eq_self.2 fun id hid => decide_eq_true fun h => hp e he (h ▸ hid)
  have hjoined : (((pre ++ w :: post).filter fun v => v.container = e.1).map Window.id).filter (· ≠ w.id) =
      ((pre ++ post).filter fun v => v.container = e.1).map Window.id := by
    rw [← (Window.filter_ne hn).2, List.filter_comm, List.filter_map]
    rfl
  simp only [Function.comp_apply]
  rw [List.filter_append, hown, hjoined]

end Page

namespace Desktop

variable {b d : Desktop} {w : Window} {ws pre post : List Window}

/-- The desktop with these windows on top of all others. -/
def joinedBy (d : Desktop) (ws : List Window) : Desktop :=
  { d with
    windows := d.windows ++ Window.heaped (d.windows.length + 1) ws
    page := d.page.joinedBy ws }

@[simp] theorem joinedBy_nil (d : Desktop) : d.joinedBy [] = d := by
  simp [joinedBy, Window.heaped]

theorem ids_joinedBy (d : Desktop) (ws : List Window) : (d.joinedBy ws).ids = d.ids ++ ws.map Window.id := by
  rw [ids, joinedBy, List.map_append, Window.map_id_heaped, ids]

theorem isLive_joinedBy {id : WindowId} : (d.joinedBy ws).isLive id ↔ d.isLive id ∨ id ∈ ws.map Window.id := by
  rw [isLive_iff_mem_ids, ids_joinedBy, List.mem_append, isLive_iff_mem_ids]

theorem windows_joinedBy_append (d : Desktop) (ws : List Window) (w : Window) :
    (d.joinedBy (ws ++ [w])).windows = (d.joinedBy ws).windows ++ [{ w with z := d.windows.length + 1 + ws.length }] := by
  rw [joinedBy, Window.heaped_append, ← List.append_assoc]
  rfl

/-- Those that joined are on top, in the order in which they did. -/
theorem StackedAs.joinedBy {s : Stack} (h : d.StackedAs s) (hn : (ws.map Window.id).Nodup)
    (hnew : ∀ w ∈ ws, d.isLive w.id = false) : (d.joinedBy ws).StackedAs (s ++ ws.map Window.id) := by
  induction ws using List.reverseRecOn with
  | nil => simpa using h
  | append_singleton ws w ih =>
    rw [List.map_append, List.nodup_append] at hn
    have ih := ih hn.1 fun v hv => hnew v (List.mem_append_left _ hv)
    rw [List.map_append, ← List.append_assoc]
    refine ih.add (w := { w with z := d.windows.length + 1 + ws.length }) ?_ ?_ (windows_joinedBy_append d ws w)
    · rw [Bool.eq_false_iff]
      intro hl
      rcases isLive_joinedBy.1 hl with hl | hm
      · rw [hnew w (List.mem_append_right _ List.mem_cons_self)] at hl
        cases hl
      · exact hn.2.2 _ hm _ List.mem_cons_self rfl
    · show d.windows.length + 1 + ws.length = (d.windows ++ _).length + 1
      rw [List.length_append, Window.length_heaped]
      omega

/-! ## Strangers -/

/-- A desktop has nothing of this number. -/
structure Stranger (d : Desktop) (id : WindowId) : Prop where
  windows : ∀ v ∈ d.windows, v.id ≠ id
  children : ∀ e ∈ d.page.containers, id ∉ e.2.children
  gesture : d.gesture ≠ some id

theorem Stranger.isLive {id : WindowId} (h : d.Stranger id) : d.isLive id = false := by
  rw [Bool.eq_false_iff]
  intro hl
  obtain ⟨w, hw⟩ := exists_window hl
  exact h.windows w (mem_of_window? hw).1 (mem_of_window? hw).2

theorem Stranger.window?_joinedBy (h : b.Stranger w.id) (hn : ((pre ++ w :: post).map Window.id).Nodup) :
    (b.joinedBy (pre ++ w :: post)).window? w.id = some { w with z := b.windows.length + 1 + pre.length } := by
  have hpre : ∀ z, (Window.heaped z pre).find? (fun v => v.id = w.id) = none := by
    intro z
    refine List.find?_eq_none.2 fun v hv => ?_
    have hm : v.id ∈ pre.map Window.id := Window.map_id_heaped z pre ▸ List.mem_map_of_mem hv
    obtain ⟨u, hu, he⟩ := List.mem_map.1 hm
    simpa [← he] using (Window.filter_ne hn).1 u (List.mem_append_left _ hu)
  have hold : b.windows.find? (fun v => v.id = w.id) = none :=
    List.find?_eq_none.2 fun v hv => by simpa using h.windows v hv
  rw [window?, joinedBy, Window.heaped_append, Window.heaped]
  simp [List.find?_append, hold, hpre]

/-- A window that is changed in place and joined keeps its place. -/
theorem Stranger.change_joinedBy (h : b.Stranger w.id) (hn : ((pre ++ w :: post).map Window.id).Nodup)
    {f : Window → Window} (hz : ∀ v z, f { v with z } = { f v with z }) (hf : (f w).id = w.id)
    (hc : (f w).container = w.container) :
    (b.joinedBy (pre ++ w :: post)).change w.id f = b.joinedBy (pre ++ f w :: post) := by
  have hold : b.windows.map (fun v => if v.id = w.id then f v else v) = b.windows :=
    (List.map_congr_left fun v hv => if_neg (h.windows v hv)).trans (List.map_id' _)
  have hne : ∀ {vs : List Window}, (∀ v ∈ vs, v.id ≠ w.id) → vs.map (fun v => if v.id = w.id then f v else v) = vs :=
    fun hvs => (List.map_congr_left fun v hv => if_neg (hvs v hv)).trans (List.map_id' _)
  have hjoined : (pre ++ w :: post).map (fun v => if v.id = w.id then f v else v) = pre ++ f w :: post := by
    have hall := (Window.filter_ne hn).1
    rw [List.map_append, List.map_cons, if_pos rfl, hne fun v hv => hall v (List.mem_append_left _ hv),
      hne fun v hv => hall v (List.mem_append_right _ hv)]
  have hpage : b.page.joinedBy (pre ++ f w :: post) = b.page.joinedBy (pre ++ w :: post) := by
    simp only [Page.joinedBy, List.filter_append, List.map_append, List.filter_cons, hc]
    congr 1
    refine List.map_congr_left fun e _ => ?_
    by_cases he : w.container = e.1 <;> simp [he, hf]
  have hheaped := Window.heaped_map (f := fun v => if v.id = w.id then f v else v) (fun v z => ?_)
    (b.windows.length + 1) (pre ++ w :: post)
  · simp only [change, joinedBy, hpage]
    rw [List.map_append, hold, hheaped, hjoined]
  · by_cases hv : v.id = w.id
    · rw [if_pos hv, if_pos (show Window.id { v with z } = w.id from hv)]
      exact hz v z
    · rw [if_neg hv, if_neg (show Window.id { v with z } ≠ w.id from hv)]

/-! ## Discarding -/

/-- A window that joined and has done nothing leaves nothing but its number, and takes an
address with it that it had claimed. -/
theorem Stranger.discard_joinedBy (h : b.Stranger w.id) (hn : ((pre ++ w :: post).map Window.id).Nodup)
    (hz : ∀ v ∈ b.windows, v.z ≤ b.windows.length) (hm : w.mode.isHidden = false) (hw : w.widgets = [])
    (hl : b.lastCreated ≠ some w.id) :
    (b.joinedBy (pre ++ w :: post)).discard w.id =
      joinedBy { b with addresses := b.addresses.filter fun e => e.2 ≠ w.id } (pre ++ post) := by
  obtain ⟨hne, -⟩ := Window.filter_ne hn
  have hwindows : ((b.windows ++ Window.heaped (b.windows.length + 1) (pre ++ w :: post)).filter
      fun v : Window => v.id ≠ w.id).map (Window.sink (b.windows.length + 1 + pre.length)) =
      b.windows ++ Window.heaped (b.windows.length + 1) (pre ++ post) := by
    have hold : b.windows.filter (fun v : Window => v.id ≠ w.id) = b.windows :=
      List.filter_eq_self.2 fun v hv => decide_eq_true (h.windows v hv)
    have hsink : b.windows.map (Window.sink (b.windows.length + 1 + pre.length)) = b.windows :=
      (List.map_congr_left fun v hv => Window.sink_of_le (by have := hz v hv; omega)).trans (List.map_id' _)
    have hpre := Window.heaped_filter (p := fun v => v.id ≠ w.id) (fun _ _ => rfl) (b.windows.length + 1)
      fun v hv => decide_eq_true (hne v (List.mem_append_left _ hv))
    have hpost := Window.heaped_filter (p := fun v => v.id ≠ w.id) (fun _ _ => rfl)
      (b.windows.length + 1 + pre.length + 1) fun v hv => decide_eq_true (hne v (List.mem_append_right _ hv))
    rw [Window.heaped_append, Window.heaped, List.filter_append, List.filter_append, List.filter_cons_of_neg (by simp),
      hold, hpre, hpost, List.map_append, List.map_append, hsink, Window.heaped_sink_of_le (by omega),
      Window.heaped_sink (by omega), Window.heaped_append]
  have hlast : b.lastCreated.filter (· ≠ w.id) = b.lastCreated := by
    cases hlc : b.lastCreated with
    | none => rfl
    | some id => exact Option.filter_some_pos (decide_eq_true fun he => hl (he ▸ hlc))
  have hpage := Page.detach_joinedBy h.children hn
  rw [discard, h.window?_joinedBy hn]
  simp only [remove, joinedBy, hm, hw, h.gesture, hlast, hpage, hwindows, if_false, Bool.false_eq_true, List.map_nil,
    List.reverse_nil, List.nil_append]

/-! ## Completing -/

theorem change_change {id : WindowId} {f g : Window → Window} (hf : ∀ v, (f v).id = v.id) :
    (d.change id f).change id g = d.change id fun w => g (f w) := by
  simp only [change, List.map_map]
  congr 1
  refine List.map_congr_left fun v _ => ?_
  by_cases hv : v.id = id <;> simp [hv, hf]

theorem change_self (d : Desktop) (id : WindowId) : (d.change id fun w => w) = d := by
  simp [change]

/-- A live window is completed where its anchor puts it. -/
theorem complete_of_live {id : WindowId} (hl : d.isLive id) (spec : WindowSpec) :
    d.complete id spec =
      ({ d.change id (Window.completed d.page spec.under) with lastCreated := some id }, .ok id) := by
  have halike : Alike d (d.change id (Window.placed d.page spec.under)) none := by
    refine alike_change (fun v => ?_) fun v _ _ => ?_ <;> obtain ⟨rect, hv⟩ := Window.placed_eq d.page spec.under v <;> rw [hv]
    · exact ⟨rfl, rfl⟩
    · rfl
  have finish : ∀ d₁, d₁ = d.change id (Window.placed d.page spec.under) → ((if d₁.isLive id then
      ({ (d₁.change id fun w => { w with constructed := true }) with lastCreated := some id }, .ok id)
      else (d₁, .error (.destroyed spec.kind))) : Desktop × Created) =
      ({ d.change id (Window.completed d.page spec.under) with lastCreated := some id }, .ok id) := by
    rintro d₁ rfl
    rw [if_pos (by rw [halike.isLive]; exact hl), change_change]
    · rfl
    · intro v
      obtain ⟨rect, hv⟩ := Window.placed_eq d.page spec.under v
      rw [hv]
  unfold complete
  refine finish _ ?_
  cases spec.under with
  | none => exact (change_self d id).symm
  | some anchor =>
    cases ha : d.page.anchor? anchor with
    | none =>
      have hf : Window.placed d.page (some anchor) = fun w => w := by
        funext w
        simp [Window.placed, ha]
      simp [placeUnder, ha, hf, change_self]
    | some a =>
      have hf : Window.placed d.page (some anchor) = fun w =>
          { w with rect := { w.rect with left := a.left, top := a.bottom }.clamp d.page.viewport.width } := by
        funext w
        simp [Window.placed, ha]
      simp [placeUnder, ha, hl, hf]

theorem Stranger.complete_joinedBy (h : b.Stranger w.id) (hn : ((pre ++ w :: post).map Window.id).Nodup)
    (spec : WindowSpec) :
    (b.joinedBy (pre ++ w :: post)).complete w.id spec =
      (joinedBy { b with lastCreated := some w.id } (pre ++ w.completed b.page spec.under :: post), .ok w.id) := by
  have hl : (b.joinedBy (pre ++ w :: post)).isLive w.id := isLive_joinedBy.2 (.inr (by simp))
  obtain ⟨rect, hw⟩ := Window.placed_eq b.page spec.under w
  have hc := h.change_joinedBy hn (f := Window.completed b.page spec.under)
    (fun v z => by rw [Window.completed, Window.placed_z]; rfl) (by rw [Window.completed, hw]) (by rw [Window.completed, hw])
  rw [complete_of_live hl]
  refine Prod.ext ?_ rfl
  exact congrArg (fun d : Desktop => { d with lastCreated := some w.id }) hc

/-! ## Building -/

/-- What is left of the desktop when a window is built, without that window, and the
window or the reason why there is none. -/
def fresh (d : Desktop) (spec : WindowSpec) : Desktop × Except CreateError Window :=
  match d.page.resolve spec.parent with
  | none => (d, .error (.missingContainer spec.parent))
  | some container =>
    let (library, content) := d.library.fragment spec.kind
    let d := { d with library }
    match content with
    | none => (d, .error (.unknownTemplate spec.kind))
    | some (.error e) => (d, .error (.template spec.kind e))
    | some (.ok content) =>
      match d.newFrame spec content with
      | .error e => (d, .error e)
      | .ok f =>
        let w := d.newWindow spec container f
        ({ d with
            issued := d.issued + 1
            addresses :=
              match spec.address with
              | some address => Keyed.set address w.id d.addresses
              | none => d.addresses }, .ok w)

theorem add_joinedBy (d : Desktop) (ws : List Window) (spec : WindowSpec) (container : String) (f : Frame) :
    ((d.joinedBy ws).add spec container f).1 =
      joinedBy { d with
        issued := d.issued + 1
        addresses :=
          match spec.address with
          | some address => Keyed.set address (d.newWindow spec container f).id d.addresses
          | none => d.addresses } (ws ++ [d.newWindow spec container f]) := by
  have hz : (d.joinedBy ws).windows.length + 1 = d.windows.length + 1 + ws.length := by
    rw [joinedBy, List.length_append, Window.length_heaped]
    omega
  have hw : (d.joinedBy ws).newWindow spec container f =
      { d.newWindow spec container f with z := d.windows.length + 1 + ws.length } := by
    rw [← hz]
    rfl
  have hwindows := windows_joinedBy_append d ws (d.newWindow spec container f)
  have hpage := d.page.attach_joinedBy ws (d.newWindow spec container f)
  rw [← hw] at hwindows
  simp only [joinedBy] at hwindows ⊢
  rw [hwindows, ← hpage]
  rfl

/-- A window is built in the same way whatever windows joined before. -/
theorem instantiate_joinedBy (d : Desktop) (ws : List Window) (spec : WindowSpec) :
    (d.joinedBy ws).instantiate spec =
      match d.fresh spec with
      | (b, .error e) => (b.joinedBy ws, .error e)
      | (b, .ok w) => (b.joinedBy (ws ++ [w]), .ok w.id) := by
  unfold instantiate fresh
  rw [show (d.joinedBy ws).page.resolve spec.parent = d.page.resolve spec.parent from Page.resolve_joinedBy _ _ _]
  cases d.page.resolve spec.parent with
  | none => rfl
  | some container =>
    have hf : (d.joinedBy ws).library.fragment spec.kind = d.library.fragment spec.kind := rfl
    dsimp only
    rw [hf]
    cases d.library.fragment spec.kind with
    | mk library content =>
      rcases content with _ | _ | content
      · rfl
      · rfl
      · have hn : newFrame { d.joinedBy ws with library } spec content = newFrame { d with library } spec content := rfl
        dsimp only
        rw [hn]
        cases newFrame { d with library } spec content with
        | error e => rfl
        | ok f => exact Prod.ext (add_joinedBy { d with library } ws spec container f) rfl

/-- To build a window takes a number, if there is none that is wrong with it, and the
address that it is to have. -/
theorem fresh_cases (d : Desktop) (spec : WindowSpec) :
    (∃ library e, d.library.Alike library ∧ d.fresh spec = ({ d with library }, .error e)) ∨
      ∃ library w, d.library.Alike library ∧ w.IsNew d.issued ∧
        d.fresh spec =
          ({ d with
              library
              issued := d.issued + 1
              addresses :=
                match spec.address with
                | some address => Keyed.set address w.id d.addresses
                | none => d.addresses }, .ok w) := by
  unfold fresh
  cases d.page.resolve spec.parent with
  | none => exact .inl ⟨d.library, _, .refl _, rfl⟩
  | some container =>
    have ha := d.library.alike_fragment spec.kind
    dsimp only
    cases hf : d.library.fragment spec.kind with
    | mk library content =>
      rw [hf] at ha
      rcases content with _ | _ | content
      · exact .inl ⟨library, _, ha, rfl⟩
      · exact .inl ⟨library, _, ha, rfl⟩
      · dsimp only
        cases newFrame { d with library } spec content with
        | error e => exact .inl ⟨library, _, ha, rfl⟩
        | ok f => exact .inr ⟨library, _, ha, ⟨rfl, rfl, rfl, rfl⟩, rfl⟩

/-! ## Company -/

/-- A desktop and windows that can join it. All that is known of either has been given a
number, and the numbers of those that join are unknown to the desktop. -/
structure Company (b : Desktop) (ws : List Window) : Prop where
  heights : ∀ v ∈ b.windows, v.z ≤ b.windows.length
  unissued : ∀ id : WindowId, b.issued < id.number → b.Stranger id
  lastIssued : ∀ id, b.lastCreated = some id → id.number ≤ b.issued
  nodup : (ws.map Window.id).Nodup
  issued : ∀ w ∈ ws, w.id.number ≤ b.issued
  strangers : ∀ w ∈ ws, b.Stranger w.id
  visible : ∀ w ∈ ws, w.mode.isHidden = false
  widgets : ∀ w ∈ ws, w.widgets = []
  lastCreated : ∀ w ∈ ws, w.constructed = false → b.lastCreated ≠ some w.id

theorem Sound.company (h : d.Sound) {s : Stack} (hs : d.StackedAs s) : d.Company [] where
  heights v hv := hs.le_length hv
  unissued id hid := by
    have hold : ∀ i, d.isLive i → i ≠ id := by
      rintro i hl rfl
      obtain ⟨e, he, rfl⟩ := isLive_iff.1 hl
      exact Nat.not_le_of_lt hid (h.issued e he)
    refine ⟨fun v hv => hold v.id (isLive_of_mem hv), fun e he hm => ?_, fun hg => hold id (h.gesture id hg) rfl⟩
    rw [show e.2.children = _ from h.children (e.1, e.2.children) (List.mem_map_of_mem he)] at hm
    obtain ⟨x, hx, hid'⟩ := List.mem_map.1 hm
    exact hold id (isLive_iff.2 ⟨x, (List.mem_filter.1 hx).1, hid'⟩) rfl
  lastIssued id hid := by
    obtain ⟨e, he, rfl⟩ := isLive_iff.1 (h.lastCreated id hid)
    exact h.issued e he
  nodup := .nil
  issued := List.forall_mem_nil _
  strangers := List.forall_mem_nil _
  visible := List.forall_mem_nil _
  widgets := List.forall_mem_nil _
  lastCreated := List.forall_mem_nil _

/-- What follows a verdict that does not lead on. -/
def declined (kind : String) : Verdict → Option CreateError
  | .ok true => none
  | .ok false => some (.rejected kind)
  | .error failure => some (.hookFailed kind failure)

/-- While its window is live, the verdict of a hook decides. -/
theorem concludeHook_of_live {id : WindowId} (hl : d.isLive id) (kind : String) (v : Verdict) :
    d.concludeHook id kind v = (if (declined kind v).isSome then d.discard id else d, declined kind v) := by
  unfold concludeHook
  rw [if_neg (by simp [hl])]
  rcases v with _ | _ | _ <;> rfl

theorem Company.concludeHook (h : b.Company (pre ++ w :: post)) (hc : w.constructed = false) (kind : String)
    (v : Verdict) : (b.joinedBy (pre ++ w :: post)).concludeHook w.id kind v =
      (if (declined kind v).isSome
        then joinedBy { b with addresses := b.addresses.filter fun e => e.2 ≠ w.id } (pre ++ post)
        else b.joinedBy (pre ++ w :: post), declined kind v) := by
  have hw : w ∈ pre ++ w :: post := List.mem_append_right _ List.mem_cons_self
  rw [concludeHook_of_live (isLive_joinedBy.2 (.inr (List.mem_map_of_mem hw))),
    (h.strangers w hw).discard_joinedBy h.nodup h.heights (h.visible w hw) (h.widgets w hw) (h.lastCreated w hw hc)]

theorem Company.complete (h : b.Company (pre ++ w :: post)) (spec : WindowSpec) :
    (b.joinedBy (pre ++ w :: post)).complete w.id spec =
      (joinedBy { b with lastCreated := some w.id } (pre ++ w.completed b.page spec.under :: post), .ok w.id) :=
  (h.strangers w (List.mem_append_right _ List.mem_cons_self)).complete_joinedBy h.nodup spec

theorem Stranger.congr {id : WindowId} (h : b.Stranger id) (hw : d.windows = b.windows) (hp : d.page = b.page)
    (hg : d.gesture = b.gesture) : d.Stranger id :=
  ⟨hw ▸ h.windows, hp ▸ h.children, hg ▸ h.gesture⟩

/-- Only what names windows counts. -/
theorem Company.congr (h : b.Company ws) (hw : d.windows = b.windows) (hp : d.page = b.page)
    (hg : d.gesture = b.gesture) (hi : d.issued = b.issued) (hl : d.lastCreated = b.lastCreated) : d.Company ws where
  heights := hw ▸ h.heights
  unissued id hid := (h.unissued id (hi ▸ hid)).congr hw hp hg
  lastIssued id hid := hi ▸ h.lastIssued id (hl ▸ hid)
  nodup := h.nodup
  issued w hm := hi ▸ h.issued w hm
  strangers w hm := (h.strangers w hm).congr hw hp hg
  visible := h.visible
  widgets := h.widgets
  lastCreated w hm hc := hl ▸ h.lastCreated w hm hc

theorem Company.add (h : b.Company ws) (hw : w.IsNew b.issued) :
    Company { b with issued := b.issued + 1 } (ws ++ [w]) := by
  have all : ∀ {P : Window → Prop}, (∀ v ∈ ws, P v) → P w → ∀ v ∈ ws ++ [w], P v := fun hws hw =>
    List.forall_mem_append.2 ⟨hws, List.forall_mem_singleton.2 hw⟩
  have hnum : w.id.number = b.issued + 1 := congrArg WindowId.number hw.id
  refine ⟨h.heights, fun id hid => ?_, fun id hid => Nat.le_succ_of_le (h.lastIssued id hid), ?_,
    all (fun v hv => Nat.le_succ_of_le (h.issued v hv)) hnum.le, ?_, all h.visible hw.visible, all h.widgets hw.widgets,
    all h.lastCreated fun _ hl => ?_⟩
  · exact (h.unissued id (Nat.lt_of_succ_lt hid)).congr rfl rfl rfl
  · rw [List.map_append, List.nodup_append]
    refine ⟨h.nodup, List.nodup_singleton _, fun i hi j hj hij => ?_⟩
    obtain ⟨v, hv, rfl⟩ := List.mem_map.1 hi
    have := h.issued v hv
    rw [hij, List.mem_singleton.1 hj] at this
    omega
  · exact all (fun v hv => (h.strangers v hv).congr rfl rfl rfl) ((h.unissued w.id (by omega)).congr rfl rfl rfl)
  · have := h.lastIssued _ hl
    omega

theorem Company.drop (h : b.Company (pre ++ w :: post)) : b.Company (pre ++ post) := by
  have sub : ∀ v, v ∈ pre ++ post → v ∈ pre ++ w :: post := fun v hv => by
    rw [List.mem_append, List.mem_cons]
    exact (List.mem_append.1 hv).imp_right .inr
  refine ⟨h.heights, h.unissued, h.lastIssued, ?_, fun v hv => h.issued v (sub v hv), fun v hv => h.strangers v (sub v hv),
    fun v hv => h.visible v (sub v hv), fun v hv => h.widgets v (sub v hv), fun v hv => h.lastCreated v (sub v hv)⟩
  have hn := h.nodup
  rw [List.map_append, List.map_cons, List.nodup_middle, ← List.map_append] at hn
  exact (List.nodup_cons.1 hn).2

theorem Company.completed (h : b.Company (pre ++ w :: post)) (spec : WindowSpec) :
    Company { b with lastCreated := some w.id } (pre ++ w.completed b.page spec.under :: post) := by
  have hw : w ∈ pre ++ w :: post := List.mem_append_right _ List.mem_cons_self
  obtain ⟨rect, hplaced⟩ := Window.placed_eq b.page spec.under w
  have hcompleted : w.completed b.page spec.under = { w with rect, constructed := true } := by
    rw [Window.completed, hplaced]
  rw [hcompleted]
  -- All that counts of the window but its being constructed is as before.
  have all : ∀ {P : Window → Prop}, (∀ v ∈ pre ++ w :: post, P v) → (P w → P { w with rect, constructed := true }) →
      ∀ v ∈ pre ++ { w with rect, constructed := true } :: post, P v := by
    intro P hP hnew v hv
    rcases List.mem_append.1 hv with hv | hv
    · exact hP v (List.mem_append_left _ hv)
    · rcases List.mem_cons.1 hv with rfl | hv
      · exact hnew (hP w hw)
      · exact hP v (List.mem_append_right _ (List.mem_cons_of_mem _ hv))
  refine ⟨h.heights, fun id hid => (h.unissued id hid).congr rfl rfl rfl, fun id hid => ?_, ?_, all h.issued id,
    all (fun v hv => (h.strangers v hv).congr rfl rfl rfl) id, all h.visible id, all h.widgets id, fun v hv hc hl => ?_⟩
  · exact Option.some.inj hid ▸ h.issued w hw
  · simpa using h.nodup
  · have hne := (Window.filter_ne h.nodup).1
    rcases List.mem_append.1 hv with hv | hv
    · exact hne v (List.mem_append_left _ hv) (Option.some.inj hl).symm
    · rcases List.mem_cons.1 hv with rfl | hv
      · cases hc
      · exact hne v (List.mem_append_right _ hv) (Option.some.inj hl).symm

end Desktop

end FloatingPanels
