import FloatingPanels.Keyed
import Mathlib.Data.List.Nodup
/-!
# Laws of keyed lists

What setting, changing and removing a key does to the value of every key, and to
the list of the keys. With distinct keys, the entries of a list are exactly its
values.
-/

namespace FloatingPanels.Keyed

variable {κ α : Type} [DecidableEq κ]

omit [DecidableEq κ] in
theorem keys_cons (e : κ × α) (l : Keyed κ α) : keys (e :: l) = e.1 :: keys l := rfl

/-! ## Values -/

@[simp] theorem value?_nil (j : κ) : value? ([] : Keyed κ α) j = none := rfl

theorem value?_cons (e : κ × α) (l : Keyed κ α) (j : κ) :
    value? (e :: l) j = if e.1 = j then some e.2 else value? l j := by
  by_cases h : e.1 = j <;> simp [value?, h]

theorem value?_set (l : Keyed κ α) (k j : κ) (a : α) :
    value? (set k a l) j = if k = j then some a else value? l j := by
  induction l with
  | nil => simp [set, value?_cons]
  | cons e l ih =>
    by_cases he : e.1 = k
    · by_cases hj : k = j <;> simp [set, value?_cons, he, hj]
    · rw [set, if_neg he, value?_cons, value?_cons, ih]
      by_cases hj : e.1 = j
      · have hk : k ≠ j := fun h => he (hj.trans h.symm)
        rw [if_pos hj, if_pos hj, if_neg hk]
      · rw [if_neg hj, if_neg hj]

/-- A filter on keys keeps the values of the keys that pass. -/
theorem value?_filter (l : Keyed κ α) (p : κ → Bool) (j : κ) :
    value? (l.filter fun e => p e.1) j = if p j then value? l j else none := by
  induction l with
  | nil => simp
  | cons e l ih =>
    rw [List.filter_cons]
    by_cases hp : p e.1
    · rw [if_pos hp, value?_cons, value?_cons, ih]
      by_cases hj : e.1 = j
      · subst hj; simp [hp]
      · simp [hj]
    · rw [if_neg hp, value?_cons, ih]
      by_cases hj : e.1 = j
      · subst hj; simp [hp]
      · simp [hj]

theorem value?_remove (l : Keyed κ α) (k j : κ) :
    value? (remove k l) j = if k = j then none else value? l j := by
  have h := value?_filter l (fun i => decide (i ≠ k)) j
  simp only [decide_eq_true_eq, ne_eq] at h
  rw [remove, h]
  by_cases hk : k = j <;> simp [hk, eq_comm]

theorem mem_of_value? {l : Keyed κ α} {k : κ} {a : α} (h : value? l k = some a) : (k, a) ∈ l := by
  obtain ⟨e, he, rfl⟩ := Option.map_eq_some_iff.1 h
  have hk : e.1 = k := by simpa using List.find?_some he
  subst hk
  exact List.mem_of_find?_eq_some he

/-- With distinct keys, every entry is the value of its key. -/
theorem value?_of_mem {l : Keyed κ α} (hn : (keys l).Nodup) {k : κ} {a : α} (h : (k, a) ∈ l) :
    value? l k = some a := by
  induction l with
  | nil => cases h
  | cons e l ih =>
    rw [keys_cons, List.nodup_cons] at hn
    rw [value?_cons]
    rcases List.mem_cons.1 h with rfl | h
    · simp
    · have hne : e.1 ≠ k := fun he => hn.1 (List.mem_map.2 ⟨_, h, he.symm⟩)
      rw [if_neg hne]
      exact ih hn.2 h

/-- Keys are distinct, so a filter on values keeps or drops the value of a key. -/
theorem value?_filter_value {l : Keyed κ α} (hn : (keys l).Nodup) (p : α → Bool) (k : κ) :
    value? (l.filter fun e => p e.2) k = (value? l k).filter p := by
  refine Option.ext fun a => ?_
  rw [Option.filter_eq_some_iff]
  constructor
  · intro h
    obtain ⟨hm, hp⟩ := List.mem_filter.1 (mem_of_value? h)
    exact ⟨value?_of_mem hn hm, hp⟩
  · rintro ⟨h, hp⟩
    exact value?_of_mem (hn.sublist (List.filter_sublist.map _)) (List.mem_filter.2 ⟨mem_of_value? h, hp⟩)

theorem value?_isSome (l : Keyed κ α) (k : κ) : (value? l k).isSome = hasKey l k := by
  induction l with
  | nil => rfl
  | cons e l ih =>
    rw [value?_cons]
    by_cases h : e.1 = k
    · simp [hasKey, h]
    · simpa [hasKey, h] using ih

/-! ## Keys -/

theorem hasKey_iff (l : Keyed κ α) (k : κ) : hasKey l k = true ↔ k ∈ keys l := by
  simp [hasKey, keys]

@[simp] theorem keys_remove (k : κ) (l : Keyed κ α) : keys (remove k l) = (keys l).filter (· ≠ k) := by
  simp only [keys, remove, List.filter_map]
  rfl

theorem keys_set (k : κ) (a : α) (l : Keyed κ α) :
    keys (set k a l) = if k ∈ keys l then keys l else keys l ++ [k] := by
  induction l with
  | nil => simp [set, keys]
  | cons e l ih =>
    by_cases he : e.1 = k
    · simp [set, keys_cons, he]
    · rw [set, if_neg he, keys_cons, keys_cons, ih]
      by_cases hk : k ∈ keys l
      · simp [hk]
      · simp [hk, Ne.symm he]

theorem nodup_keys_set {k : κ} {a : α} {l : Keyed κ α} (hn : (keys l).Nodup) : (keys (set k a l)).Nodup := by
  rw [keys_set]
  split
  · exact hn
  · rename_i hk
    exact List.nodup_append.2 ⟨hn, by simp, fun x hx y hy => by
      rintro rfl; exact hk (List.mem_singleton.1 hy ▸ hx)⟩

theorem set_of_not_mem {k : κ} {l : Keyed κ α} (h : k ∉ keys l) (a : α) : set k a l = l ++ [(k, a)] := by
  induction l with
  | nil => rfl
  | cons e l ih =>
    rw [keys_cons, List.mem_cons, not_or] at h
    rw [set, if_neg (Ne.symm h.1), ih h.2, List.cons_append]

/-- Entries with distinct keys that are set one after the other stand in that order. -/
theorem foldl_set {l m : Keyed κ α} (hn : (keys (l ++ m)).Nodup) :
    m.foldl (fun l e => set e.1 e.2 l) l = l ++ m := by
  induction m generalizing l with
  | nil => simp
  | cons e m ih =>
    have hkey : e.1 ∉ keys l := by
      simp only [keys, List.map_append, List.map_cons, List.nodup_append] at hn
      exact fun h => hn.2.2 e.1 h e.1 List.mem_cons_self rfl
    have happ : l ++ [e] ++ m = l ++ e :: m := by simp
    rw [List.foldl_cons, set_of_not_mem hkey]
    exact (ih (happ ▸ hn)).trans happ

omit [DecidableEq κ] in
theorem nodup_keys_filter {l : Keyed κ α} (hn : (keys l).Nodup) (p : κ × α → Bool) :
    (keys (l.filter p)).Nodup :=
  hn.sublist (List.filter_sublist.map _)

/-! ## A key that is removed -/

theorem remove_set (k : κ) (a : α) (l : Keyed κ α) : remove k (set k a l) = remove k l := by
  induction l with
  | nil => simp [set, remove]
  | cons e l ih =>
    by_cases he : e.1 = k
    · simp [set, remove, he]
    · simp only [remove] at ih ⊢
      rw [set, if_neg he, List.filter_cons, List.filter_cons, ih]

theorem remove_remove (k : κ) (l : Keyed κ α) : remove k (remove k l) = remove k l := by
  rw [remove, remove, List.filter_filter]
  simp only [Bool.and_self]

/-! ## Entries -/

/-- An entry after a key was set: the new one, or an old one of another key. -/
theorem mem_set {k : κ} {a : α} {l : Keyed κ α} (hn : (keys l).Nodup) {e : κ × α} (h : e ∈ set k a l) :
    e = (k, a) ∨ e ∈ l ∧ e.1 ≠ k := by
  by_cases hk : e.1 = k
  · left
    have hv := value?_of_mem (nodup_keys_set hn) (show (e.1, e.2) ∈ set k a l from h)
    rw [value?_set, if_pos hk.symm] at hv
    exact Prod.ext hk (Option.some.inj hv).symm
  · refine .inr ⟨?_, hk⟩
    have hv := value?_of_mem (nodup_keys_set hn) (show (e.1, e.2) ∈ set k a l from h)
    rw [value?_set, if_neg (Ne.symm hk)] at hv
    exact mem_of_value? hv

end FloatingPanels.Keyed
