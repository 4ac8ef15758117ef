import FloatingPanels.Markup.Token
import Mathlib.Data.List.TakeWhile
/-!
# Attributes one by one

The rest of a start tag is read character by character. `readAttributes_eq` says that this
is to read one attribute after the other, each with a name up to the next blank or equals
sign and a value in quotes or up to the next blank. Such a loop ends since every attribute
has a character.
-/

namespace FloatingPanels

/-! ## Blanks around a text -/

theorem length_trimStart (s : List Char) : (trimStart s).length ≤ s.length := (List.dropWhile_suffix _).length_le

theorem not_blank_of_trimStart {c : Char} {s t : List Char} (h : trimStart s = c :: t) : ¬ isBlank c := by
  have := List.head?_dropWhile_not isBlank s
  rw [trimStart] at h
  simpa [h] using this

/-- The trimmed text has no first word just if there is no word at all. -/
theorem all_isBlank_of_trim {s : List Char} (h : (trim s).takeWhile (fun c => !isBlank c) = []) : s.all isBlank := by
  cases hw : trimStart s with
  | nil => simpa [trimStart] using hw
  | cons d w =>
    have hd : isBlank d = false := Bool.eq_false_iff.2 (not_blank_of_trimStart hw)
    -- The first character that is not blank stays the first one.
    have htrim : ∃ u, trim s = d :: u := by
      rw [trim, hw, List.reverse_cons, trimStart, List.dropWhile_append]
      split <;> simp [hd]
    obtain ⟨u, hu⟩ := htrim
    simp [hu, hd] at h

namespace Token

/-! ## One attribute -/

def endsName (c : Char) : Bool := isBlank c || c = '='

/-- The value that starts a text, as it is written, and what follows it. -/
def writtenValue (name : String) : List Char → Except TemplateError (List Char × List Char)
  | [] => .ok ([], [])
  | c :: s =>
    if c = '"' || c = '\'' then
      match s.dropWhile (· ≠ c) with
      | [] => .error (.unterminatedAttr name)
      | _ :: r => .ok (s.takeWhile (· ≠ c), r)
    else .ok ((c :: s).takeWhile fun d => !isBlank d, (c :: s).dropWhile fun d => !isBlank d)

/-- An attribute, with its value as it is written, from what is behind its name; and what
follows it. -/
def namedAttribute (name : String) : List Char → Except TemplateError (String × List Char × List Char)
  | '=' :: s => (writtenValue name (trimStart s)).map fun (v, r) => (name, v, r)
  | r => .ok (name, [], r)

/-- The first attribute in the rest of a start tag, and what follows it. -/
def firstAttribute (s : List Char) : Except TemplateError (Option (String × List Char × List Char)) :=
  let s := trimStart s
  if s.isEmpty then .ok none
  else
    let name := lower (s.takeWhile fun c => !endsName c)
    (namedAttribute name (trimStart (s.dropWhile fun c => !endsName c))).map some

/-! ## The states of a reader -/

section

variable {attrs : Attrs} {n : String}

attribute [local simp] attributes

theorem attributes_trimStart (s : List Char) :
    attributes .between attrs (trimStart s) = attributes .between attrs s := by
  induction s with
  | nil => rfl
  | cons c s ih =>
    by_cases hc : isBlank c
    · rw [attributes, if_pos hc, ← ih, trimStart, List.dropWhile_cons_of_pos hc, trimStart]
    · rw [trimStart, List.dropWhile_cons_of_neg hc]

theorem attributes_name (w s : List Char) :
    attributes (.name w) attrs s =
      attributes (.named (lower (w ++ s.takeWhile fun c => !endsName c))) attrs
        (s.dropWhile fun c => !endsName c) := by
  induction s generalizing w with
  | nil => simp
  | cons c s ih =>
    by_cases hblank : isBlank c
    · simp [endsName, hblank]
    · by_cases hequals : c = '='
      · simp [endsName, hequals]
      · rw [attributes, if_neg hblank, if_neg hequals, ih]
        simp [endsName, hblank, hequals]

theorem attributes_named (s : List Char) :
    attributes (.named n) attrs s =
      match trimStart s with
      | '=' :: s => attributes (.valued n) attrs s
      | s => attributes .between (setWritten n [] attrs) s := by
  induction s with
  | nil => rfl
  | cons c s ih =>
    by_cases hblank : isBlank c
    · rw [attributes, if_pos hblank, ih, trimStart, trimStart, List.dropWhile_cons_of_pos hblank]
    · rw [trimStart, List.dropWhile_cons_of_neg hblank]
      by_cases hequals : c = '='
      · subst hequals
        rw [attributes, if_neg hblank, if_pos rfl]
        rfl
      · rw [attributes, if_neg hblank, if_neg hequals]
        split
        · rename_i heq
          exact absurd (List.cons.inj heq).1 hequals
        · rw [attributes, if_neg hblank, if_neg hequals]
          rfl

theorem attributes_bare (v s : List Char) :
    attributes (.bare n v) attrs s =
      attributes .between (setWritten n (v ++ s.takeWhile fun c => !isBlank c) attrs)
        (s.dropWhile fun c => !isBlank c) := by
  induction s generalizing v with
  | nil => simp
  | cons c s ih =>
    by_cases hblank : isBlank c
    · simp [hblank]
    · rw [attributes, if_neg hblank, ih]
      simp [hblank]

theorem attributes_quoted (q : Char) (v s : List Char) :
    attributes (.quoted q n v) attrs s =
      match s.dropWhile (· ≠ q) with
      | [] => .error (.unterminatedAttr n)
      | _ :: r => attributes .between (setWritten n (v ++ s.takeWhile (· ≠ q)) attrs) r := by
  induction s generalizing v with
  | nil => simp
  | cons c s ih =>
    by_cases hc : c = q
    · simp [hc]
    · rw [attributes, if_neg hc, ih]
      simp [hc]

theorem attributes_valued (s : List Char) :
    attributes (.valued n) attrs s =
      match writtenValue n (trimStart s) with
      | .error e => .error e
      | .ok (v, r) => attributes .between (setWritten n v attrs) r := by
  induction s with
  | nil => rfl
  | cons c s ih =>
    by_cases hblank : isBlank c
    · rw [attributes, if_pos hblank, ih, trimStart, trimStart, List.dropWhile_cons_of_pos hblank]
    · rw [trimStart, List.dropWhile_cons_of_neg hblank, attributes, if_neg hblank, writtenValue]
      by_cases hquote : (c = '"' || c = '\'') = true
      · rw [if_pos hquote, if_pos hquote, attributes_quoted]
        cases s.dropWhile (· ≠ c) <;> rfl
      · rw [if_neg hquote, if_neg hquote, attributes_bare]
        simp [hblank]

theorem attributes_word {c : Char} (hblank : ¬ isBlank c) (s : List Char) :
    attributes .between attrs (c :: s) =
      attributes (.named (lower ((c :: s).takeWhile fun c => !endsName c))) attrs
        ((c :: s).dropWhile fun c => !endsName c) := by
  rw [attributes, if_neg hblank]
  by_cases hequals : c = '='
  · subst hequals
    rfl
  · rw [if_neg hequals, attributes_name]
    simp [endsName, hblank, hequals]

end

/-! ## One attribute after the other -/

theorem attributes_between (attrs : Attrs) (s : List Char) :
    attributes .between attrs s =
      match firstAttribute s with
      | .error e => .error e
      | .ok none => .ok attrs
      | .ok (some (n, v, r)) => attributes .between (setWritten n v attrs) r := by
  rw [← attributes_trimStart, firstAttribute]
  cases hs : trimStart s with
  | nil => rfl
  | cons c t =>
    rw [attributes_word (not_blank_of_trimStart hs), attributes_named]
    generalize lower ((c :: t).takeWhile fun c => !endsName c) = name
    generalize trimStart ((c :: t).dropWhile fun c => !endsName c) = u
    dsimp only [List.isEmpty_cons]
    rw [if_neg Bool.false_ne_true, namedAttribute.eq_def]
    split
    · rw [attributes_valued]
      cases writtenValue name (trimStart _) <;> rfl
    · rfl

theorem length_writtenValue {n : String} {s v r : List Char} (h : writtenValue n s = .ok (v, r)) :
    r.length ≤ s.length := by
  cases s with
  | nil =>
    cases h
    exact Nat.le_refl _
  | cons c s =>
    rw [writtenValue] at h
    split at h
    · split at h
      · cases h
      · rename_i hrest
        cases h
        have := (List.dropWhile_suffix (l := s) (fun d => decide (d ≠ c))).length_le
        rw [hrest] at this
        simp only [List.length_cons] at this ⊢
        omega
    · cases h
      exact (List.dropWhile_suffix _).length_le

theorem length_namedAttribute {name n : String} {s v r : List Char} (h : namedAttribute name s = .ok (n, v, r)) :
    r.length ≤ s.length ∧ (s.head? = some '=' → r.length < s.length) := by
  fun_cases namedAttribute name s with
  | case1 s =>
    rw [namedAttribute] at h
    cases hvalue : writtenValue name (trimStart s) with
    | error e => rw [hvalue] at h; cases h
    | ok p =>
      rw [hvalue] at h
      cases h
      have := Nat.le_trans (length_writtenValue hvalue) (length_trimStart s)
      simp only [List.length_cons]
      omega
  | case2 s hne =>
    rw [namedAttribute] at h
    · cases h
      refine ⟨Nat.le_refl _, fun hhead => ?_⟩
      obtain ⟨t, rfl⟩ := List.head?_eq_some_iff.1 hhead
      exact absurd rfl (hne t)
    · exact hne

/-- An attribute has at least one character, if only the equals sign. -/
theorem length_firstAttribute {n : String} {s v r : List Char} (h : firstAttribute s = .ok (some (n, v, r))) :
    r.length < s.length := by
  refine Nat.lt_of_lt_of_le ?_ (length_trimStart s)
  rw [firstAttribute] at h
  cases hs : trimStart s with
  | nil => simp [hs] at h
  | cons c t =>
    simp only [hs, List.isEmpty_cons, Bool.false_eq_true, if_false] at h
    cases hnamed : namedAttribute (lower ((c :: t).takeWhile fun c => !endsName c))
      (trimStart ((c :: t).dropWhile fun c => !endsName c)) with
    | error e => rw [hnamed] at h; cases h
    | ok p =>
      rw [hnamed] at h
      cases h
      obtain ⟨hle, hlt⟩ := length_namedAttribute hnamed
      by_cases hequals : c = '='
      · subst hequals
        exact hlt rfl
      · have hdrop : (c :: t).dropWhile (fun c => !endsName c) = t.dropWhile fun c => !endsName c := by
          simp [endsName, hequals, not_blank_of_trimStart hs]
        rw [hdrop] at hle
        calc r.length
          _ ≤ (trimStart (t.dropWhile fun c => !endsName c)).length := hle
          _ ≤ t.length := Nat.le_trans (length_trimStart _) (List.dropWhile_suffix _).length_le
          _ < (c :: t).length := Nat.lt_succ_self _

/-- The attributes in the rest of a start tag, one after the other. -/
def readAttributes (attrs : Attrs) (s : List Char) : Except TemplateError Attrs :=
  match _h : firstAttribute s with
  | .error e => .error e
  | .ok none => .ok attrs
  | .ok (some (n, v, r)) => readAttributes (setWritten n v attrs) r
termination_by s.length
decreasing_by exact length_firstAttribute _h

theorem readAttributes_eq (attrs : Attrs) (s : List Char) :
    readAttributes attrs s = attributes .between attrs s := by
  fun_induction readAttributes attrs s with
  | case1 attrs s e h => rw [attributes_between, h]
  | case2 attrs s h => rw [attributes_between, h]
  | case3 attrs s n v r h ih => rw [attributes_between attrs s, h, ih]

end Token

end FloatingPanels
