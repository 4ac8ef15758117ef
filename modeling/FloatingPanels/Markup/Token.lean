import FloatingPanels.Markup.Entity
import FloatingPanels.Markup.Error
import FloatingPanels.Markup.Nodes
/-!
# Tokens of markup

Markup is read as a sequence of start tags, end tags and texts. Comments and
texts without a visible character leave no token. `tokens` gives the tokens up
to the end of the text or to the first fault, with that fault.
-/

namespace FloatingPanels

inductive Token where
  /-- A start tag. A leaf has no end tag and no children. -/
  | start (tag : String) (attrs : Attrs) (leaf : Bool)
  | stop (name : String)
  | text (content : String)
  deriving DecidableEq, Repr

namespace Token

def voidTags : List String := ["br", "hr", "img", "input", "meta", "link"]

def lower (s : List Char) : String := String.ofList (s.map Char.toLower)

/-! ## Attributes -/

/-- How far the reading of an attribute has come. -/
inductive AttrState where
  | between
  | name (n : List Char)
  | named (n : String)
  | valued (n : String)
  /-- In a value that ends with the quote `q`. -/
  | quoted (q : Char) (n : String) (v : List Char)
  /-- In a value that ends with a blank. -/
  | bare (n : String) (v : List Char)

/-- The attributes with `n` set to a value as it is written in the markup. -/
def setWritten (n : String) (v : List Char) (attrs : Attrs) : Attrs :=
  Keyed.set n (String.ofList (Entity.decode v)) attrs

/-- The attributes in the rest of a start tag. A name without a value has the
empty value, and a repeated name the last value. -/
def attributes : AttrState → Attrs → List Char → Except TemplateError Attrs
  | .between, attrs, [] => .ok attrs
  | .name n, attrs, [] => .ok (Keyed.set (lower n) "" attrs)
  | .named n, attrs, [] => .ok (Keyed.set n "" attrs)
  | .valued n, attrs, [] => .ok (Keyed.set n "" attrs)
  | .quoted _ n _, _, [] => .error (.unterminatedAttr n)
  | .bare n v, attrs, [] => .ok (setWritten n v attrs)
  | .between, attrs, c :: s =>
    if isBlank c then attributes .between attrs s
    else if c = '=' then attributes (.valued "") attrs s
    else attributes (.name [c]) attrs s
  | .name n, attrs, c :: s =>
    if isBlank c then attributes (.named (lower n)) attrs s
    else if c = '=' then attributes (.valued (lower n)) attrs s
    else attributes (.name (n ++ [c])) attrs s
  | .named n, attrs, c :: s =>
    if isBlank c then attributes (.named n) attrs s
    else if c = '=' then attributes (.valued n) attrs s
    else attributes (.name [c]) (Keyed.set n "" attrs) s
  | .valued n, attrs, c :: s =>
    if isBlank c then attributes (.valued n) attrs s
    else if c = '"' || c = '\'' then attributes (.quoted c n []) attrs s
    else attributes (.bare n [c]) attrs s
  | .quoted q n v, attrs, c :: s =>
    if c = q then attributes .between (setWritten n v attrs) s
    else attributes (.quoted q n (v ++ [c])) attrs s
  | .bare n v, attrs, c :: s =>
    if isBlank c then attributes .between (setWritten n v attrs) s
    else attributes (.bare n (v ++ [c])) attrs s

/-! ## Single tokens -/

def afterComment : List Char → Option (List Char)
  | [] => none
  | '-' :: '-' :: '>' :: s => some s
  | _ :: s => afterComment s

/-- The text of a start tag and what follows it. The tag ends at the first `>`
outside quotes; `quote` is the quote that is open. -/
def tagText : Option Char → List Char → Option (List Char × List Char)
  | _, [] => none
  | some q, c :: s => (tagText (if c = q then none else some q) s).map fun (t, r) => (c :: t, r)
  | none, c :: s =>
    if c = '>' then some ([], s)
    else (tagText (if c = '"' || c = '\'' then some c else none) s).map fun (t, r) => (c :: t, r)

/-- The text of an end tag and what follows it. -/
def endText : List Char → Option (List Char × List Char)
  | [] => none
  | c :: s => if c = '>' then some ([], s) else (endText s).map fun (t, r) => (c :: t, r)

/-- A start tag from its text, of a tag that starts at the byte `position`. -/
def ofTagText (position : Nat) (text : List Char) : Except TemplateError Token := do
  let closed := text.getLast? = some '/'
  let text := trim (if closed then text.dropLast else text)
  let tag := text.takeWhile fun c => !isBlank c
  if tag.isEmpty then throw (.unterminatedTag position)
  let attrs ← attributes .between [] (text.dropWhile fun c => !isBlank c)
  return start (lower tag) attrs (closed || voidTags.contains (lower tag))

/-- A text from its written form; none if it has no visible character. -/
def ofText (written : List Char) : Option Token :=
  let s := Entity.decode written
  if s.all isBlank then none else some (text (String.ofList s))

/-- The token at the start of a text that is not empty, if there is one, and what
follows it. The text starts at the byte `position`. -/
def next (position : Nat) : List Char → Except TemplateError (Option Token × List Char)
  | '<' :: '!' :: '-' :: '-' :: s =>
    match afterComment s with
    | none => .error .unterminatedComment
    | some r => .ok (none, r)
  | '<' :: '/' :: s =>
    match endText s with
    | none => .error (.unterminatedTag position)
    -- The name of an end tag is left as it is written.
    | some (t, r) => .ok (some (stop (String.ofList (trim t))), r)
  | '<' :: s =>
    match tagText none s with
    | none => .error (.unterminatedTag position)
    | some (t, r) => (ofTagText position t).map fun token => (some token, r)
  | s => .ok (ofText (s.takeWhile (· ≠ '<')), s.dropWhile (· ≠ '<'))

/-! ## Each token shortens the text -/

theorem length_afterComment {s r : List Char} (h : afterComment s = some r) :
    r.length ≤ s.length := by
  fun_induction afterComment s with
  | case1 => simp at h
  | case2 s => simp only [Option.some.injEq] at h; subst h; simp; omega
  | case3 c s _ ih => have := ih h; simp; omega

theorem length_endText {s t r : List Char} (h : endText s = some (t, r)) : r.length ≤ s.length := by
  induction s generalizing t with
  | nil => simp [endText] at h
  | cons c s ih =>
    unfold endText at h
    split at h
    · simp only [Option.some.injEq, Prod.mk.injEq] at h; simp [← h.2]
    · simp only [Option.map_eq_some_iff, Prod.mk.injEq, Prod.exists] at h
      obtain ⟨t', r', h', -, rfl⟩ := h
      have := ih h'; simp; omega

theorem length_tagText {q : Option Char} {s t r : List Char} (h : tagText q s = some (t, r)) :
    r.length ≤ s.length := by
  induction s generalizing q t with
  | nil => cases q <;> simp [tagText] at h
  | cons c s ih =>
    cases q with
    | some q =>
      simp only [tagText, Option.map_eq_some_iff, Prod.mk.injEq, Prod.exists] at h
      obtain ⟨t', r', h', -, rfl⟩ := h
      have := ih h'; simp; omega
    | none =>
      unfold tagText at h
      split at h
      · simp only [Option.some.injEq, Prod.mk.injEq] at h; simp [← h.2]
      · simp only [Option.map_eq_some_iff, Prod.mk.injEq, Prod.exists] at h
        obtain ⟨t', r', h', -, rfl⟩ := h
        have := ih h'; simp; omega

theorem length_next {position : Nat} {c : Char} {s r : List Char} {t : Option Token}
    (h : next position (c :: s) = .ok (t, r)) : r.length < (c :: s).length := by
  unfold next at h
  split at h
  · split at h
    · cases h
    · rename_i heq _ r' hr
      cases heq
      have := length_afterComment hr
      simp only [Except.ok.injEq, Prod.mk.injEq] at h
      rw [← h.2]; simp; omega
  · split at h
    · cases h
    · rename_i heq _ t' r' hr
      cases heq
      have := length_endText hr
      simp only [Except.ok.injEq, Prod.mk.injEq] at h
      rw [← h.2]; simp; omega
  · split at h
    · cases h
    · rename_i heq _ t' r' hr
      cases heq
      have := length_tagText hr
      cases hb : ofTagText position t' with
      | error e => rw [hb] at h; cases h
      | ok token => rw [hb] at h; cases h; simp; omega
  · rename_i hc
    simp only [Except.ok.injEq, Prod.mk.injEq] at h
    rw [← h.2]
    have hne : c ≠ '<' := fun hc' => hc _ (by rw [hc'])
    have : (s.dropWhile (· ≠ '<')).length ≤ s.length := (List.dropWhile_suffix _).length_le
    simp [hne] at this ⊢; omega

/-! ## All tokens -/

def byteLength (s : List Char) : Nat := s.foldr (fun c n => c.utf8Size + n) 0

/-- The tokens of the rest `s` of a source of `total` bytes, and the fault that
ends them. -/
def rest (total : Nat) : List Char → List Token × Option TemplateError
  | [] => ([], none)
  | c :: s =>
    match _h : next (total - byteLength (c :: s)) (c :: s) with
    | .error e => ([], some e)
    | .ok (t, r) => (t.toList ++ (rest total r).1, (rest total r).2)
termination_by s => s.length
decreasing_by all_goals exact length_next _h

/-- The tokens of a source, and the fault that ends them. -/
def tokens (source : String) : List Token × Option TemplateError :=
  rest (byteLength source.toList) source.toList

end Token

end FloatingPanels
