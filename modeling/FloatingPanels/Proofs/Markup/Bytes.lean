import FloatingPanels.Markup.Token
import Mathlib.Data.List.Basic
/-!
# Bytes of a text

A text can be cut at a byte between two of its characters, and what occurs in it can be
named by the byte where it starts. What a reader of characters finds, the end of a comment,
of a tag or of a text, is found by its byte, and a cut there is always between two characters.
-/

namespace FloatingPanels

namespace Token

theorem byteLength_cons (c : Char) (s : List Char) : byteLength (c :: s) = c.utf8Size + byteLength s := rfl

theorem byteLength_append (s t : List Char) : byteLength (s ++ t) = byteLength s + byteLength t := by
  induction s with
  | nil => exact (Nat.zero_add _).symm
  | cons c s ih => rw [List.cons_append, byteLength_cons, ih, byteLength_cons, Nat.add_assoc]

theorem byteLength_pos {s : List Char} (h : s ≠ []) : 0 < byteLength s := by
  obtain ⟨c, t, rfl⟩ := List.exists_cons_of_ne_nil h
  have := c.utf8Size_pos
  rw [byteLength_cons]
  omega

theorem utf8ByteSize_ofList (s : List Char) : (String.ofList s).utf8ByteSize = byteLength s := by
  induction s with
  | nil => rfl
  | cons c s ih =>
    rw [String.ofList_cons, String.utf8ByteSize_append, String.utf8ByteSize_singleton, ih, byteLength_cons]

end Token

open Token

/-! ## Cuts -/

/-- A text cut at a byte, if that is between two of its characters or at an end. -/
def cutAt : Nat → List Char → Option (List Char × List Char)
  | 0, s => some ([], s)
  | _ + 1, [] => none
  | n + 1, c :: s =>
    if c.utf8Size ≤ n + 1 then (cutAt (n + 1 - c.utf8Size) s).map fun (a, b) => (c :: a, b) else none

theorem cutAt_append (a b : List Char) : cutAt (byteLength a) (a ++ b) = some (a, b) := by
  induction a with
  | nil => cases b <;> rfl
  | cons c a ih =>
    obtain ⟨n, hn⟩ := Nat.exists_eq_add_of_lt (byteLength_pos (List.cons_ne_nil c a))
    rw [Nat.zero_add] at hn
    have hle : c.utf8Size ≤ n + 1 := by rw [← hn, byteLength_cons]; omega
    have hrest : n + 1 - c.utf8Size = byteLength a := by rw [← hn, byteLength_cons]; omega
    rw [hn, List.cons_append, cutAt, if_pos hle, hrest, ih]
    rfl

/-! ## What is found -/

/-- The byte at which a text occurs first. -/
def findText (pattern : List Char) : List Char → Option Nat
  | [] => none
  | c :: s => if pattern <+: c :: s then some 0 else (findText pattern s).map (c.utf8Size + ·)

/-- The byte of the first `>` outside of quotes; `quote` is the quote that is open. -/
def findTagEnd : Option Char → List Char → Option Nat
  | _, [] => none
  | some q, c :: s => (findTagEnd (if c = q then none else some q) s).map (c.utf8Size + ·)
  | none, c :: s =>
    if c = '>' then some 0
    else (findTagEnd (if c = '"' || c = '\'' then some c else none) s).map (c.utf8Size + ·)

section

variable {s t r : List Char}

theorem findText_cons {pattern : List Char} {c : Char} (h : ¬ pattern <+: c :: s) :
    findText pattern (c :: s) = (findText pattern s).map (c.utf8Size + ·) := by
  rw [findText, if_neg h]

theorem findText_comment (h : afterComment s = none) : findText "-->".toList s = none := by
  fun_induction afterComment s with
  | case1 => rfl
  | case2 s => cases h
  | case3 c s hne ih =>
    rw [findText_cons, ih h]
    · rfl
    · rintro ⟨r, hr⟩
      exact hne r (List.cons.inj hr).1.symm (List.cons.inj hr).2.symm

theorem exists_of_afterComment (h : afterComment s = some r) :
    ∃ t, s = t ++ "-->".toList ++ r ∧ findText "-->".toList s = some (byteLength t) := by
  fun_induction afterComment s with
  | case1 => cases h
  | case2 s =>
    cases h
    exact ⟨[], rfl, rfl⟩
  | case3 c s hne ih =>
    obtain ⟨t, rfl, hfind⟩ := ih h
    refine ⟨c :: t, rfl, ?_⟩
    rw [findText_cons, hfind]
    · rfl
    · rintro ⟨r, hr⟩
      exact hne r (List.cons.inj hr).1.symm (List.cons.inj hr).2.symm

theorem findText_endText (s : List Char) :
    findText ">".toList s = (endText s).map fun p => byteLength p.1 := by
  induction s with
  | nil => rfl
  | cons c s ih =>
    rw [endText]
    by_cases hc : c = '>'
    · rw [if_pos hc, hc]
      rfl
    · rw [if_neg hc, findText_cons, ih]
      · cases endText s <;> rfl
      · simpa using Ne.symm hc

theorem eq_of_endText (h : endText s = some (t, r)) : s = t ++ '>' :: r := by
  induction s generalizing t with
  | nil => cases h
  | cons c s ih =>
    rw [endText] at h
    split at h
    · rename_i hc
      cases h
      rw [hc, List.nil_append]
    · obtain ⟨⟨t', r'⟩, hrest, heq⟩ := Option.map_eq_some_iff.1 h
      cases heq
      rw [ih hrest, List.cons_append]

theorem findTagEnd_tagText (q : Option Char) (s : List Char) :
    findTagEnd q s = (tagText q s).map fun p => byteLength p.1 := by
  induction s generalizing q with
  | nil => cases q <;> rfl
  | cons c s ih =>
    cases q with
    | some q =>
      rw [findTagEnd, tagText, ih]
      cases tagText (if c = q then none else some q) s <;> rfl
    | none =>
      rw [findTagEnd, tagText, ih]
      split
      · rfl
      · cases tagText (if (c = '"' || c = '\'') = true then some c else none) s <;> rfl

theorem eq_of_tagText {q : Option Char} (h : tagText q s = some (t, r)) : s = t ++ '>' :: r := by
  induction s generalizing q t with
  | nil => cases q <;> cases h
  | cons c s ih =>
    cases q with
    | some q =>
      rw [tagText] at h
      obtain ⟨⟨t', r'⟩, hrest, heq⟩ := Option.map_eq_some_iff.1 h
      cases heq
      rw [ih hrest, List.cons_append]
    | none =>
      rw [tagText] at h
      split at h
      · rename_i hc
        cases h
        rw [hc, List.nil_append]
      · obtain ⟨⟨t', r'⟩, hrest, heq⟩ := Option.map_eq_some_iff.1 h
        cases heq
        rw [ih hrest, List.cons_append]

theorem findText_text (s : List Char) :
    (findText "<".toList s).getD (byteLength s) = byteLength (s.takeWhile (· ≠ '<')) := by
  induction s with
  | nil => rfl
  | cons c s ih =>
    by_cases hc : c = '<'
    · rw [hc]
      rfl
    · rw [findText_cons, List.takeWhile_cons_of_pos (by simpa using hc), byteLength_cons, byteLength_cons, ← ih]
      · cases findText "<".toList s <;> rfl
      · simpa using Ne.symm hc

end

end FloatingPanels
