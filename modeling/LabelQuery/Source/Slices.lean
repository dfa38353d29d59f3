/-
Slices of a text. Here a place is a number of bytes that stand before it. Such a number
may fall inside a character or behind the end of the text; then there is no such place,
and no slice that starts or stops there.
-/

import LabelQuery.Source.Place

namespace LabelQuery.Source

/-- The text in front of the place behind `n` bytes and the text from there on. There is
no such place inside a character, nor behind the end of the text. -/
def cutAt? : (text : List Char) → (n : Nat) → Option (List Char × List Char)
  | text, 0 => some ([], text)
  | [], _ + 1 => none
  | c :: text, n + 1 =>
    if c.utf8Size ≤ n + 1 then
      (cutAt? text (n + 1 - c.utf8Size)).map fun cut => (c :: cut.1, cut.2)
    else none

/-- The text from the place behind `start` bytes on. -/
def sliceFrom? (text : List Char) (start : Nat) : Option (List Char) :=
  (cutAt? text start).map Prod.snd

/-- The text between the places behind `start` and behind `stop` bytes. -/
def slice? (text : List Char) (start stop : Nat) : Option (List Char) :=
  if start ≤ stop then
    (cutAt? text start).bind fun cut => (cutAt? cut.2 (stop - start)).map Prod.fst
  else none

theorem cutAt?_append (before rest : List Char) :
    cutAt? (before ++ rest) (byteLength before) = some (before, rest) := by
  induction before with
  | nil => simp [cutAt?]
  | cons c before ih =>
    have hc := c.utf8Size_pos
    obtain ⟨n, hn⟩ : ∃ n, byteLength (c :: before) = n + 1 :=
      ⟨byteLength (c :: before) - 1, by rw [byteLength_cons]; omega⟩
    have hrest : n + 1 - c.utf8Size = byteLength before := by
      rw [← hn, byteLength_cons, Nat.add_sub_cancel_left]
    rw [List.cons_append, hn, cutAt?, hrest, ih, if_pos]
    · rfl
    · rw [← hn, byteLength_cons]
      omega

theorem cutAt?_eq_some_iff {text before rest : List Char} {n : Nat} :
    cutAt? text n = some (before, rest) ↔ text = before ++ rest ∧ n = byteLength before := by
  constructor
  · intro h
    fun_induction cutAt? text n generalizing before rest with
    | case1 text => simp_all
    | case2 => simp at h
    | case3 c text n hle ih =>
      obtain ⟨cut, hcut, heq⟩ := Option.map_eq_some_iff.mp h
      obtain ⟨rfl, rfl⟩ := Prod.mk.inj heq
      obtain ⟨rfl, hn⟩ := ih hcut
      refine ⟨rfl, ?_⟩
      rw [byteLength_cons]
      omega
    | case4 => simp at h
  · rintro ⟨rfl, rfl⟩
    exact cutAt?_append before rest

theorem sliceFrom?_eq_some_iff {text rest : List Char} {start : Nat} :
    sliceFrom? text start = some rest ↔
      ∃ before, text = before ++ rest ∧ start = byteLength before := by
  simp [sliceFrom?, cutAt?_eq_some_iff]

/-- A slice is what stands between two places of the text. -/
theorem slice?_eq_some_iff {text piece : List Char} {start stop : Nat} :
    slice? text start stop = some piece ↔
      ∃ before after, text = before ++ (piece ++ after) ∧ start = byteLength before ∧
        stop = byteLength (before ++ piece) := by
  unfold slice?
  constructor
  · intro h
    split at h
    · rename_i hle
      obtain ⟨⟨before, rest⟩, hcut, hpiece⟩ := Option.bind_eq_some_iff.mp h
      obtain ⟨⟨piece, after⟩, hcut', rfl⟩ := Option.map_eq_some_iff.mp hpiece
      obtain ⟨rfl, rfl⟩ := cutAt?_eq_some_iff.mp hcut
      obtain ⟨rfl, hstop⟩ := cutAt?_eq_some_iff.mp hcut'
      refine ⟨before, after, rfl, rfl, ?_⟩
      rw [byteLength_append, ← hstop, Nat.add_sub_cancel' hle]
    · cases h
  · rintro ⟨before, after, rfl, rfl, rfl⟩
    rw [byteLength_append, if_pos (Nat.le_add_right _ _), cutAt?_append, Option.bind_some,
      Nat.add_sub_cancel_left, cutAt?_append]
    rfl

end LabelQuery.Source
