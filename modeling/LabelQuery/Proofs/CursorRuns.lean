/-
Runs of a cursor.

Whatever a cursor does from the start of a text on, also where a scan fails, it does what a
reader does, and its numbers are those of the places where the reader is and which the
reader remembers (`Placed.act_cursor`). So they always fall between two characters of the
text, and nothing that a cursor looks up is missing or cut inside a character. Only going
back moves it towards the start of the text, and it leads to the place that was remembered
last, unless the cursor has gone back since (`remembered_after`). `cursor_keeps_place` says
this of every action in a run.
-/

import LabelQuery.Proofs.ClausePlaces
import LabelQuery.Proofs.CursorScans
import Mathlib.Data.List.Induction

namespace LabelQuery.Source

open LabelQuery.Text

/-- The bytes of some whole characters, which the text starts with, are `n` in number. -/
def IsBoundary (text : List Char) (n : Nat) : Prop :=
  ∃ before, before <+: text ∧ n = byteLength before

/-! ### Remembering -/

/-- The last of the actions that remembers a place comes right behind `early`, and none
behind it goes back. -/
def RemembersLast (actions early : List Action) : Prop :=
  ∃ late, actions = early ++ .remember :: late ∧ .remember ∉ late ∧ .goBack ∉ late

theorem remembersLast_concat_remember {actions early : List Action} :
    RemembersLast (actions ++ [.remember]) early ↔ early = actions := by
  constructor
  · rintro ⟨late, hactions, hremember, -⟩
    cases late using List.reverseRecOn with
    | nil => exact (List.append_cancel_right hactions).symm
    | append_singleton late action =>
      rw [← List.cons_append, ← List.append_assoc] at hactions
      obtain ⟨-, hlast⟩ := List.append_inj' hactions rfl
      simp_all
  · rintro rfl
    exact ⟨[], rfl, by simp, by simp⟩

theorem remembersLast_concat_iff {actions early : List Action} {action : Action}
    (h : action ≠ .remember) :
    RemembersLast (actions ++ [action]) early ↔
      action ≠ .goBack ∧ RemembersLast actions early := by
  constructor
  · rintro ⟨late, hactions, hremember, hback⟩
    cases late using List.reverseRecOn with
    | nil =>
      obtain ⟨-, hlast⟩ := List.append_inj' hactions rfl
      exact absurd (List.singleton_inj.mp hlast) h
    | append_singleton late last =>
      rw [← List.cons_append, ← List.append_assoc] at hactions
      obtain ⟨hfront, hlast⟩ := List.append_inj' hactions rfl
      obtain rfl := List.singleton_inj.mp hlast
      simp only [List.mem_append, List.mem_singleton, not_or] at hremember hback
      exact ⟨Ne.symm hback.2, late, hfront, hremember.1, hback.1⟩
  · rintro ⟨hne, late, rfl, hremember, hback⟩
    refine ⟨late ++ [action], by simp, ?_, ?_⟩
    · simpa [hremember] using h.symm
    · simpa [hback] using hne.symm

namespace Cursor

/-- The cursor that several actions leave. -/
def after (c : Cursor) (actions : List Action) : Cursor :=
  actions.foldl (fun c action => (c.act action).2) c

theorem after_concat (c : Cursor) (actions : List Action) (action : Action) :
    c.after (actions ++ [action]) = ((c.after actions).act action).2 := by
  rw [after, List.foldl_append]
  rfl

end Cursor

namespace Reader

/-! ### What an action does -/

theorem snd_act_operator (r : Reader) :
    (r.act .operator).2 = { r with rest := (scanOperator r.rest).rest } := by
  rw [act]
  split <;> rename_i h <;> exact (congrArg Prod.snd h).symm

theorem snd_act_values (r : Reader) :
    (r.act .values).2 = { r with rest := (scanValues r.rest).rest } := by
  rw [act]
  split <;> rename_i h <;> exact (congrArg Prod.snd h).symm

theorem source_act (r : Reader) (action : Action) : (r.act action).2.source = r.source := by
  cases action with
  | operator => rw [snd_act_operator]
  | values => rw [snd_act_values]
  | _ => rfl

/-- What remains is cut off what remained before, except where the reader goes back. -/
theorem rest_act_suffix (r : Reader) {action : Action} (h : action ≠ .goBack) :
    (r.act action).2.rest <:+ r.rest := by
  cases action with
  | look => exact List.suffix_refl _
  | step => exact List.tail_suffix _
  | remember => exact List.suffix_refl _
  | goBack => exact absurd rfl h
  | passBlanks => exact skipBlanks_suffix _
  | word => exact takeWord_suffix _
  | operator =>
    rw [snd_act_operator]
    exact scanOperator_suffix _
  | values =>
    rw [snd_act_values]
    exact scanValues_suffix _

theorem remembered_act (r : Reader) {action : Action} (h : action ≠ .remember)
    (h' : action ≠ .goBack) : (r.act action).2.remembered = r.remembered := by
  cases action with
  | remember => exact absurd rfl h
  | goBack => exact absurd rfl h'
  | operator => rw [snd_act_operator]
  | values => rw [snd_act_values]
  | _ => rfl

/-! ### Places -/

/-- The reader stands in the text `source`, between two characters, and so does the place
that it remembers. -/
structure Placed (source : List Char) (r : Reader) : Prop where
  same : r.source = source
  rest : r.rest <:+ source
  remembered : ∀ place, r.remembered = some place → place <:+ source

theorem placed_start (source : String) : Placed source.toList (start source) :=
  ⟨rfl, List.suffix_refl _, by simp [start]⟩

variable {source : List Char} {r : Reader}

/-- Every action leaves a reader between two characters. -/
theorem Placed.act (h : r.Placed source) (action : Action) : (r.act action).2.Placed source := by
  refine ⟨(r.source_act action).trans h.same, ?_, ?_⟩
  · by_cases hback : action = .goBack
    · subst hback
      cases hplace : r.remembered with
      | none => simpa [Reader.act, goBack, hplace] using h.rest
      | some place => simpa [Reader.act, goBack, hplace] using h.remembered place hplace
    · exact (r.rest_act_suffix hback).trans h.rest
  · intro place hplace
    by_cases hback : action = .goBack
    · subst hback
      simp [Reader.act, goBack] at hplace
    by_cases hremember : action = .remember
    · subst hremember
      obtain rfl : r.rest = place := by simpa [Reader.act, remember] using hplace
      exact h.rest
    · rw [r.remembered_act hremember hback] at hplace
      exact h.remembered place hplace

theorem Placed.isBoundary_position (h : r.Placed source) : IsBoundary source r.position := by
  obtain ⟨before, hbefore⟩ := h.rest
  exact ⟨before, ⟨r.rest, hbefore⟩, by rw [position, h.same, ← hbefore, offset_append]⟩

/-- A remembered place is the place of a reader too. -/
theorem Placed.isBoundary_remembered (h : r.Placed source) {place : List Char}
    (hplace : r.remembered = some place) : IsBoundary source (offset source place) := by
  obtain ⟨before, rfl⟩ := h.remembered place hplace
  exact ⟨before, List.prefix_append _ _, offset_append before place⟩

/-- The less remains, the greater is the position. -/
theorem position_le_of_suffix {next : Reader} (hsame : next.source = r.source)
    (hrest : next.rest <:+ r.rest) : r.position ≤ next.position := by
  have hle := byteLength_le_of_suffix hrest
  rw [position, position, offset, offset, hsame]
  omega

/-! ### Cursors -/

/-- The cursor at the place of a reader. -/
def cursor (r : Reader) : Cursor :=
  .place r.source r.rest (r.remembered.map (offset r.source))

theorem cursor_start (source : String) : (start source).cursor = Cursor.start source := by
  simp [start, cursor, Cursor.place, Cursor.start, offset]

theorem Placed.current?_cursor (h : r.Placed source) : r.cursor.current? = r.current? :=
  Cursor.current?_place (h.same ▸ h.rest)

theorem Placed.atEnd_cursor (h : r.Placed source) : r.cursor.atEnd = r.atEnd := by
  obtain ⟨before, hbefore⟩ := h.rest
  have hposition : r.cursor.position = byteLength before := by
    rw [cursor, Cursor.place, h.same, ← hbefore, offset_append]
  have hlength : byteLength r.cursor.source = byteLength before + byteLength r.rest := by
    rw [← byteLength_append, hbefore, ← h.same]
    rfl
  rw [Bool.eq_iff_iff, atEnd, List.isEmpty_iff, Cursor.atEnd, decide_eq_true_iff, hposition,
    hlength]
  constructor
  · intro hle
    by_contra hne
    have hpos := byteLength_pos hne
    omega
  · intro hrest
    simp [hrest]

/-- A cursor does what a reader does. -/
theorem Placed.act_cursor (h : r.Placed source) (action : Action) :
    r.cursor.act action = ((r.act action).1, (r.act action).2.cursor) := by
  have hrest : r.rest <:+ r.source := h.same ▸ h.rest
  cases action with
  | look => rfl
  | step => rw [cursor, Cursor.act, Cursor.step_place hrest]; rfl
  | remember => rfl
  | goBack =>
    rw [cursor, Cursor.act, Cursor.goBack, Reader.act, Reader.goBack]
    cases r.remembered <;> rfl
  | passBlanks => rw [cursor, Cursor.act, Cursor.passBlanks_place hrest]; rfl
  | word => rw [cursor, Cursor.act, Cursor.word_place hrest]; rfl
  | operator =>
    rw [cursor, Cursor.act, Cursor.operator_place hrest, Cursor.scanned, Reader.act, Reader.scan]
    cases (scanOperator r.rest).outcome <;> rfl
  | values =>
    rw [cursor, Cursor.act, Cursor.values_place hrest, Cursor.scanned, Reader.act, Reader.scan]
    cases (scanValues r.rest).outcome <;> rfl

theorem Placed.passBlanks_cursor (h : r.Placed source) :
    r.cursor.passBlanks = r.passBlanks.cursor :=
  Cursor.passBlanks_place (h.same ▸ h.rest)

/-- What a cursor passes of the text is the slice between its two positions. -/
theorem Placed.slice?_cursor {next : Reader} {piece : List Char} (h : r.Placed source)
    (hnext : next.Placed source) (hrest : r.rest = piece ++ next.rest) :
    slice? source r.cursor.position next.cursor.position = some piece := by
  have hsuffix := h.rest
  rw [hrest] at hsuffix
  rw [cursor, cursor, Cursor.place, Cursor.place, h.same, hnext.same, hrest]
  exact Cursor.slice?_offset hsuffix

/-- The blanks that a cursor passes. -/
theorem Placed.exists_slice?_blanks (h : r.Placed source) :
    ∃ blanks, slice? source r.cursor.position r.cursor.passBlanks.position = some blanks ∧
      Blanks blanks ∧ r.cursor.passBlanks.current?.any isBlank = false := by
  have hnext : r.passBlanks.Placed source := h.act .passBlanks
  obtain ⟨blanks, hblanks, hrest⟩ := exists_blanks_append_skipBlanks r.rest
  rw [h.passBlanks_cursor]
  refine ⟨blanks, h.slice?_cursor hnext hrest, hblanks, ?_⟩
  rw [hnext.current?_cursor]
  exact head?_skipBlanks r.rest

/-- The word that a cursor takes. -/
theorem Placed.slice?_word (h : r.Placed source) :
    slice? source r.cursor.passBlanks.position r.word.2.cursor.position =
      some (takeWord r.rest).1 := by
  rw [h.passBlanks_cursor]
  exact Placed.slice?_cursor (h.act .passBlanks) (h.act .word) (takeWord_append r.rest).symm

/-! ### Runs -/

/-- The reader that several actions leave. -/
def after (r : Reader) (actions : List Action) : Reader :=
  actions.foldl (fun r action => (r.act action).2) r

@[simp] theorem after_nil (r : Reader) : r.after [] = r := rfl

theorem after_concat (r : Reader) (actions : List Action) (action : Action) :
    r.after (actions ++ [action]) = ((r.after actions).act action).2 := by
  rw [after, List.foldl_append]
  rfl

/-- A run goes on from the reader that it left. -/
theorem run_concat (r : Reader) (actions : List Action) (action : Action) :
    r.run (actions ++ [action]) = r.run actions ++ [(r.after actions).act action] := by
  induction actions generalizing r with
  | nil => rfl
  | cons first actions ih => rw [List.cons_append, run, ih, run, List.cons_append]; rfl

theorem Placed.after (h : r.Placed source) (actions : List Action) :
    (r.after actions).Placed source := by
  induction actions using List.reverseRecOn with
  | nil => exact h
  | append_singleton actions action ih =>
    rw [after_concat]
    exact ih.act action

/-- A reader that has remembered nothing before remembers the place where it did so last,
unless it has gone back since. -/
theorem remembered_after (r : Reader) (hr : r.remembered = none) (actions : List Action)
    (place : List Char) :
    (r.after actions).remembered = some place ↔
      ∃ early, RemembersLast actions early ∧ place = (r.after early).rest := by
  induction actions using List.reverseRecOn with
  | nil => simp [hr, RemembersLast]
  | append_singleton actions action ih =>
    rw [after_concat]
    by_cases hremember : action = .remember
    · subst hremember
      simp [remembersLast_concat_remember, act, remember, eq_comm]
    by_cases hback : action = .goBack
    · subst hback
      simp [remembersLast_concat_iff, act, goBack]
    · rw [remembered_act _ hremember hback, ih]
      simp [remembersLast_concat_iff hremember, hback]

/-- A cursor is left where a reader is left. -/
theorem Placed.after_cursor (h : r.Placed source) (actions : List Action) :
    r.cursor.after actions = (r.after actions).cursor := by
  induction actions using List.reverseRecOn with
  | nil => rfl
  | append_singleton actions action ih =>
    rw [Cursor.after_concat, ih, (h.after actions).act_cursor, after_concat]

theorem Placed.run_cursor (h : r.Placed source) (actions : List Action) :
    r.cursor.run actions = (r.run actions).map (Prod.map id cursor) := by
  induction actions generalizing r with
  | nil => rfl
  | cons action actions ih =>
    rw [Cursor.run, h.act_cursor, ih (h.act action), run]
    rfl

end Reader

namespace Cursor

variable {source : String} {actions : List Action} {c : Cursor}

/-- From the start of a text on a cursor is where a reader is. -/
theorem exists_reader (hc : c = (start source).after actions) :
    ∃ r : Reader, r = (Reader.start source).after actions ∧ r.Placed source.toList ∧
      c = r.cursor := by
  have hstart := Reader.placed_start source
  refine ⟨_, rfl, hstart.after actions, ?_⟩
  rw [hc, ← Reader.cursor_start, hstart.after_cursor]

/-- Going back leads to the place that was remembered last. -/
theorem position_goBack {early : List Action} (hc : c = (start source).after actions)
    (h : RemembersLast actions early) :
    c.goBack.position = ((start source).after early).position := by
  obtain ⟨r, hr, hplaced, rfl⟩ := exists_reader hc
  obtain ⟨r', hr', hplaced', hearly⟩ := exists_reader (c := (start source).after early) rfl
  have hplace : r.remembered = some r'.rest := by
    rw [hr, hr', Reader.remembered_after _ rfl]
    exact ⟨early, h, rfl⟩
  rw [hearly, goBack, Reader.cursor, Reader.cursor, place, place, hplace, hplaced.same,
    hplaced'.same]
  rfl

/-- Where no remembered place is left, going back leads nowhere. -/
theorem position_goBack_of_none (hc : c = (start source).after actions)
    (h : ∀ early, ¬ RemembersLast actions early) : c.goBack.position = c.position := by
  obtain ⟨r, hr, -, rfl⟩ := exists_reader hc
  have hplace : r.remembered = none := by
    rw [Option.eq_none_iff_forall_ne_some]
    intro place hplace
    rw [hr, Reader.remembered_after _ rfl] at hplace
    obtain ⟨early, hearly, -⟩ := hplace
    exact h early hearly
  rw [goBack, Reader.cursor, place, hplace]
  rfl

/-- Each action of a cursor goes on the record of its run, from the start of a text on,
whether a scan succeeds or fails. A reader that takes the same actions comes back with the
same, and is left at the same place.

The position before the action is that of a place between two characters, and so is the
place that the cursor remembers. A character is missing only at the end of the text.

No action but going back leaves the cursor closer to the start of the text. The place
behind the blanks is the one up to which the text is blank, and no further. A word is the
text from there up to where the cursor is left. It holds nothing but word characters, and
none follows it. Going back leads to the place that was remembered last, unless the cursor
has gone back since or has remembered none; then it leaves the position as it is. -/
theorem cursor_keeps_place {action : Action} {next : Cursor} {yielded : Yield}
    (hc : c = (start source).after actions) (hact : c.act action = (yielded, next)) :
    (start source).run (actions ++ [action]) = (start source).run actions ++ [(yielded, next)] ∧
      (∃ r : Reader, (Reader.start source).run (actions ++ [action]) =
          (Reader.start source).run actions ++ [(yielded, r)] ∧
        next = r.cursor ∧ next.current? = r.current? ∧ next.atEnd = r.atEnd) ∧
      IsBoundary source.toList c.position ∧
      (∀ n, c.remembered = some n → IsBoundary source.toList n) ∧
      (c.current? = none ↔ c.atEnd = true) ∧
      (action ≠ .goBack → c.position ≤ next.position) ∧
      (∃ blanks, slice? source.toList c.position c.passBlanks.position = some blanks ∧
        Blanks blanks ∧ c.passBlanks.current?.any isBlank = false) ∧
      (action = .word → ∃ word, yielded = .word (String.ofList word) ∧
        slice? source.toList c.passBlanks.position next.position = some word ∧
        IsWord word ∧ next.current?.any isInWord = false) ∧
      (action = .goBack →
        (∀ early, RemembersLast actions early →
          next.position = ((start source).after early).position) ∧
        ((∀ early, ¬ RemembersLast actions early) → next.position = c.position)) := by
  obtain ⟨r, hr, hplaced, rfl⟩ := exists_reader hc
  have hnext := hplaced.act action
  rw [hplaced.act_cursor] at hact
  obtain ⟨rfl, rfl⟩ := Prod.mk.inj hact
  have hrun := (Reader.start source).run_concat actions action
  rw [← hr] at hrun
  refine ⟨?_, ⟨_, hrun, rfl, hnext.current?_cursor, hnext.atEnd_cursor⟩,
    hplaced.isBoundary_position, ?_, ?_, ?_, hplaced.exists_slice?_blanks, ?_, ?_⟩
  · rw [← Reader.cursor_start, (Reader.placed_start source).run_cursor, hrun, List.map_append,
      ← (Reader.placed_start source).run_cursor]
    rfl
  · intro n hn
    obtain ⟨place, hplace, rfl⟩ := Option.map_eq_some_iff.mp hn
    rw [hplaced.same]
    exact hplaced.isBoundary_remembered hplace
  · rw [hplaced.current?_cursor, hplaced.atEnd_cursor, Reader.current?, Reader.atEnd,
      List.head?_eq_none_iff, List.isEmpty_iff]
  · intro hne
    exact Reader.position_le_of_suffix (r.source_act action) (r.rest_act_suffix hne)
  · rintro rfl
    refine ⟨_, rfl, hplaced.slice?_word, isWord_takeWord r.rest, ?_⟩
    rw [hnext.current?_cursor]
    exact head?_takeWord r.rest
  · rintro rfl
    have hback : (r.act .goBack).2.cursor = r.cursor.goBack :=
      (congrArg Prod.snd (hplaced.act_cursor .goBack)).symm
    rw [hback]
    exact ⟨fun _ => position_goBack hc, position_goBack_of_none hc⟩

/-- An operator that breaks off is taken back, with the blanks in front of it. -/
theorem cursor_keeps_place_taken_back :
    let c : Cursor := ⟨"é  nothing".toList, 7, some 2⟩
    let next : Cursor := ⟨"é  nothing".toList, 2, none⟩
    c = (start "é  nothing").after [.word, .remember, .operator] ∧
      c.act .goBack = (.nothing, next) ∧
      next.position = ((start "é  nothing").after [.word]).position ∧
      IsBoundary "é  nothing".toList 7 ∧ IsBoundary "é  nothing".toList 2 := by
  intro c next
  have hc : c = (start "é  nothing").after [.word, .remember, .operator] := by
    rw [← Reader.cursor_start, (Reader.placed_start _).after_cursor]
    decide +kernel
  have hact : c.act .goBack = (.nothing, next) := rfl
  obtain ⟨-, -, hposition, hremembered, -, -, -, -, hback⟩ := cursor_keeps_place hc hact
  have hlast : RemembersLast [.word, .remember, .operator] [.word] :=
    ⟨[.operator], rfl, by decide, by decide⟩
  exact ⟨hc, hact, (hback rfl).1 _ hlast, hposition, hremembered _ rfl⟩

end Cursor

end LabelQuery.Source
