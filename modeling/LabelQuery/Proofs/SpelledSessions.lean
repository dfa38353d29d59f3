/-
Sessions whose selectors come from texts.

A selector that was put together from texts alone is `Tidy`: it is a single clause or a
join of clauses, it has no flaw, and no list of it holds only the empty value. Every
edit keeps this (`Tidy.edit`), so it holds however many edits a session has seen
(`Tidy.edits`). The text of a tidy selector can be parsed unless it joins nothing, and
the parse changes neither the text nor what is selected (`edits_settle`); it is only
the join of a single clause that it takes for that clause.
-/

import LabelQuery.Proofs.RoundTrip
import LabelQuery.Session

namespace LabelQuery

open Selector

/-- The edit takes the selector that it works with, if it needs one, from a text. -/
def Edit.Spelled : Edit → Prop
  | .replace operand | .append operand | .prepend operand => ∃ source, operand = .text source
  | .reparse | .label _ _ | .unlabel _ => True

namespace Selector

/-- The selector is a single clause, or clauses side by side in one join. -/
def IsShallow (s : Selector) : Prop :=
  (∃ c, s = .clause c) ∨ ∃ cs : List Clause, s = .all (cs.map .clause)

/-- The selector is one that can be put together from texts. -/
structure Tidy (s : Selector) : Prop where
  flawless : s.flaw? = none
  shallow : s.IsShallow
  lists : ∀ c ∈ s.clauses, c.condition.listsOnlyEmpty = false

/-! ### Joins of shallow selectors -/

theorem isShallow_iff {s : Selector} :
    s.IsShallow ↔ ∃ cs : List Clause, s.members = cs.map .clause := by
  constructor
  · rintro (⟨c, rfl⟩ | ⟨cs, rfl⟩)
    · exact ⟨[c], rfl⟩
    · exact ⟨cs, rfl⟩
  · rintro ⟨cs, hcs⟩
    cases s with
    | clause c => exact Or.inl ⟨c, rfl⟩
    | all members => exact Or.inr ⟨cs, congrArg Selector.all hcs⟩

theorem IsShallow.and {s s' : Selector} (h : s.IsShallow) (h' : s'.IsShallow) :
    (s.and s').IsShallow := by
  obtain ⟨cs, hcs⟩ := isShallow_iff.mp h
  obtain ⟨ds, hds⟩ := isShallow_iff.mp h'
  refine Or.inr ⟨cs ++ ds, ?_⟩
  rw [Selector.and, hcs, hds, List.map_append]

theorem IsFlat.isShallow {s : Selector} (h : s.IsFlat) : s.IsShallow := by
  rcases h with hclause | ⟨cs, -, rfl⟩
  · exact Or.inl hclause
  · exact Or.inr ⟨cs, rfl⟩

/-- Unless a shallow selector joins nothing, no join in it is empty. -/
theorem IsShallow.noEmptyJoin {s : Selector} (h : s.IsShallow) (hne : s ≠ .all []) :
    s.NoEmptyJoin := by
  rcases h with ⟨c, rfl⟩ | ⟨cs, rfl⟩
  · exact .clause c
  · refine noEmptyJoin_all_clauses ?_
    rintro rfl
    exact hne rfl

/-- A shallow selector is the collection of its clauses, unless it joins a single one. -/
theorem IsShallow.collect_clauses_eq {s : Selector} (h : s.IsShallow)
    (hlone : ∀ c, s ≠ .all [.clause c]) : collect (s.clauses.map .clause) = s := by
  rcases h with ⟨c, rfl⟩ | ⟨cs, rfl⟩
  · rfl
  · rw [clauses, clausesOfAll_map_clause]
    match cs with
    | [] => rfl
    | [c] => exact absurd rfl (hlone c)
    | first :: second :: rest => exact collect_clauses (by simp)

/-! ### One edit and several -/

theorem tidy_start : Session.start.selector.Tidy :=
  ⟨rfl, Or.inr ⟨[], rfl⟩, by simp [Session.start, clauses, clausesOfAll]⟩

theorem Canonical.tidy {s : Selector} (h : s.Canonical) : s.Tidy :=
  ⟨h.flawless, h.flat.isShallow, h.lists⟩

theorem Tidy.and {s s' : Selector} (h : s.Tidy) (h' : s'.Tidy) : (s.and s').Tidy := by
  refine ⟨?_, h.shallow.and h'.shallow, ?_⟩
  · rw [flaw?_and, h.flawless, h'.flawless]
    rfl
  · rw [clauses_and]
    intro c hc
    rcases List.mem_append.mp hc with hc | hc
    · exact h.lists c hc
    · exact h'.lists c hc

theorem exists_of_map_eq_ok {f : Selector → Selector} {found : Except Rejection Selector}
    {s : Selector} (h : found.map f = .ok s) : ∃ s', found = .ok s' ∧ f s' = s := by
  cases found with
  | error rejection => simp [Except.map] at h
  | ok s' => exact ⟨s', rfl, Except.ok.inj h⟩

/-- What an edit makes of a tidy selector is tidy. -/
theorem Tidy.editSelector {s s' : Selector} {change : Edit} (h : s.Tidy)
    (hspelled : change.Spelled) (hs' : Session.editSelector s change = .ok s') : s'.Tidy := by
  cases change with
  | replace operand =>
    obtain ⟨source, rfl⟩ := hspelled
    exact (canonical_of_parse hs').tidy
  | append operand =>
    obtain ⟨source, rfl⟩ := hspelled
    obtain ⟨added, hparse, rfl⟩ := exists_of_map_eq_ok hs'
    exact h.and (canonical_of_parse hparse).tidy
  | prepend operand =>
    obtain ⟨source, rfl⟩ := hspelled
    obtain ⟨added, hparse, rfl⟩ := exists_of_map_eq_ok hs'
    exact (canonical_of_parse hparse).tidy.and h
  | reparse => exact (canonical_of_parse hs').tidy
  | label key value =>
    cases hs'
    exact h
  | unlabel key =>
    cases hs'
    exact h

/-- An edit keeps the selector of a session tidy, also where it fails. -/
theorem Tidy.edit {session : Session} {change : Edit} (h : session.selector.Tidy)
    (hspelled : change.Spelled) : (session.edit change).1.selector.Tidy := by
  unfold Session.edit
  split
  · rename_i s hs
    exact h.editSelector hspelled hs
  · exact h

/-- Several edits keep it tidy. -/
theorem Tidy.edits {session : Session} {changes : List Edit} (h : session.selector.Tidy)
    (hspelled : ∀ change ∈ changes, change.Spelled) :
    (session.edits changes).selector.Tidy := by
  induction changes generalizing session with
  | nil => exact h
  | cons change changes ih =>
    obtain ⟨hfirst, hrest⟩ := List.forall_mem_cons.mp hspelled
    exact ih (h.edit hfirst) hrest

/-! ### Parsing the text of the selector -/

/-- The text of a tidy selector that joins something is parsed to the collection of its
clauses. -/
theorem Tidy.parse_render {s : Selector} (h : s.Tidy) (hne : s ≠ .all []) :
    parse s.render = .ok (.collect (s.clauses.map .clause)) :=
  parse_render_of_listsOnlyEmpty_eq_false h.flawless (h.shallow.noEmptyJoin hne) h.lists

/-- The collection of the clauses has the same text. -/
theorem Tidy.render_collect {s : Selector} (h : s.Tidy) (hne : s ≠ .all []) :
    (collect (s.clauses.map .clause)).render = s.render := by
  have hjoins := h.shallow.noEmptyJoin hne
  have hflat := isFlat_collect hjoins.clauses_ne_nil
  rw [hflat.noEmptyJoin.render_eq, clauses_collect, hjoins.render_eq]

/-- However many edits a session has seen that take their selectors from texts, its
selector is tidy. The text of the selector cannot be parsed only where it joins nothing,
since that text is blank; else it is parsed to a selector with the same text, which
selects the same labels. This is the selector itself, unless that is the join of a
single clause, which is parsed to the clause. -/
theorem edits_settle {changes : List Edit} (hspelled : ∀ change ∈ changes, change.Spelled)
    {s : Selector} (hs : (Session.start.edits changes).selector = s) :
    s.Tidy ∧
      (s = .all [] → parse s.render = .error .blank) ∧
      (s ≠ .all [] → ∃ reparsed, parse s.render = .ok reparsed ∧
        reparsed.render = s.render ∧
        (∀ {μ : Type} [LabelMap μ] (labels : μ), reparsed.selects labels = s.selects labels) ∧
        (∀ c, s = .all [.clause c] → reparsed = .clause c) ∧
        ((∀ c, s ≠ .all [.clause c]) → reparsed = s)) := by
  have h : s.Tidy := hs ▸ tidy_start.edits hspelled
  refine ⟨h, ?_, ?_⟩
  · rintro rfl
    rfl
  · intro hne
    refine ⟨_, h.parse_render hne, h.render_collect hne, ?_, ?_, ?_⟩
    · intro μ _ labels
      rw [selects_eq_all_clauses, selects_eq_all_clauses, clauses_collect]
    · rintro c rfl
      rfl
    · exact h.shallow.collect_clauses_eq

/-- Two edits that fail, and one that makes a join of a single clause. -/
theorem edits_settle_lone_join :
    (∀ change ∈ [Edit.append (.text "b <"), .reparse, .prepend (.text "é")], change.Spelled) ∧
      (Session.start.edits [.append (.text "b <"), .reparse, .prepend (.text "é")]).selector =
        .all [.clause ⟨"é", .present⟩] ∧
      parse (render (.all [.clause ⟨"é", .present⟩])) = .ok (.clause ⟨"é", .present⟩) := by
  have hspelled : ∀ change ∈ [Edit.append (.text "b <"), .reparse, .prepend (.text "é")],
      change.Spelled := by simp [Edit.Spelled]
  have hfails : parse "b <" = .error (Cause.unknownOperator.rejection 2) := by decide +kernel
  have hparse : parse "é" = .ok (.clause ⟨"é", .present⟩) := by decide +kernel
  have hblank : parse (render (.all [])) = .error .blank := rfl
  have hstate : (Session.start.edits
      [.append (.text "b <"), .reparse, .prepend (.text "é")]).selector =
        .all [.clause ⟨"é", .present⟩] := by
    simp [Session.edits, Session.edit, Session.editSelector, Session.start, Operand.selector,
      hfails, hparse, hblank, Except.map, Selector.and, members]
  obtain ⟨-, -, hsettles⟩ := edits_settle hspelled hstate
  obtain ⟨reparsed, hreparsed, -, -, hlone, -⟩ := hsettles (by simp)
  rw [hlone _ rfl] at hreparsed
  exact ⟨hspelled, hstate, hreparsed⟩

end Selector

end LabelQuery
