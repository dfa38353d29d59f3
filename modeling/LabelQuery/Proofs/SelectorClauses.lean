/-
A selector through its clauses.

However deeply selectors are joined, what counts is the list of their clauses: a
selector holds where all of its clauses hold, its first flaw is the first flaw of a
clause, and, as long as no join in it is empty, its text is the texts of its clauses
between commas. Collecting clauses gives the flat selector of them, in their order.
-/

import LabelQuery.Proofs.Joins

namespace LabelQuery.Selector

/-! ### Clauses decide -/

mutual

/-- A selector holds where all of its clauses hold. -/
theorem holds_eq_all_clauses (lookup : String → Option String) :
    (s : Selector) → s.holds lookup = s.clauses.all (·.holds lookup)
  | .clause c => by simp [holds, clauses]
  | .all members => by rw [holds, clauses, allHold_eq_all_clauses lookup members]

/-- Several selectors hold where all of their clauses hold. -/
theorem allHold_eq_all_clauses (lookup : String → Option String) :
    (ss : List Selector) → allHold lookup ss = (clausesOfAll ss).all (·.holds lookup)
  | [] => rfl
  | s :: rest => by
    rw [allHold, clausesOfAll, List.all_append, holds_eq_all_clauses lookup s,
      allHold_eq_all_clauses lookup rest]

end

mutual

/-- The first flaw of a selector is the first flaw of a clause of it. -/
theorem flaw?_eq_findSome?_clauses :
    (s : Selector) → s.flaw? = s.clauses.findSome? Clause.flaw?
  | .clause c => by simp [flaw?, clauses]
  | .all members => by rw [flaw?, clauses, firstFlaw?_eq_findSome?_clauses members]

/-- The first flaw of several selectors is the first flaw of a clause of them. -/
theorem firstFlaw?_eq_findSome?_clauses :
    (ss : List Selector) → firstFlaw? ss = (clausesOfAll ss).findSome? Clause.flaw?
  | [] => rfl
  | s :: rest => by
    rw [firstFlaw?, clausesOfAll, List.findSome?_append, flaw?_eq_findSome?_clauses s,
      firstFlaw?_eq_findSome?_clauses rest]

end

theorem flaw?_eq_none_iff {s : Selector} :
    s.flaw? = none ↔ ∀ c ∈ s.clauses, c.flaw? = none := by
  rw [flaw?_eq_findSome?_clauses, List.findSome?_eq_none_iff]

/-- Selecting reads only the clauses. -/
theorem selects_eq_all_clauses {μ : Type} [LabelMap μ] (s : Selector) (labels : μ) :
    s.selects labels = s.clauses.all (·.holds (label? labels)) :=
  s.holds_eq_all_clauses (label? labels)

/-! ### Flat selectors -/

@[simp] theorem clausesOfAll_map_clause (cs : List Clause) :
    clausesOfAll (cs.map .clause) = cs := by
  induction cs with
  | nil => rfl
  | cons c rest ih => rw [List.map_cons, clausesOfAll, ih, clauses, List.singleton_append]

/-- Clauses have no members but themselves. -/
@[simp] theorem flatMap_members_map_clause (cs : List Clause) :
    (cs.map clause).flatMap members = cs.map .clause := by
  induction cs with
  | nil => rfl
  | cons c rest ih => rw [List.map_cons, List.flatMap_cons, ih, members, List.singleton_append]

/-- Collecting several clauses joins them side by side. -/
theorem collect_clauses {cs : List Clause} (h : 2 ≤ cs.length) :
    collect (cs.map .clause) = .all (cs.map .clause) := by
  rw [collect_eq_all (by simpa using h), flatMap_members_map_clause]

/-- Collecting clauses neither loses nor adds any. -/
@[simp] theorem clauses_collect (cs : List Clause) :
    (collect (cs.map .clause)).clauses = cs := by
  match cs with
  | [] => rfl
  | [c] => rfl
  | first :: second :: rest =>
    rw [collect_clauses (by simp), clauses, clausesOfAll_map_clause]

theorem clausesOfAll_members (s : Selector) : clausesOfAll s.members = s.clauses := by
  cases s <;> simp [members, clauses, clausesOfAll]

theorem clauses_and (s s' : Selector) : (s.and s').clauses = s.clauses ++ s'.clauses := by
  rw [and, clauses, clausesOfAll_eq_flatMap, List.flatMap_append, ← clausesOfAll_eq_flatMap,
    ← clausesOfAll_eq_flatMap, clausesOfAll_members, clausesOfAll_members]

/-! ### Texts of joins -/

/-- No join in the selector is empty, at any depth. -/
inductive NoEmptyJoin : Selector → Prop where
  | clause (c : Clause) : NoEmptyJoin (.clause c)
  | all {members : List Selector} (hne : members ≠ [])
      (hmembers : ∀ s ∈ members, NoEmptyJoin s) : NoEmptyJoin (.all members)

theorem NoEmptyJoin.clauses_ne_nil {s : Selector} (h : s.NoEmptyJoin) : s.clauses ≠ [] := by
  induction h with
  | clause c => simp [clauses]
  | @all members hne hmembers ih =>
    cases members with
    | nil => exact absurd rfl hne
    | cons s rest =>
      have hs := ih s (by simp)
      simp [clauses, clausesOfAll, hs]

/-- A text between commas of texts between commas is one text between commas. -/
theorem intercalate_map_intercalate (separator : String) {lists : List (List String)}
    (h : ∀ list ∈ lists, list ≠ []) :
    separator.intercalate (lists.map separator.intercalate) =
      separator.intercalate lists.flatten := by
  induction lists with
  | nil => rfl
  | cons list rest ih =>
    have ih := ih fun found hfound => h found (List.mem_cons_of_mem _ hfound)
    cases rest with
    | nil => simp
    | cons next rest =>
      have hlist : list ≠ [] := h list (by simp)
      have hrest : (next :: rest).flatten ≠ [] := by
        have hnext : next ≠ [] := h next (by simp)
        simp [hnext]
      rw [List.map_cons, String.intercalate_cons_of_ne_nil (by simp), ih,
        ← String.intercalate_append_of_ne_nil hlist hrest, ← List.flatten_cons]

/-- The text of a selector without empty joins is the texts of its clauses between
commas, whatever its nesting. -/
theorem NoEmptyJoin.render_eq {s : Selector} (h : s.NoEmptyJoin) :
    s.render = ", ".intercalate (s.clauses.map Clause.render) := by
  induction h with
  | clause c => simp [render, clauses]
  | @all members hne hmembers ih =>
    have heach : members.map render =
        (members.map fun s => s.clauses.map Clause.render).map (", ".intercalate ·) := by
      rw [List.map_map]
      exact List.map_congr_left ih
    have hlists : ∀ list ∈ members.map (fun s => s.clauses.map Clause.render), list ≠ [] := by
      intro list hlist
      obtain ⟨s, hs, rfl⟩ := List.mem_map.mp hlist
      simpa using (hmembers s hs).clauses_ne_nil
    rw [render, renderEach_eq_map, heach, intercalate_map_intercalate ", " hlists, clauses,
      clausesOfAll_eq_flatMap, List.map_flatMap, List.flatMap_def]

end LabelQuery.Selector
