/-
Selectors. A selector is a clause, or several selectors that must hold together.
`Selector.selects` tries it on labels, `Selector.flaw?` gives the first breach of
the naming rules, `Selector.render` writes it as text, and `Selector.and` and
`Selector.collect` join selectors without nesting what they join.
-/

import LabelQuery.Clause

namespace LabelQuery

/-- A clause, or selectors that must hold together. -/
inductive Selector where
  | clause (clause : Clause)
  | all (members : List Selector)
deriving Repr

namespace Selector

mutual

/-- The selector holds of labels that a lookup function gives. -/
def holds (lookup : String → Option String) : Selector → Bool
  | .clause c => c.holds lookup
  | .all members => allHold lookup members

/-- Every one of the selectors holds. -/
def allHold (lookup : String → Option String) : List Selector → Bool
  | [] => true
  | s :: rest => holds lookup s && allHold lookup rest

end

/-- The selector selects what carries these labels. -/
def selects {μ : Type} [LabelMap μ] (s : Selector) (labels : μ) : Bool :=
  s.holds (label? labels)

mutual

/-- The first flaw of a selector, in the order of its clauses. -/
def flaw? : Selector → Option Rejection
  | .clause c => c.flaw?
  | .all members => firstFlaw? members

/-- The first flaw of several selectors. -/
def firstFlaw? : List Selector → Option Rejection
  | [] => none
  | s :: rest => (flaw? s).or (firstFlaw? rest)

end

mutual

/-- The text of a selector: the texts of its clauses, between commas. -/
def render : Selector → String
  | .clause c => c.render
  | .all members => ", ".intercalate (renderEach members)

/-- The texts of several selectors. -/
def renderEach : List Selector → List String
  | [] => []
  | s :: rest => render s :: renderEach rest

end

mutual

/-- The clauses of a selector, from left to right. -/
def clauses : Selector → List Clause
  | .clause c => [c]
  | .all members => clausesOfAll members

/-- The clauses of several selectors. -/
def clausesOfAll : List Selector → List Clause
  | [] => []
  | s :: rest => clauses s ++ clausesOfAll rest

end

/-- The selectors that a selector joins; a clause stands for itself. -/
def members : Selector → List Selector
  | .clause c => [.clause c]
  | .all members => members

/-- The selector that holds where both hold. -/
def and (a b : Selector) : Selector :=
  .all (a.members ++ b.members)

/-- The selector that holds where all hold; a single selector stands for itself. -/
def collect : List Selector → Selector
  | [] => .all []
  | s :: rest => rest.foldl and s

theorem firstFlaw?_eq_findSome? (ss : List Selector) :
    firstFlaw? ss = ss.findSome? flaw? := by
  induction ss with
  | nil => rfl
  | cons s rest ih => cases h : flaw? s <;> simp [firstFlaw?, h, ih]

theorem renderEach_eq_map (ss : List Selector) : renderEach ss = ss.map render := by
  induction ss with
  | nil => rfl
  | cons s rest ih => simp [renderEach, ih]

theorem clausesOfAll_eq_flatMap (ss : List Selector) :
    clausesOfAll ss = ss.flatMap clauses := by
  induction ss with
  | nil => rfl
  | cons s rest ih => simp [clausesOfAll, ih]

mutual

/-- Decides whether two selectors are the same. -/
def decEq : (a b : Selector) → Decidable (a = b)
  | .clause c, .clause d => decidable_of_iff (c = d) (by simp)
  | .all as, .all bs => @decidable_of_iff _ (as = bs) (by simp) (decEqList as bs)
  | .clause _, .all _ => isFalse (by simp)
  | .all _, .clause _ => isFalse (by simp)

/-- Decides whether two lists of selectors are the same. -/
def decEqList : (as bs : List Selector) → Decidable (as = bs)
  | [], [] => isTrue rfl
  | [], _ :: _ => isFalse (by simp)
  | _ :: _, [] => isFalse (by simp)
  | a :: as, b :: bs =>
    match decEq a b, decEqList as bs with
    | isTrue ha, isTrue has => isTrue (by rw [ha, has])
    | isFalse ha, _ => isFalse (by simp [ha])
    | _, isFalse has => isFalse (by simp [has])

end

instance : DecidableEq Selector := decEq

end Selector

end LabelQuery
