/-
Clauses. A clause names a key and puts one condition on the label under it:
`Clause.holds` tries it on labels, `Clause.flaw?` checks its key and its values
against the naming rules, and `Clause.render` writes it as text.
-/

import LabelQuery.LabelMap
import LabelQuery.Naming

namespace LabelQuery

/-- A condition on the label under a key, if there is one. -/
inductive Condition where
  | present
  | absent
  | equal (value : String)
  | unequal (value : String)
  | among (values : List String)
  | outside (values : List String)
deriving DecidableEq, Repr

namespace Condition

/-- The condition on what is found under the key. A missing label fails the
conditions that ask for one and meets those that rule something out. -/
def holds : Condition → Option String → Bool
  | .present, label => label.isSome
  | .absent, label => label.isNone
  | .equal value, label => label == some value
  | .unequal value, label => label != some value
  | .among values, label => label.any values.contains
  | .outside values, label => !label.any values.contains

/-- The values that a condition mentions, in order. -/
def values : Condition → List String
  | .present | .absent => []
  | .equal value | .unequal value => [value]
  | .among values | .outside values => values

end Condition

/-- A condition on the label under `key`. -/
structure Clause where
  key : String
  condition : Condition
deriving DecidableEq, Repr

namespace Clause

/-- The clause holds of labels that a lookup function gives. -/
def holds (c : Clause) (lookup : String → Option String) : Bool :=
  c.condition.holds (lookup c.key)

/-- The first flaw of a clause: that of its key, else that of its first bad value. -/
def flaw? (c : Clause) : Option Rejection :=
  (Naming.keyFlaw? c.key).or (c.condition.values.findSome? Naming.valueFlaw?)

/-- Values between parentheses. -/
def renderList (values : List String) : String :=
  "(" ++ ", ".intercalate values ++ ")"

/-- The text of a clause. -/
def render (c : Clause) : String :=
  match c.condition with
  | .present => c.key
  | .absent => "!" ++ c.key
  | .equal value => c.key ++ "=" ++ value
  | .unequal value => c.key ++ "!=" ++ value
  | .among values => c.key ++ " in " ++ renderList values
  | .outside values => c.key ++ " notin " ++ renderList values

end Clause

end LabelQuery
