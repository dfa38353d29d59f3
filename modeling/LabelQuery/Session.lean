/-
Sessions. A session builds up a selector beside the labels that it is tried on. Each
`Edit` changes one of the two; an edit that needs a text which does not parse leaves
the session as it was and says why.
-/

import LabelQuery.Parse

namespace LabelQuery

/-- A selector to work with, spelled out or ready made. -/
inductive Operand where
  | text (source : String)
  | built (selector : Selector)
deriving DecidableEq, Repr

/-- The selector that an operand stands for. -/
def Operand.selector : Operand → Except Rejection Selector
  | .text source => Selector.parse source
  | .built selector => .ok selector

/-- A selector and the labels that it is tried on. -/
structure Session where
  selector : Selector
  labels : Std.HashMap String String

/-- A change to a session. -/
inductive Edit where
  | replace (operand : Operand)
  | append (operand : Operand)
  | prepend (operand : Operand)
  /-- Put the text of the selector through the parser. -/
  | reparse
  | label (key value : String)
  | unlabel (key : String)
deriving DecidableEq, Repr

namespace Session

/-- A session at its start: nothing is asked and nothing is labelled. -/
def start : Session :=
  ⟨.all [], ∅⟩

/-- The selector of the session selects its labels. -/
def selected (session : Session) : Bool :=
  session.selector.selects session.labels

/-- What an edit makes of a selector. -/
def editSelector (selector : Selector) : Edit → Except Rejection Selector
  | .replace operand => operand.selector
  | .append operand => operand.selector.map (selector.and ·)
  | .prepend operand => operand.selector.map (·.and selector)
  | .reparse => Selector.parse selector.render
  | .label _ _ | .unlabel _ => .ok selector

/-- What an edit makes of labels. -/
def editLabels (labels : Std.HashMap String String) : Edit → Std.HashMap String String
  | .label key value => labels.insert key value
  | .unlabel key => labels.erase key
  | _ => labels

/-- The session after an edit, and why the edit failed if it did. -/
def edit (session : Session) (change : Edit) : Session × Option Rejection :=
  match editSelector session.selector change with
  | .ok selector => (⟨selector, editLabels session.labels change⟩, none)
  | .error rejection => (session, some rejection)

/-- The session after several edits. -/
def edits (session : Session) (changes : List Edit) : Session :=
  changes.foldl (fun session change => (session.edit change).1) session

end Session

end LabelQuery
