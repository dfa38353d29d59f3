/-
The journal of a parse. It has an entry for every clause that was completed, with
the place where the clause ended, and a last entry for the verdict on the text.
-/

import LabelQuery.Parse

namespace LabelQuery

/-- How much detail an event is. -/
inductive Level where
  | trace
  | debug
deriving DecidableEq, Repr

/-- What a parse puts on record. -/
inductive Event where
  /-- The clause was completed after `position` bytes. -/
  | completed (clause : Clause) (position : Nat)
  | accepted (selector : Selector)
  | rejected (text : String) (rejection : Rejection)
deriving DecidableEq, Repr

namespace Event

/-- The level of an event: a verdict matters more than a clause. -/
def level : Event → Level
  | .completed _ _ => .trace
  | .accepted _ | .rejected _ _ => .debug

/-- The wording of an event. -/
def message : Event → String
  | .completed clause position =>
      "parsed clause `" ++ clause.render ++ "` ending at byte " ++ toString position
  | .accepted selector => "accepted selector `" ++ selector.render ++ "`"
  | .rejected text rejection =>
      "rejected selector " ++ Text.quote text ++ ": " ++ rejection.message

@[simp] theorem message_completed (clause : Clause) (position : Nat) :
    (completed clause position).message =
      "parsed clause `" ++ clause.render ++ "` ending at byte " ++ toString position := rfl

@[simp] theorem message_accepted (selector : Selector) :
    (accepted selector).message = "accepted selector `" ++ selector.render ++ "`" := rfl

@[simp] theorem message_rejected (text : String) (rejection : Rejection) :
    (rejected text rejection).message =
      "rejected selector " ++ Text.quote text ++ ": " ++ rejection.message := rfl

end Event

/-- The events for the clauses that a text was found to hold. -/
def clauseEvents (text : List Char) : List Event :=
  match Source.read? text with
  | none => []
  | some reading =>
    reading.clauses.map fun entry => .completed entry.1 (Source.offset text entry.2)

/-- The event for the outcome of a parse. -/
def verdict (text : String) : Event :=
  match Selector.parse text with
  | .ok selector => .accepted selector
  | .error rejection => .rejected text rejection

/-- Everything that parsing a text puts on record, in order. -/
def journal (text : String) : List Event :=
  clauseEvents text.toList ++ [verdict text]

end LabelQuery
