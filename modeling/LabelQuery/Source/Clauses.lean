/-
The clauses of a text. `scanClause` reads one clause and `afterComma?` passes the
comma after it; `readClauses` goes on so until the text is spent or breaks the form
of a selector. What it gives is a `Reading`: every clause that was completed, with
the text that remained after it, and the fault that ended the reading, if one did.
Names are not checked here.
-/

import LabelQuery.Clause
import LabelQuery.Source.Operator
import LabelQuery.Source.Values

namespace LabelQuery.Source

/-- Nothing but blanks stands before the next comma or the end of the text. -/
def endsClause (text : List Char) : Bool :=
  match skipBlanks text with
  | [] => true
  | c :: _ => c = ','

/-- Reads the value of a clause. No operator may follow it. -/
def scanValue (text : List Char) : Scan String :=
  let rest := skipBlanks (takeWord text).2
  if rest.head?.any isOperatorSign then .stopped .operatorAfterValue rest
  else .found (String.ofList (takeWord text).1) rest

/-- Reads what an operator is applied to. -/
def scanOperand (text : List Char) : Operator → Scan Condition
  | .equal | .doubleEqual => (scanValue text).map .equal
  | .unequal => (scanValue text).map .unequal
  | .within => (scanValues text).map .among
  | .without => (scanValues text).map .outside

/-- Reads the condition of a clause, which stands after its key. -/
def scanCondition (text : List Char) : Scan Condition :=
  if endsClause text then .found .present text
  else
    let operator := scanOperator text
    match operator.outcome with
    | .ok found => scanOperand operator.rest found
    | .error fault => ⟨.error fault, operator.rest⟩

/-- Reads a clause. -/
def scanClause (text : List Char) : Scan Clause :=
  match skipBlanks text with
  | '!' :: rest =>
    .found ⟨String.ofList (takeWord rest).1, .absent⟩ (takeWord rest).2
  | start =>
    (scanCondition (takeWord start).2).map fun condition =>
      ⟨String.ofList (takeWord start).1, condition⟩

/-- The text of the next clause, if one comes after the comma. -/
def afterComma? (text : List Char) : Except Fault (Option (List Char)) :=
  match skipBlanks text with
  | [] => .ok none
  | ',' :: rest =>
    match skipBlanks rest with
    | [] => .ok none
    | next => .ok (some next)
  | place => .error ⟨.clauseNotEnded, place⟩

/-- The clauses that a text was found to hold, each with the text that remained
after it, and the fault that ended the reading before the text was spent. -/
structure Reading where
  clauses : List (Clause × List Char)
  fault : Option Fault
deriving DecidableEq, Repr

theorem scanValue_suffix (text : List Char) : (scanValue text).rest <:+ text := by
  unfold scanValue
  dsimp only
  split <;> exact skipBlanks_takeWord_suffix text

theorem scanOperand_suffix (text : List Char) (operator : Operator) :
    (scanOperand text operator).rest <:+ text := by
  cases operator
  · exact scanValue_suffix text
  · exact scanValue_suffix text
  · exact scanValue_suffix text
  · exact scanValues_suffix text
  · exact scanValues_suffix text

theorem scanCondition_suffix (text : List Char) : (scanCondition text).rest <:+ text := by
  unfold scanCondition
  split
  · exact List.suffix_refl text
  · dsimp only
    split
    · exact (scanOperand_suffix _ _).trans (scanOperator_suffix text)
    · exact scanOperator_suffix text

theorem scanClause_suffix (text : List Char) : (scanClause text).rest <:+ text := by
  have hs := skipBlanks_suffix text
  unfold scanClause
  split
  · rename_i rest h
    exact (takeWord_suffix rest).trans ((List.suffix_cons _ _).trans (h ▸ hs))
  · exact (scanCondition_suffix _).trans ((takeWord_suffix _).trans hs)

/-- The comma is passed, so the text of the next clause is shorter. -/
theorem afterComma?_length_lt {text next : List Char} (h : afterComma? text = .ok (some next)) :
    next.length < text.length := by
  unfold afterComma? at h
  split at h
  · simp at h
  · rename_i rest hrest
    have hs := (skipBlanks_suffix text).length_le
    have hr := (skipBlanks_suffix rest).length_le
    rw [hrest, List.length_cons] at hs
    split at h
    · simp at h
    · simp only [Except.ok.injEq, Option.some.injEq] at h
      subst h
      omega
  · simp at h

/-- Reads the clauses of a text. -/
def readClauses (text : List Char) : Reading :=
  let clause := scanClause text
  match clause.outcome with
  | .error fault => ⟨[], some fault⟩
  | .ok found =>
    match _h : afterComma? clause.rest with
    | .error fault => ⟨[(found, clause.rest)], some fault⟩
    | .ok none => ⟨[(found, clause.rest)], none⟩
    | .ok (some next) =>
      let others := readClauses next
      ⟨(found, clause.rest) :: others.clauses, others.fault⟩
termination_by text.length
decreasing_by
  exact Nat.lt_of_lt_of_le (afterComma?_length_lt _h) (scanClause_suffix text).length_le

end LabelQuery.Source
