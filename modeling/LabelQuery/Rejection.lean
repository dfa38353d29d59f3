/-
Why a selector is turned down. A `Rejection` says that a text is blank, that its
form is wrong at some byte, or that a key or a value breaks the naming rules by some
`NameFlaw`; `Rejection.message` words it. The faults of form that this library
finds are listed by `Cause`, and `Cause.rejection` reports one of them.
-/

import LabelQuery.Text.Quoted

namespace LabelQuery

/-- What is wrong with a key or a value. Lengths and positions count characters. -/
inductive NameFlaw where
  /-- The name has no character. -/
  | empty
  /-- The part of a key before the slash has no character. -/
  | emptyPrefix
  | tooLong (length limit : Nat)
  | prefixTooLong (length limit : Nat)
  /-- The character may not stand where it stands. -/
  | misplaced (character : Char) (position : Nat)
deriving DecidableEq, Repr

/-- The wording of a name flaw, where `numbered` says which characters are quoted by
their number. -/
def NameFlaw.wording (numbered : Char → Bool) : NameFlaw → String
  | .empty => "name is empty"
  | .emptyPrefix => "key prefix is empty"
  | .tooLong length limit =>
      "name is " ++ toString length ++ " characters long; the limit is " ++ toString limit
  | .prefixTooLong length limit =>
      "key prefix is " ++ toString length ++ " characters long; the limit is " ++
        toString limit
  | .misplaced character position =>
      "invalid character " ++ Text.quoteChar numbered character ++ " at position " ++
        toString position

/-- The message of a name flaw. -/
def NameFlaw.message (flaw : NameFlaw) : String :=
  flaw.wording Text.isEscaped

/-- A remark on a text, with the number of bytes before the place it is about. -/
structure Remark where
  what : String
  position : Nat
deriving DecidableEq, Repr

/-- The wording of a remark. -/
def Remark.message (r : Remark) : String :=
  r.what ++ " at byte " ++ toString r.position ++ " (zero-based)"

/-- Why a selector is turned down. -/
inductive Rejection where
  /-- The text holds nothing but blanks. -/
  | blank
  /-- An operator is missing, unknown or out of place. -/
  | operator (remark : Remark)
  /-- The text breaks the form of a selector in some other way. -/
  | form (remark : Remark)
  /-- The key or value `name` breaks the naming rules. -/
  | naming (name : String) (flaw : NameFlaw)
deriving DecidableEq, Repr

/-- The wording of a rejection, where `numbered` says which characters are quoted by
their number. -/
def Rejection.wording (numbered : Char → Bool) : Rejection → String
  | .blank => "selector is empty"
  | .operator remark => "invalid operator: " ++ remark.message
  | .form remark => "invalid selector: " ++ remark.message
  | .naming name flaw => "invalid name `" ++ name ++ "`: " ++ flaw.wording numbered

/-- The message of a rejection. -/
def Rejection.message (rejection : Rejection) : String :=
  rejection.wording Text.isEscaped

/-- The faults of form. -/
inductive Cause where
  | unknownOperator
  | operatorAfterValue
  | clauseNotEnded
  | listNotOpened
  | listNotClosed
  | symbolInList
  | blankInItem
  | secondSlash
deriving DecidableEq, Repr

/-- The wording of a fault of form. -/
def Cause.what : Cause → String
  | .unknownOperator => "unrecognised operator"
  | .operatorAfterValue => "unexpected operator after value"
  | .clauseNotEnded => "expected ',' or end of selector"
  | .listNotOpened => "expected '(' to open value list"
  | .listNotClosed => "unterminated value list"
  | .symbolInList => "unexpected symbol in value list"
  | .blankInItem => "whitespace inside value list item"
  | .secondSlash => "key contains more than one '/'"

/-- The fault lies with an operator. -/
def Cause.isOperatorFault : Cause → Bool
  | .unknownOperator | .operatorAfterValue => true
  | _ => false

/-- The rejection for a fault of form after `position` bytes. -/
def Cause.rejection (cause : Cause) (position : Nat) : Rejection :=
  if cause.isOperatorFault then .operator ⟨cause.what, position⟩
  else .form ⟨cause.what, position⟩

end LabelQuery
