/-
Readers. A reader is a place in a source text together with at most one remembered
place. It moves by one `Action` at a time, and an action that scans for something
comes back with a `Yield`; when the scan fails the reader moves all the same, to
where the scan stopped.
-/

import LabelQuery.Source.Operator
import LabelQuery.Source.Values

namespace LabelQuery.Source

/-- A place in a text, given by what remains, and perhaps a remembered place. -/
structure Reader where
  source : List Char
  rest : List Char
  remembered : Option (List Char)
deriving DecidableEq, Repr

namespace Reader

/-- A reader at the start of a text. -/
def start (source : String) : Reader :=
  ⟨source.toList, source.toList, none⟩

/-- The number of bytes before the reader. -/
def position (r : Reader) : Nat :=
  offset r.source r.rest

/-- The character at the reader, unless it is at the end of the text. -/
def current? (r : Reader) : Option Char :=
  r.rest.head?

/-- The reader is at the end of the text. -/
def atEnd (r : Reader) : Bool :=
  r.rest.isEmpty

/-- Passes one character, if one remains. -/
def step (r : Reader) : Reader :=
  { r with rest := r.rest.tail }

/-- Remembers the place, and forgets the one remembered before. -/
def remember (r : Reader) : Reader :=
  { r with remembered := some r.rest }

/-- Goes back to the remembered place, if there is one, and forgets it. -/
def goBack (r : Reader) : Reader :=
  { r with rest := r.remembered.getD r.rest, remembered := none }

/-- Passes blanks. -/
def passBlanks (r : Reader) : Reader :=
  { r with rest := skipBlanks r.rest }

/-- Passes blanks and takes the word after them. -/
def word (r : Reader) : String × Reader :=
  (String.ofList (takeWord r.rest).1, { r with rest := (takeWord r.rest).2 })

/-- Scans from the place of the reader on, and moves it to where the scan stops. -/
def scan {α : Type} (r : Reader) (scanner : List Char → Scan α) :
    Except Rejection α × Reader :=
  ((scanner r.rest).outcome.mapError (Fault.rejection r.source),
    { r with rest := (scanner r.rest).rest })

end Reader

/-- What a reader can be told to do. -/
inductive Action where
  | look
  | step
  | remember
  | goBack
  | passBlanks
  | word
  | operator
  | values
deriving DecidableEq, Repr

/-- What an action comes back with. -/
inductive Yield where
  | nothing
  | word (word : String)
  | operator (operator : Operator)
  | values (values : List String)
  | rejection (rejection : Rejection)
deriving DecidableEq, Repr

namespace Reader

/-- One action of a reader. -/
def act (r : Reader) : Action → Yield × Reader
  | .look => (.nothing, r)
  | .step => (.nothing, r.step)
  | .remember => (.nothing, r.remember)
  | .goBack => (.nothing, r.goBack)
  | .passBlanks => (.nothing, r.passBlanks)
  | .word => (.word r.word.1, r.word.2)
  | .operator =>
    match r.scan scanOperator with
    | (.ok operator, next) => (.operator operator, next)
    | (.error rejection, next) => (.rejection rejection, next)
  | .values =>
    match r.scan scanValues with
    | (.ok values, next) => (.values values, next)
    | (.error rejection, next) => (.rejection rejection, next)

/-- What each of several actions comes back with, and where it leaves the reader. -/
def run (r : Reader) : List Action → List (Yield × Reader)
  | [] => []
  | action :: actions => r.act action :: (r.act action).2.run actions

end Reader

end LabelQuery.Source
