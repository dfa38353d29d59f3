/-
Cursors. A cursor is a reader that knows its place, and the one that it remembers, by a
number of bytes only. It looks up the character there whenever it needs one, and it passes
a character by adding the size of that character to the number. Operators and lists it
scans character by character, by stages that say what has been passed of them. It comes to
what a reader comes to (`Reader.Placed.act_cursor`).
-/

import LabelQuery.Source.Reader
import LabelQuery.Source.Slices

namespace LabelQuery.Source

open LabelQuery.Text

/-- A place in a text, given by the number of bytes before it, and perhaps a remembered
place. -/
structure Cursor where
  source : List Char
  position : Nat
  remembered : Option Nat
deriving DecidableEq, Repr

namespace Cursor

/-- A cursor at the start of a text. -/
def start (source : String) : Cursor :=
  ⟨source.toList, 0, none⟩

/-- The character at the cursor. There is none where the cursor is not between two
characters of the text. -/
def current? (c : Cursor) : Option Char :=
  (sliceFrom? c.source c.position).bind List.head?

/-- The cursor is behind all bytes of the text. -/
def atEnd (c : Cursor) : Bool :=
  byteLength c.source ≤ c.position

/-- Passes one character, if one is there. -/
def step (c : Cursor) : Cursor :=
  match c.current? with
  | some char => { c with position := c.position + char.utf8Size }
  | none => c

/-- Remembers the place, and forgets the one remembered before. -/
def remember (c : Cursor) : Cursor :=
  { c with remembered := some c.position }

/-- Goes back to the remembered place, if there is one, and forgets it. -/
def goBack (c : Cursor) : Cursor :=
  { c with position := c.remembered.getD c.position, remembered := none }

/-- The number of bytes that a cursor has still before it. -/
def left (c : Cursor) : Nat :=
  byteLength c.source - c.position

/-- A step brings a cursor closer to the end of the text. -/
theorem left_step_lt {c : Cursor} (h : c.current?.isSome = true) : c.step.left < c.left := by
  obtain ⟨char, hchar⟩ := Option.isSome_iff_exists.mp h
  obtain ⟨rest, hrest, hhead⟩ := Option.bind_eq_some_iff.mp hchar
  obtain ⟨before, hsource, hposition⟩ := sliceFrom?_eq_some_iff.mp hrest
  obtain ⟨tail, rfl⟩ := List.head?_eq_some_iff.mp hhead
  have hsize := char.utf8Size_pos
  rw [left, left, step, hchar]
  simp only [hsource, hposition, byteLength_append, byteLength_cons]
  omega

/-- Passes characters as long as they are of a kind. -/
def passWhile (kind : Char → Bool) (c : Cursor) : Cursor :=
  if _h : c.current?.any kind then passWhile kind c.step else c
termination_by c.left
decreasing_by exact left_step_lt (Option.isSome_of_any _h)

/-- Passes blanks. -/
def passBlanks (c : Cursor) : Cursor :=
  c.passWhile isBlank

/-- Passes blanks and takes the word after them. -/
def word (c : Cursor) : String × Cursor :=
  let start := c.passBlanks
  let stop := start.passWhile isInWord
  (String.ofList ((slice? c.source start.position stop.position).getD []), stop)

end Cursor

/-! ### Operators -/

/-- What has been passed of the spelling of an operator. -/
inductive OperatorStage where
  | nothing
  | equals
  | bang
  | i
  | n
  | no
  | not
  | noti
deriving DecidableEq, Repr

/-- What comes next in the scan for an operator. -/
inductive OperatorTurn where
  /-- The character is passed. -/
  | shift (stage : OperatorStage)
  /-- The character is passed and completes the operator. -/
  | accept (operator : Operator)
  /-- The operator was complete before the character. -/
  | stop (operator : Operator)
  | reject
deriving DecidableEq, Repr

/-- How the scan for an operator goes on at a character, or at the end of the text. -/
def OperatorStage.turn : OperatorStage → Option Char → OperatorTurn
  | .nothing, some '=' => .shift .equals
  | .nothing, some '!' => .shift .bang
  | .nothing, some 'i' => .shift .i
  | .nothing, some 'n' => .shift .n
  | .equals, some '=' => .accept .doubleEqual
  | .equals, _ => .stop .equal
  | .bang, some '=' => .accept .unequal
  | .i, some 'n' => .accept .within
  | .n, some 'o' => .shift .no
  | .no, some 't' => .shift .not
  | .not, some 'i' => .shift .noti
  | .noti, some 'n' => .accept .without
  | _, _ => .reject

theorem OperatorStage.isSome_of_shift {stage next : OperatorStage} {char? : Option Char}
    (h : stage.turn char? = .shift next) : char?.isSome = true := by
  cases char? with
  | some char => rfl
  | none => cases stage <;> cases h

namespace Cursor

/-- Goes through the spelling of an operator from a stage on. -/
def spell (stage : OperatorStage) (c : Cursor) : Option Operator × Cursor :=
  match _h : stage.turn c.current? with
  | .shift next => c.step.spell next
  | .accept operator => (some operator, c.step)
  | .stop operator => (some operator, c)
  | .reject => (none, c)
termination_by c.left
decreasing_by exact left_step_lt (OperatorStage.isSome_of_shift _h)

/-- Passes blanks and reads an operator after them. -/
def operator (c : Cursor) : Except Rejection Operator × Cursor :=
  let start := c.passBlanks
  match start.spell .nothing with
  | (some found, next) => (.ok found, next)
  | (none, next) => (.error (Cause.unknownOperator.rejection start.position), next)

end Cursor

/-! ### Lists -/

/-- Where the scan of a list is. -/
inductive ListStage where
  | unopened
  | inItem
  /-- Behind the opening parenthesis or a comma, and perhaps behind blanks. -/
  | afterSign
  /-- Behind a blank that follows an item. -/
  | afterItem
deriving DecidableEq, Repr

/-- What has been read of a list: the values, and the item that is not complete. -/
structure ListDraft where
  stage : ListStage
  values : List String
  item : List Char
deriving DecidableEq, Repr

/-- What comes next in the scan of a list. -/
inductive ListTurn where
  /-- The character is passed. -/
  | next (draft : ListDraft)
  /-- The character is passed and closes the list. -/
  | done (values : List String)
  | fault (cause : Cause)
deriving DecidableEq, Repr

namespace ListDraft

/-- The item is complete, and another one is to come. -/
def cut (d : ListDraft) : ListDraft :=
  ⟨.afterSign, d.values ++ [String.ofList d.item], []⟩

/-- The item goes on with a character. -/
def push (d : ListDraft) (char : Char) : ListDraft :=
  ⟨.inItem, d.values, d.item ++ [char]⟩

/-- How the scan of a list goes on at a character. -/
def turn (d : ListDraft) (char : Char) : ListTurn :=
  match d.stage with
  | .unopened =>
    if char = '(' then .next { d with stage := .afterSign }
    else if isBlank char then .next d
    else .fault .listNotOpened
  | .afterSign =>
    if char = ')' then .done (if d.values.isEmpty then d.values else d.values ++ [""])
    else if char = ',' then .next { d with values := d.values ++ [""] }
    else if isBlank char then .next d
    else if isDelimiter char then .fault .symbolInList
    else .next (d.push char)
  | .inItem =>
    if char = ')' then .done d.cut.values
    else if char = ',' then .next d.cut
    else if isBlank char then .next { d with stage := .afterItem }
    else if isDelimiter char then .fault .symbolInList
    else .next (d.push char)
  | .afterItem =>
    if char = ')' then .done d.cut.values
    else if char = ',' then .next d.cut
    else if isBlank char then .next d
    else .fault .blankInItem

/-- What is missing where the text ends. -/
def missing (d : ListDraft) : Cause :=
  match d.stage with
  | .unopened => .listNotOpened
  | _ => .listNotClosed

end ListDraft

namespace Cursor

/-- Goes through a list from a draft of it on. -/
def list (d : ListDraft) (c : Cursor) : Except Rejection (List String) × Cursor :=
  match _h : c.current? with
  | none => (.error (d.missing.rejection c.position), c)
  | some char =>
    match d.turn char with
    | .next d => c.step.list d
    | .done values => (.ok values, c.step)
    | .fault cause => (.error (cause.rejection c.position), c)
termination_by c.left
decreasing_by exact left_step_lt (by rw [_h]; rfl)

/-- Reads a list after blanks. -/
def values (c : Cursor) : Except Rejection (List String) × Cursor :=
  c.list ⟨.unopened, [], []⟩

/-- One action of a cursor. -/
def act (c : Cursor) : Action → Yield × Cursor
  | .look => (.nothing, c)
  | .step => (.nothing, c.step)
  | .remember => (.nothing, c.remember)
  | .goBack => (.nothing, c.goBack)
  | .passBlanks => (.nothing, c.passBlanks)
  | .word => (.word c.word.1, c.word.2)
  | .operator =>
    match c.operator with
    | (.ok operator, next) => (.operator operator, next)
    | (.error rejection, next) => (.rejection rejection, next)
  | .values =>
    match c.values with
    | (.ok values, next) => (.values values, next)
    | (.error rejection, next) => (.rejection rejection, next)

/-- What each of several actions comes back with, and where it leaves the cursor. -/
def run (c : Cursor) : List Action → List (Yield × Cursor)
  | [] => []
  | action :: actions => c.act action :: (c.act action).2.run actions

end Cursor

end LabelQuery.Source
