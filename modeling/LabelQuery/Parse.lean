/-
Parsing. `Selector.parse` takes two steps: `Source.form` finds the clauses of a text
and joins them, or says where the text breaks the form of a selector, and
`Selector.checked` then checks names. A fault of form is therefore reported before
any flaw of a name, wherever the two stand.
-/

import LabelQuery.Selector
import LabelQuery.Source.Clauses

namespace LabelQuery

namespace Source

/-- The reading of a text that holds something besides blanks. -/
def read? (text : List Char) : Option Reading :=
  if (skipBlanks text).isEmpty then none else some (readClauses text)

/-- The selector that a text spells, its names unchecked. -/
def form (text : List Char) : Except Rejection Selector :=
  match read? text with
  | none => .error .blank
  | some reading =>
    match reading.fault with
    | some fault => .error (fault.rejection text)
    | none => .ok (.collect (reading.clauses.map fun entry => .clause entry.1))

end Source

namespace Selector

/-- The selector itself, if its names follow the rules. -/
def checked (s : Selector) : Except Rejection Selector :=
  match s.flaw? with
  | some rejection => .error rejection
  | none => .ok s

/-- The selector that a text spells. -/
def parse (text : String) : Except Rejection Selector :=
  (Source.form text.toList).bind checked

end Selector

end LabelQuery
