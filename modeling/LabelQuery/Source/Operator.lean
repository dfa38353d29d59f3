/-
Operators. After the blanks at the start of a text, `scanOperator` takes the longest
operator that is spelled there. Where none is, it blames the start of the spelling
and stops after as much of it as some operator begins with.
-/

import LabelQuery.Source.Scan
import LabelQuery.Source.Word

namespace LabelQuery.Source

/-- The operators of a clause that mentions values. -/
inductive Operator where
  | equal
  | doubleEqual
  | unequal
  | within
  | without
deriving DecidableEq, Repr

/-- The spelling of an operator. -/
def Operator.spelling : Operator → List Char
  | .equal => ['=']
  | .doubleEqual => ['=', '=']
  | .unequal => ['!', '=']
  | .within => ['i', 'n']
  | .without => ['n', 'o', 't', 'i', 'n']

/-- The operator at the very start of a text, if there is one, and the text after
as much of its spelling as is there. -/
def operatorAt : List Char → Option Operator × List Char
  | '=' :: '=' :: rest => (some .doubleEqual, rest)
  | '=' :: rest => (some .equal, rest)
  | '!' :: '=' :: rest => (some .unequal, rest)
  | '!' :: rest => (none, rest)
  | 'i' :: 'n' :: rest => (some .within, rest)
  | 'i' :: rest => (none, rest)
  | 'n' :: 'o' :: 't' :: 'i' :: 'n' :: rest => (some .without, rest)
  | 'n' :: 'o' :: 't' :: 'i' :: rest => (none, rest)
  | 'n' :: 'o' :: 't' :: rest => (none, rest)
  | 'n' :: 'o' :: rest => (none, rest)
  | 'n' :: rest => (none, rest)
  | rest => (none, rest)

/-- Reads an operator after the blanks at the start of a text. -/
def scanOperator (text : List Char) : Scan Operator :=
  match operatorAt (skipBlanks text) with
  | (some operator, rest) => .found operator rest
  | (none, rest) => ⟨.error ⟨.unknownOperator, skipBlanks text⟩, rest⟩

theorem operatorAt_suffix (text : List Char) : (operatorAt text).2 <:+ text := by
  fun_cases operatorAt text <;> simp [List.suffix_cons_iff]

theorem scanOperator_suffix (text : List Char) : (scanOperator text).rest <:+ text := by
  have h := (operatorAt_suffix (skipBlanks text)).trans (skipBlanks_suffix text)
  unfold scanOperator
  split <;> simp_all [Scan.found]

end LabelQuery.Source
