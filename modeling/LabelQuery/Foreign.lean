/-
Foreign values. Selectors travel in documents, which another library reads and writes.
This module and those of its folder stand in for that library, as far as its answers show
in a diagnostic: what a value that is not a text is called, what a numeral is read as, and
how a floating point number is written. They are no part of the theory of selectors: no
theorem depends on how these functions are defined.
-/

import LabelQuery.Foreign.Layout
import LabelQuery.Foreign.Numeral

namespace LabelQuery

/-- A value that is not a text. -/
inductive Foreign where
  | null
  | boolean (value : Bool)
  | integer (value : Int)
  | floating (value : Float)
  | sequence
  | map

/-- What a value that is not a text is called in a diagnostic. -/
def Foreign.name : Foreign → String
  | .null => "null"
  | .boolean value => "boolean `" ++ toString value ++ "`"
  | .integer value => "integer `" ++ toString value ++ "`"
  | .floating value => "floating point `" ++ Decimal.floating.writeFloat value ++ "`"
  | .sequence => "sequence"
  | .map => "map"

/-- What a numeral stands for: an integer where it can, else a floating point
number. -/
def Foreign.ofNumeral (n : Numeral) : Foreign :=
  match n.integer? with
  | some value => .integer value
  | none => .floating n.float

end LabelQuery
