/-
Selectors in transit. A selector travels as its text; `Wire.decode` takes it back and
turns down any other kind of value, naming what it found.
-/

import LabelQuery.Foreign
import LabelQuery.Parse

namespace LabelQuery

/-- A value that may arrive where a selector is expected. -/
inductive Wire where
  | text (value : String)
  | foreign (value : Foreign)

/-- Why a value is not a selector. -/
inductive WireError where
  /-- The value is not a text. -/
  | unexpected (value : Foreign)
  | rejected (rejection : Rejection)

/-- The wording of a wire error. -/
def WireError.message : WireError → String
  | .unexpected value =>
      "invalid type: " ++ value.name ++ ", expected a label selector string"
  | .rejected rejection => rejection.message

namespace Wire

/-- The value that a selector travels as. -/
def encode (s : Selector) : Wire :=
  .text s.render

/-- The selector that a value carries. -/
def decode : Wire → Except WireError Selector
  | .text value => (Selector.parse value).mapError .rejected
  | .foreign value => .error (.unexpected value)

end Wire

end LabelQuery
