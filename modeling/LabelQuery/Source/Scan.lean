/-
Scans. A scan reads something off the start of a text: it comes to an outcome,
either what was read or a fault, and it leaves the rest of the text. A fault blames
a place, which need not be the one where the scan stopped.
-/

import LabelQuery.Rejection
import LabelQuery.Source.Place

namespace LabelQuery.Source

/-- A fault of form, with the text that remains from the place it blames. -/
structure Fault where
  cause : Cause
  place : List Char
deriving DecidableEq, Repr

/-- What a scan came to, and the text that it left. -/
structure Scan (α : Type) where
  outcome : Except Fault α
  rest : List Char

/-- The rejection of `source` for a fault. -/
def Fault.rejection (source : List Char) (fault : Fault) : Rejection :=
  fault.cause.rejection (offset source fault.place)

namespace Scan

/-- A scan that read `value`. -/
def found {α : Type} (value : α) (rest : List Char) : Scan α :=
  ⟨.ok value, rest⟩

/-- A scan that stopped at the place that it blames. -/
def stopped {α : Type} (cause : Cause) (place : List Char) : Scan α :=
  ⟨.error ⟨cause, place⟩, place⟩

/-- The scan that reads the same and makes something of it. -/
def map {α β : Type} (f : α → β) (scan : Scan α) : Scan β :=
  ⟨scan.outcome.map f, scan.rest⟩

@[simp] theorem map_rest {α β : Type} (f : α → β) (scan : Scan α) :
    (scan.map f).rest = scan.rest := rfl

end Scan

end LabelQuery.Source
