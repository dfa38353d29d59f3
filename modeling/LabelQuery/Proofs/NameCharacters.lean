/-
What names are made of.

The naming rules allow letters, digits and a handful of symbols, and all of these
are word characters. So a key without a flaw is a word that is not empty, and a
value without a flaw is a word (`isWord_of_keyFlaw?_eq_none`,
`isWord_of_valueFlaw?_eq_none`): wherever one of them stands in a text, the scanners
take it whole.
-/

import LabelQuery.Proofs.NamingRules
import LabelQuery.Proofs.Words

namespace LabelQuery.Naming

open LabelQuery.Text LabelQuery.Source

theorem Permitted.isInWord {symbols : List Char} (hsymbols : IsWord symbols) {c : Char}
    (h : Permitted symbols c) : isInWord c = true := by
  rcases h with h | h
  · exact isInWord_of_isAlphanumeric h
  · exact hsymbols c h

theorem Framed.isWord {symbols name : List Char} (h : Framed symbols name)
    (hsymbols : IsWord symbols) : IsWord name := by
  intro c hc
  exact (h.permitted c hc).isInWord hsymbols

theorem IsKeyPrefix.isWord {text : List Char} (h : IsKeyPrefix text) : IsWord text := by
  intro c hc
  rcases h.permitted c hc with rfl | hpermitted
  · rfl
  · exact hpermitted.isInWord (by decide)

theorem IsKeyName.isWord {name : List Char} (h : IsKeyName name) : IsWord name :=
  h.framed.isWord (by decide)

theorem IsKey.isWord {key : List Char} (h : IsKey key) : key ≠ [] ∧ IsWord key := by
  cases h with
  | name hname => exact ⟨hname.framed.ne_nil, hname.isWord⟩
  | prefixed hbefore hname =>
    refine ⟨by simp, ?_⟩
    intro c hc
    rcases List.mem_append.mp hc with hc | hc
    · exact hbefore.isWord c hc
    · rcases List.mem_cons.mp hc with rfl | hc
      · rfl
      · exact hname.isWord c hc

theorem IsValue.isWord {value : List Char} (h : IsValue value) : IsWord value := by
  cases h with
  | empty => simp [IsWord]
  | name _ hframed => exact hframed.isWord (by decide)

/-- A key without a flaw is a word, and it is not empty. -/
theorem isWord_of_keyFlaw?_eq_none {key : String} (h : keyFlaw? key = none) :
    key.toList ≠ [] ∧ IsWord key.toList :=
  (keyFlaw?_eq_none_iff.mp h).isWord

/-- A value without a flaw is a word. -/
theorem isWord_of_valueFlaw?_eq_none {value : String} (h : valueFlaw? value = none) :
    IsWord value.toList :=
  (valueFlaw?_eq_none_iff.mp h).isWord

/-- Nothing is wrong with the empty value. -/
theorem valueFlaw?_empty : valueFlaw? "" = none := by
  rfl

end LabelQuery.Naming
