/-
Tables of code points. A table lists ranges in ascending order. `Ranges.covers`
asks whether some range of a table holds a character; two tables that lie
`Ranges.apart` cover no common character (`not_covers_of_apart`).
-/

namespace LabelQuery.Text

/-- Code point ranges, each given by its first and its last code point. -/
abbrev Ranges := List (Nat × Nat)

/-- Some range of the table holds the character. -/
def Ranges.covers (table : Ranges) (c : Char) : Bool :=
  table.any fun range => decide (range.1 ≤ c.toNat) && decide (c.toNat ≤ range.2)

/-- Every range of one table ends before, or starts after, every range of the
other. -/
def Ranges.apart (table other : Ranges) : Bool :=
  table.all fun r => other.all fun s => decide (r.2 < s.1) || decide (s.2 < r.1)

theorem Ranges.covers_iff {table : Ranges} {c : Char} :
    table.covers c = true ↔ ∃ range ∈ table, range.1 ≤ c.toNat ∧ c.toNat ≤ range.2 := by
  simp [Ranges.covers]

/-- Tables that lie apart have no character in common. -/
theorem Ranges.not_covers_of_apart {table other : Ranges} {c : Char}
    (happart : table.apart other = true) (hc : table.covers c = true) :
    other.covers c = false := by
  rw [Bool.eq_false_iff]
  intro ho
  obtain ⟨r, hr, hr₁, hr₂⟩ := Ranges.covers_iff.mp hc
  obtain ⟨s, hs, hs₁, hs₂⟩ := Ranges.covers_iff.mp ho
  simp only [Ranges.apart, List.all_eq_true, Bool.or_eq_true, decide_eq_true_eq] at happart
  rcases happart r hr s hs with h | h <;> omega

end LabelQuery.Text
