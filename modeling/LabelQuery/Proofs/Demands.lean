/-
What a selector demands.

A clause demands something of the label under one key, and the order and the number of its
values do not matter. `Selector.demands` is the set of what the clauses of a selector
demand, at any depth. A selector selects what meets all of its demands
(`selects_iff_demands`), so nothing else about the selector counts, and nothing about the
labels but what stands under the keys that its clauses mention (`selects_by_demands`).
-/

import LabelQuery.Proofs.SelectorClauses
import Mathlib.Data.Finset.Dedup

namespace LabelQuery

/-- What may be demanded of the label under a key, the values as a set. -/
inductive Demand where
  | present
  | absent
  | equal (value : String)
  | unequal (value : String)
  | among (values : Finset String)
  | outside (values : Finset String)
deriving DecidableEq

/-- The label under a key, if there is one, meets the demand. -/
def Demand.Met : Demand → Option String → Prop
  | .present, label => ∃ value, label = some value
  | .absent, label => label = none
  | .equal value, label => label = some value
  | .unequal value, label => label ≠ some value
  | .among values, label => ∃ value ∈ values, label = some value
  | .outside values, label => ∀ value ∈ values, label ≠ some value

/-- What a condition demands. -/
def Condition.demand : Condition → Demand
  | .present => .present
  | .absent => .absent
  | .equal value => .equal value
  | .unequal value => .unequal value
  | .among values => .among values.toFinset
  | .outside values => .outside values.toFinset

/-- What a clause demands, with the key of the label that it is about. -/
def Clause.demand (c : Clause) : String × Demand :=
  (c.key, c.condition.demand)

/-- What the clauses of a selector demand. -/
def Selector.demands (s : Selector) : Finset (String × Demand) :=
  (s.clauses.map Clause.demand).toFinset

/-! ### Meeting demands -/

/-- A condition holds of a label that meets its demand. -/
theorem Condition.holds_iff_met (condition : Condition) (label : Option String) :
    condition.holds label = true ↔ condition.demand.Met label := by
  cases condition with
  | present => simp [holds, demand, Demand.Met, Option.isSome_iff_exists]
  | absent => simp [holds, demand, Demand.Met]
  | equal value => simp [holds, demand, Demand.Met]
  | unequal value => simp [holds, demand, Demand.Met]
  | among values => cases label <;> simp [holds, demand, Demand.Met]
  | outside values =>
    cases label with
    | none => simp [holds, demand, Demand.Met]
    | some found => simpa [holds, demand, Demand.Met] using List.forall_mem_ne.symm

namespace Selector

theorem mem_demands_iff {s : Selector} {d : String × Demand} :
    d ∈ s.demands ↔ ∃ c ∈ s.clauses, c.demand = d := by
  simp [demands]

/-- What is true of every demand is true of what each clause demands. -/
theorem forall_demands_iff {s : Selector} {P : String × Demand → Prop} :
    (∀ d ∈ s.demands, P d) ↔ ∀ c ∈ s.clauses, P c.demand := by
  constructor
  · intro h c hc
    exact h c.demand (mem_demands_iff.mpr ⟨c, hc, rfl⟩)
  · rintro h d hd
    obtain ⟨c, hc, rfl⟩ := mem_demands_iff.mp hd
    exact h c hc

/-- A selector selects the labels that meet all of its demands. -/
theorem selects_iff_demands {μ : Type} [LabelMap μ] (s : Selector) (labels : μ) :
    s.selects labels = true ↔ ∀ d ∈ s.demands, d.2.Met (label? labels d.1) := by
  rw [selects_eq_all_clauses, List.all_eq_true, forall_demands_iff]
  exact forall₂_congr fun c _ => c.condition.holds_iff_met _

/-- Selectors whose clauses demand the same select the same, of any two collections of
labels that agree under the keys of those clauses. The order and the number of the
clauses, how they are joined, the order and the number of the values in a list, and the
labels under other keys do not matter. -/
theorem selects_by_demands {μ ν : Type} [LabelMap μ] [LabelMap ν] {s t : Selector}
    {labels : μ} {others : ν} (hdemands : s.demands = t.demands)
    (hlabels : ∀ c ∈ s.clauses, label? labels c.key = label? others c.key) :
    s.selects labels = t.selects others ∧
      (s.selects labels = true ↔ ∀ d ∈ s.demands, d.2.Met (label? labels d.1)) := by
  refine ⟨?_, selects_iff_demands s labels⟩
  have hmet : ∀ d ∈ s.demands, (d.2.Met (label? labels d.1) ↔ d.2.Met (label? others d.1)) := by
    rw [forall_demands_iff]
    intro c hc
    rw [Clause.demand, hlabels c hc]
  rw [Bool.eq_iff_iff, selects_iff_demands, selects_iff_demands, ← hdemands]
  exact forall₂_congr hmet

/-- Two ways to write the same demands, tried on tables of two kinds. -/
theorem selects_by_demands_nested :
    let tier : Clause := ⟨"tier", .among ["a", "b", "a"]⟩
    let tier' : Clause := ⟨"tier", .among ["b", "a"]⟩
    let zone : Clause := ⟨"zone", .absent⟩
    let s : Selector := .all [.clause tier, .all [.all [], .clause zone]]
    let t : Selector := .all [.all [.clause zone, .clause tier'], .clause tier, .clause zone]
    let labels : Std.HashMap String String := {("tier", "b")}
    let others : Std.TreeMap String String := {("tier", "b"), ("app", "web")}
    s.demands = t.demands ∧
      (∀ c ∈ s.clauses, label? labels c.key = label? others c.key) ∧
      s.selects labels = true ∧ t.selects others = true := by
  intro tier tier' zone s t labels others
  have hclauses : s.clauses = [tier, zone] := rfl
  have hdemands : s.demands = t.demands := by decide +kernel
  have hlabels : ∀ c ∈ s.clauses, label? labels c.key = label? others c.key := by
    rw [hclauses]
    simp [tier, zone, labels, others, label?]
  obtain ⟨hsame, hmet⟩ := selects_by_demands hdemands hlabels
  have hselects : s.selects labels = true := by
    rw [hmet, forall_demands_iff, hclauses]
    simp [tier, zone, labels, label?, Clause.demand, Condition.demand, Demand.Met]
  exact ⟨hdemands, hlabels, hselects, hsame ▸ hselects⟩

end Selector

end LabelQuery
