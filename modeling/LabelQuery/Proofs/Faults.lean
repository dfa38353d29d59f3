/-
Faults of form.

For every scanner there is one inversion for its failure, which says what stood in the
text where the fault lies; beside the inversions for success these leave the scanners
folded. A fault of form never speaks of a second slash in a key, so the rejection of a
text tells by itself whether its form or a name in it was at fault
(`parse_eq_error_cause_iff`, `parse_eq_error_name_iff`).
-/

import LabelQuery.Proofs.NameDiagnosis
import LabelQuery.Proofs.ScannerSteps
import LabelQuery.Proofs.SelectorClauses

namespace LabelQuery

/-! ### Rejections -/

theorem Cause.eq_of_what_eq {cause cause' : Cause} (h : cause.what = cause'.what) :
    cause = cause' := by
  cases cause <;> cases cause' <;> simp_all [what]

/-- The rejection for a fault tells the fault and its place. -/
theorem Cause.rejection_eq_iff {cause cause' : Cause} {position position' : Nat} :
    cause.rejection position = cause'.rejection position' ↔
      cause = cause' ∧ position = position' := by
  constructor
  · intro h
    unfold Cause.rejection at h
    split at h <;> split at h
    · simp only [Rejection.operator.injEq, Remark.mk.injEq] at h
      exact ⟨eq_of_what_eq h.1, h.2⟩
    · simp at h
    · simp at h
    · simp only [Rejection.form.injEq, Remark.mk.injEq] at h
      exact ⟨eq_of_what_eq h.1, h.2⟩
  · rintro ⟨rfl, rfl⟩
    rfl

theorem Cause.rejection_ne_blank (cause : Cause) (position : Nat) :
    cause.rejection position ≠ .blank := by
  unfold Cause.rejection
  split <;> simp

theorem Cause.rejection_ne_naming (cause : Cause) (position : Nat) (name : String)
    (flaw : NameFlaw) : cause.rejection position ≠ .naming name flaw := by
  unfold Cause.rejection
  split <;> simp

namespace Naming

/-- A key is rejected under its own name, unless for a second slash. -/
theorem keyFlaw?_eq_some {key : String} {rejection : Rejection}
    (h : keyFlaw? key = some rejection) :
    (∃ flaw, rejection = .naming key flaw) ∨
      ∃ position, rejection = Cause.secondSlash.rejection position := by
  rcases keyFlaw?_eq_some_iff.mp h with ⟨_, _, _, -, -, -, rfl⟩ | ⟨flaw, rfl, -⟩
  · exact Or.inr ⟨_, rfl⟩
  · exact Or.inl ⟨flaw, rfl⟩

/-- A value is rejected under its own name. -/
theorem valueFlaw?_eq_some {value : String} {rejection : Rejection}
    (h : valueFlaw? value = some rejection) : ∃ flaw, rejection = .naming value flaw := by
  obtain ⟨flaw, rfl, -⟩ := valueFlaw?_eq_some_iff.mp h
  exact ⟨flaw, rfl⟩

end Naming

namespace Source

open LabelQuery.Text

/-! ### Scans that fail -/

theorem Scan.map_eq_error_iff {α β : Type} {f : α → β} {scan : Scan α} {fault : Fault} :
    (scan.map f).outcome = .error fault ↔ scan.outcome = .error fault := by
  cases h : scan.outcome <;> simp [Scan.map, h, Except.map]

theorem scanValues_eq_error {text : List Char} {fault : Fault}
    (h : (scanValues text).outcome = .error fault) :
    ((skipBlanks text).head? ≠ some '(' ∧ fault = ⟨.listNotOpened, skipBlanks text⟩) ∨
      ∃ inner, skipBlanks text = '(' :: inner ∧
        (scanItems true inner).outcome = .error fault := by
  unfold scanValues at h
  split at h
  · rename_i inner hopen
    exact Or.inr ⟨inner, hopen, h⟩
  · rename_i hnot
    refine Or.inl ⟨?_, (Except.error.inj h).symm⟩
    intro hhead
    obtain ⟨inner, hopen⟩ := List.head?_eq_some_iff.mp hhead
    exact hnot inner hopen

theorem scanValue_eq_error {text : List Char} {fault : Fault}
    (h : (scanValue text).outcome = .error fault) :
    (skipBlanks (takeWord text).2).head?.any isOperatorSign = true ∧
      fault = ⟨.operatorAfterValue, skipBlanks (takeWord text).2⟩ := by
  unfold scanValue at h
  dsimp only at h
  split at h
  · rename_i hsign
    exact ⟨hsign, (Except.error.inj h).symm⟩
  · simp at h

theorem scanOperator_eq_error {text : List Char} {fault : Fault}
    (h : (scanOperator text).outcome = .error fault) :
    (operatorAt (skipBlanks text)).1 = none ∧
      fault = ⟨.unknownOperator, skipBlanks text⟩ := by
  unfold scanOperator at h
  split at h
  · simp at h
  · rename_i rest hat
    exact ⟨by rw [hat], (Except.error.inj h).symm⟩

theorem scanCondition_eq_error {text : List Char} {fault : Fault}
    (h : (scanCondition text).outcome = .error fault) :
    endsClause text = false ∧
      (((operatorAt (skipBlanks text)).1 = none ∧
          fault = ⟨.unknownOperator, skipBlanks text⟩) ∨
        ∃ operator operand, operatorAt (skipBlanks text) = (some operator, operand) ∧
          (scanOperand operand operator).outcome = .error fault) := by
  unfold scanCondition at h
  split at h
  · simp at h
  · rename_i hends
    refine ⟨by simpa using hends, ?_⟩
    dsimp only at h
    split at h
    · rename_i operator hok
      refine Or.inr ⟨operator, (scanOperator text).rest, ?_, h⟩
      unfold scanOperator at hok ⊢
      split
      · rename_i found rest hat
        rw [hat] at hok
        cases hok
        exact hat
      · rename_i rest hat
        simp [hat] at hok
    · rename_i found hfault
      cases h
      exact Or.inl (scanOperator_eq_error hfault)

theorem scanClause_eq_error {text : List Char} {fault : Fault}
    (h : (scanClause text).outcome = .error fault) :
    (skipBlanks text).head? ≠ some '!' ∧
      (scanCondition (takeWord text).2).outcome = .error fault := by
  have hbang : (skipBlanks text).head? ≠ some '!' := by
    intro hhead
    obtain ⟨rest, hskip⟩ := List.head?_eq_some_iff.mp hhead
    rw [scanClause_of_bang hskip] at h
    simp at h
  refine ⟨hbang, ?_⟩
  rw [scanClause_of_key hbang] at h
  exact Scan.map_eq_error_iff.mp h

theorem afterComma?_eq_error {text : List Char} {fault : Fault}
    (h : afterComma? text = .error fault) :
    endsClause text = false ∧ fault = ⟨.clauseNotEnded, skipBlanks text⟩ := by
  unfold afterComma? at h
  split at h
  · simp at h
  · split at h <;> simp at h
  · rename_i hnil hcomma
    refine ⟨?_, (Except.error.inj h).symm⟩
    rw [Bool.eq_false_iff]
    intro hends
    rcases endsClause_iff.mp hends with hend | ⟨rest, hrest⟩
    · exact hnil hend
    · exact hcomma rest hrest

/-- Items are read to their end, or up to a character that cannot follow them. -/
theorem scanItems_eq_error {first : Bool} {text : List Char} {fault : Fault}
    (h : (scanItems first text).outcome = .error fault) :
    fault = ⟨.listNotClosed, []⟩ ∨
      fault.cause ∈ [Cause.blankInItem, .symbolInList] ∧ fault.place ≠ [] := by
  fun_induction scanItems first text with
  | case1 => exact Or.inl (Except.error.inj h).symm
  | case2 => simp at h
  | case3 first text word after rest =>
    rename_i ih
    exact ih (Scan.map_eq_error_iff.mp h)
  | case4 first text after hnil =>
    cases h
    refine Or.inr ⟨?_, hnil⟩
    dsimp only
    split <;> simp

theorem scanValues_cause_mem {text : List Char} {fault : Fault}
    (h : (scanValues text).outcome = .error fault) :
    fault.cause ∈ [Cause.listNotOpened, .listNotClosed, .blankInItem, .symbolInList] := by
  rcases scanValues_eq_error h with ⟨-, rfl⟩ | ⟨inner, -, hitems⟩
  · simp
  · rcases scanItems_eq_error hitems with rfl | ⟨hcause, -⟩
    · simp
    · exact List.mem_cons_of_mem _ (List.mem_cons_of_mem _ hcause)

/-! ### A second slash is no fault of form -/

theorem scanOperand_cause_ne {operand : List Char} {operator : Operator} {fault : Fault}
    (h : (scanOperand operand operator).outcome = .error fault) :
    fault.cause ≠ .secondSlash := by
  have hvalue (h : (scanValue operand).outcome = .error fault) : fault.cause ≠ .secondSlash := by
    obtain ⟨-, rfl⟩ := scanValue_eq_error h
    simp
  have hvalues (h : (scanValues operand).outcome = .error fault) :
      fault.cause ≠ .secondSlash := by
    intro hcause
    simpa [hcause] using scanValues_cause_mem h
  cases operator with
  | equal => exact hvalue (Scan.map_eq_error_iff.mp h)
  | doubleEqual => exact hvalue (Scan.map_eq_error_iff.mp h)
  | unequal => exact hvalue (Scan.map_eq_error_iff.mp h)
  | within => exact hvalues (Scan.map_eq_error_iff.mp h)
  | without => exact hvalues (Scan.map_eq_error_iff.mp h)

theorem scanClause_cause_ne {text : List Char} {fault : Fault}
    (h : (scanClause text).outcome = .error fault) : fault.cause ≠ .secondSlash := by
  obtain ⟨-, hcondition⟩ := scanClause_eq_error h
  rcases (scanCondition_eq_error hcondition).2 with ⟨-, rfl⟩ | ⟨operator, operand, -, hoperand⟩
  · simp
  · exact scanOperand_cause_ne hoperand

theorem readClauses_cause_ne {text : List Char} {fault : Fault}
    (h : (readClauses text).fault = some fault) : fault.cause ≠ .secondSlash := by
  fun_induction readClauses text with
  | case1 text clause found hfound =>
    cases h
    exact scanClause_cause_ne hfound
  | case2 text clause c hfound found hafter =>
    cases h
    obtain ⟨-, rfl⟩ := afterComma?_eq_error hafter
    simp
  | case3 => simp at h
  | case4 text clause c hfound next hafter others ih => exact ih h

/-! ### Texts -/

theorem form_eq_error_iff {text : List Char} {rejection : Rejection} :
    form text = .error rejection ↔
      (skipBlanks text = [] ∧ rejection = .blank) ∨
        (skipBlanks text ≠ [] ∧ ∃ fault, (readClauses text).fault = some fault ∧
          rejection = fault.rejection text) := by
  unfold form read?
  by_cases hskip : skipBlanks text = []
  · simpa [hskip] using eq_comm
  · cases hfault : (readClauses text).fault with
    | none => simp [hskip, hfault]
    | some fault => simpa [hskip, hfault] using eq_comm

end Source

namespace Selector

open Source

/-- What is wrong with a name is either that it breaks the naming rules or that it has
a second slash. -/
theorem flaw?_eq_some {s : Selector} {rejection : Rejection} (h : s.flaw? = some rejection) :
    (∃ name flaw, rejection = .naming name flaw) ∨
      ∃ position, rejection = Cause.secondSlash.rejection position := by
  rw [flaw?_eq_findSome?_clauses] at h
  obtain ⟨c, -, hc⟩ := List.exists_of_findSome?_eq_some h
  rcases Option.or_eq_some_iff.mp hc with hkey | ⟨-, hvalues⟩
  · rcases Naming.keyFlaw?_eq_some hkey with ⟨flaw, rfl⟩ | hslash
    · exact Or.inl ⟨_, flaw, rfl⟩
    · exact Or.inr hslash
  · obtain ⟨value, -, hvalue⟩ := List.exists_of_findSome?_eq_some hvalues
    obtain ⟨flaw, rfl⟩ := Naming.valueFlaw?_eq_some hvalue
    exact Or.inl ⟨_, flaw, rfl⟩

/-- A text is rejected for its form, or else for a name in it. -/
theorem parse_eq_error_iff {text : String} {rejection : Rejection} :
    parse text = .error rejection ↔
      form text.toList = .error rejection ∨
        ∃ s, form text.toList = .ok s ∧ s.flaw? = some rejection := by
  unfold parse
  cases hform : form text.toList with
  | error found => simp [Except.bind]
  | ok s =>
    cases hflaw : s.flaw? with
    | none => simp [Except.bind, checked, hflaw]
    | some found => simp [Except.bind, checked, hflaw]

/-- The verdict of a blank text. -/
theorem parse_eq_error_blank_iff {text : String} :
    parse text = .error .blank ↔ skipBlanks text.toList = [] := by
  rw [parse_eq_error_iff, form_eq_error_iff]
  constructor
  · rintro ((⟨hskip, -⟩ | ⟨-, fault, -, hblank⟩) | ⟨s, -, hflaw⟩)
    · exact hskip
    · exact absurd hblank.symm (Cause.rejection_ne_blank _ _)
    · rcases flaw?_eq_some hflaw with ⟨name, flaw, hblank⟩ | ⟨position, hblank⟩
      · simp at hblank
      · exact absurd hblank.symm (Cause.rejection_ne_blank _ _)
  · intro hskip
    exact Or.inl (Or.inl ⟨hskip, rfl⟩)

/-- The verdict of a text whose form is right while a name in it is not. -/
theorem parse_eq_error_name_iff {text : String} {rejection : Rejection}
    (hrejection : (∃ name flaw, rejection = .naming name flaw) ∨
      ∃ position, rejection = Cause.secondSlash.rejection position) :
    parse text = .error rejection ↔
      ∃ s, form text.toList = .ok s ∧ s.flaw? = some rejection := by
  rw [parse_eq_error_iff, or_iff_right]
  intro hform
  rcases form_eq_error_iff.mp hform with ⟨-, rfl⟩ | ⟨-, fault, hfault, rfl⟩
  · rcases hrejection with ⟨name, flaw, hblank⟩ | ⟨position, hblank⟩
    · simp at hblank
    · exact absurd hblank.symm (Cause.rejection_ne_blank _ _)
  · rcases hrejection with ⟨name, flaw, heq⟩ | ⟨position, heq⟩
    · exact absurd heq (Cause.rejection_ne_naming _ _ _ _)
    · exact absurd (Cause.rejection_eq_iff.mp heq).1 (readClauses_cause_ne hfault)

end Selector

end LabelQuery
