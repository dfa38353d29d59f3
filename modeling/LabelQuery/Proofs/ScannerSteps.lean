/-
What one scanner does, branch by branch.

For every scanner there is one lemma for each way it can go on, from which its result
can be computed, and one inversion for its success, which says everything that must
then have held of the text. Proofs about readings go through these lemmas and leave
the scanners folded.
-/

import LabelQuery.Parse
import LabelQuery.Proofs.Words

namespace LabelQuery.Source

open LabelQuery.Text

/-! ### Scans -/

namespace Scan

variable {α β : Type}

@[simp] theorem found_outcome (a : α) (rest : List Char) : (found a rest).outcome = .ok a := rfl

@[simp] theorem found_rest (a : α) (rest : List Char) : (found a rest).rest = rest := rfl

theorem eq_found_iff {scan : Scan α} {a : α} {rest : List Char} :
    scan = .found a rest ↔ scan.outcome = .ok a ∧ scan.rest = rest := by
  cases scan
  simp [found]

theorem eq_found_of_outcome {scan : Scan α} {a : α} (h : scan.outcome = .ok a) :
    scan = .found a scan.rest :=
  eq_found_iff.mpr ⟨h, rfl⟩

@[simp] theorem found_inj {a b : α} {rest rest' : List Char} :
    found a rest = found b rest' ↔ a = b ∧ rest = rest' := by
  simp [found]

@[simp] theorem stopped_ne_found {cause : Cause} {place : List Char} {a : α}
    {rest : List Char} : stopped cause place ≠ found a rest := by
  simp [stopped, found]

@[simp] theorem map_found (f : α → β) (a : α) (rest : List Char) :
    (found a rest).map f = found (f a) rest := rfl

theorem map_id (scan : Scan α) : scan.map id = scan := by
  obtain ⟨outcome, rest⟩ := scan
  cases outcome <;> rfl

theorem map_map {γ : Type} (f : α → β) (g : β → γ) (scan : Scan α) :
    (scan.map f).map g = scan.map (g ∘ f) := by
  obtain ⟨outcome, rest⟩ := scan
  cases outcome <;> rfl

theorem map_eq_found_iff {f : α → β} {scan : Scan α} {b : β} {rest : List Char} :
    scan.map f = .found b rest ↔ ∃ a, scan = .found a rest ∧ f a = b := by
  constructor
  · intro h
    obtain ⟨houtcome, hrest⟩ := eq_found_iff.mp h
    cases ha : scan.outcome with
    | error fault => simp [map, ha, Except.map] at houtcome
    | ok a =>
      refine ⟨a, eq_found_iff.mpr ⟨ha, hrest⟩, ?_⟩
      simpa [map, ha, Except.map] using houtcome
  · rintro ⟨a, rfl, rfl⟩
    rfl

end Scan

/-! ### Lists of values -/

theorem scanItems_of_close {first : Bool} {text rest : List Char}
    (h : skipBlanks (takeWord text).2 = ')' :: rest) :
    scanItems first text =
      .found (if first && (takeWord text).1.isEmpty then []
        else [String.ofList (takeWord text).1]) rest := by
  rw [scanItems]
  split <;> simp_all

theorem scanItems_of_comma {first : Bool} {text rest : List Char}
    (h : skipBlanks (takeWord text).2 = ',' :: rest) :
    scanItems first text = (scanItems false rest).map (String.ofList (takeWord text).1 :: ·) := by
  rw [scanItems]
  split <;> simp_all

/-- Nothing but a comma or the closing parenthesis may follow an item. -/
theorem scanItems_of_stop {first : Bool} {text : List Char} {d : Char} {rest : List Char}
    (h : skipBlanks (takeWord text).2 = d :: rest) (hclose : d ≠ ')') (hcomma : d ≠ ',') :
    scanItems first text = .stopped
      (if (takeWord text).2.head?.any isBlank then .blankInItem else .symbolInList)
      (d :: rest) := by
  rw [scanItems]
  split
  · rename_i hnil
    cases hnil.symm.trans h
  · rename_i hskip
    exact absurd (List.cons.inj (h.symm.trans hskip)).1 hclose
  · rename_i hskip
    exact absurd (List.cons.inj (h.symm.trans hskip)).1 hcomma
  · rw [h]

/-- What ends a list neither well nor early is some other character. -/
theorem exists_cons_of_stop {text : List Char} (hnil : text ≠ [])
    (hclose : ∀ rest, text ≠ ')' :: rest) (hcomma : ∀ rest, text ≠ ',' :: rest) :
    ∃ d rest, text = d :: rest ∧ d ≠ ')' ∧ d ≠ ',' := by
  obtain ⟨d, rest, rfl⟩ := List.exists_cons_of_ne_nil hnil
  refine ⟨d, rest, rfl, ?_, ?_⟩
  · rintro rfl
    exact hclose rest rfl
  · rintro rfl
    exact hcomma rest rfl

theorem scanItems_of_end {first : Bool} {text : List Char}
    (h : skipBlanks (takeWord text).2 = []) :
    scanItems first text = .stopped .listNotClosed [] := by
  rw [scanItems]
  split <;> simp_all

theorem scanValues_of_open {text rest : List Char} (h : skipBlanks text = '(' :: rest) :
    scanValues text = scanItems true rest := by
  unfold scanValues
  rw [h]
  rfl

theorem scanValues_of_not_open {text : List Char} (h : (skipBlanks text).head? ≠ some '(') :
    scanValues text = .stopped .listNotOpened (skipBlanks text) := by
  unfold scanValues
  split
  · rename_i inner hopen
    simp [hopen] at h
  · rfl

theorem scanValues_eq_found {text rest : List Char} {values : List String}
    (h : scanValues text = .found values rest) :
    ∃ inner, skipBlanks text = '(' :: inner ∧ scanItems true inner = .found values rest := by
  unfold scanValues at h
  split at h
  · rename_i inner hopen
    exact ⟨inner, hopen, h⟩
  · simp at h

/-! ### Operators -/

/-- The longest operator is taken, so an equals sign alone must be followed by none. -/
theorem operatorAt_spelling (operator : Operator) {rest : List Char}
    (hlongest : operator = .equal → rest.head? ≠ some '=') :
    operatorAt (operator.spelling ++ rest) = (some operator, rest) := by
  cases operator with
  | equal =>
    have hne := hlongest rfl
    simp only [Operator.spelling, List.singleton_append]
    unfold operatorAt
    split <;> simp_all
  | doubleEqual => rfl
  | unequal => rfl
  | within => rfl
  | without => rfl

theorem operatorAt_eq_some {text rest : List Char} {operator : Operator}
    (h : operatorAt text = (some operator, rest)) : text = operator.spelling ++ rest := by
  unfold operatorAt at h
  split at h <;> cases h <;> rfl

/-- Where an operator is spelled one is found, if perhaps a longer one. -/
theorem operatorAt_spelling_ne_none (operator : Operator) (rest : List Char) :
    (operatorAt (operator.spelling ++ rest)).1 ≠ none := by
  by_cases hdoubled : operator = .equal ∧ rest.head? = some '='
  · obtain ⟨rfl, hhead⟩ := hdoubled
    obtain ⟨tail, rfl⟩ := List.head?_eq_some_iff.mp hhead
    simp [Operator.spelling, operatorAt]
  · rw [operatorAt_spelling operator fun hequal hhead => hdoubled ⟨hequal, hhead⟩]
    simp

/-- The longest operator was taken. -/
theorem head?_ne_equals_of_operatorAt {text operand : List Char}
    (h : operatorAt text = (some .equal, operand)) : operand.head? ≠ some '=' := by
  intro hhead
  obtain ⟨tail, rfl⟩ := List.head?_eq_some_iff.mp hhead
  rw [operatorAt_eq_some h] at h
  cases h

theorem scanOperator_of_spelling {text rest : List Char} {operator : Operator}
    (h : operatorAt (skipBlanks text) = (some operator, rest)) :
    scanOperator text = .found operator rest := by
  unfold scanOperator
  rw [h]

theorem scanOperator_of_unknown {text rest : List Char}
    (h : operatorAt (skipBlanks text) = (none, rest)) :
    scanOperator text = ⟨.error ⟨.unknownOperator, skipBlanks text⟩, rest⟩ := by
  unfold scanOperator
  rw [h]

theorem scanOperator_eq_ok {text : List Char} {operator : Operator}
    (h : (scanOperator text).outcome = .ok operator) :
    skipBlanks text = operator.spelling ++ (scanOperator text).rest := by
  unfold scanOperator at h ⊢
  split
  · rename_i found rest hat
    rw [hat] at h
    cases h
    exact operatorAt_eq_some hat
  · rename_i rest hat
    simp [hat] at h

/-! ### Clauses -/

theorem endsClause_iff {text : List Char} :
    endsClause text = true ↔ skipBlanks text = [] ∨ ∃ rest, skipBlanks text = ',' :: rest := by
  unfold endsClause
  split
  · rename_i h
    simp [h]
  · rename_i c rest h
    simp [h]

theorem endsClause_eq (text : List Char) :
    endsClause text = (skipBlanks text).head?.all (· = ',') := by
  unfold endsClause
  split <;> simp_all

theorem endsClause_congr {text text' : List Char}
    (h : (skipBlanks text).head? = (skipBlanks text').head?) :
    endsClause text = endsClause text' := by
  rw [endsClause_eq, endsClause_eq, h]

theorem scanValue_of_not_sign {text : List Char}
    (h : (skipBlanks (takeWord text).2).head?.any isOperatorSign = false) :
    scanValue text = .found (String.ofList (takeWord text).1) (skipBlanks (takeWord text).2) := by
  unfold scanValue
  simp [h]

theorem scanValue_of_sign {text : List Char}
    (h : (skipBlanks (takeWord text).2).head?.any isOperatorSign = true) :
    scanValue text = .stopped .operatorAfterValue (skipBlanks (takeWord text).2) := by
  unfold scanValue
  simp [h]

theorem not_sign_of_scanValue {text rest : List Char} {value : String}
    (h : scanValue text = .found value rest) :
    (skipBlanks (takeWord text).2).head?.any isOperatorSign = false := by
  rw [Bool.eq_false_iff]
  intro hsign
  rw [scanValue_of_sign hsign] at h
  exact Scan.stopped_ne_found h

theorem scanValue_eq_found {text rest : List Char} {value : String}
    (h : scanValue text = .found value rest) :
    value = String.ofList (takeWord text).1 ∧ rest = skipBlanks (takeWord text).2 := by
  unfold scanValue at h
  dsimp only at h
  split at h
  · simp at h
  · obtain ⟨hvalue, hrest⟩ := Scan.found_inj.mp h
    exact ⟨hvalue.symm, hrest.symm⟩

/-- What an operator is applied to is a value or a list. Only a value can follow the
sign that may be doubled. -/
theorem scanOperand_eq_map (operator : Operator) :
    (∃ condition, ∀ text, scanOperand text operator = (scanValue text).map condition) ∨
      (operator ≠ .equal ∧
        ∃ condition, ∀ text, scanOperand text operator = (scanValues text).map condition) := by
  cases operator with
  | equal => exact Or.inl ⟨.equal, fun _ => rfl⟩
  | doubleEqual => exact Or.inl ⟨.equal, fun _ => rfl⟩
  | unequal => exact Or.inl ⟨.unequal, fun _ => rfl⟩
  | within => exact Or.inr ⟨by simp, .among, fun _ => rfl⟩
  | without => exact Or.inr ⟨by simp, .outside, fun _ => rfl⟩

theorem scanCondition_of_ends {text : List Char} (h : endsClause text = true) :
    scanCondition text = .found .present text := by
  unfold scanCondition
  rw [if_pos h]

theorem scanCondition_of_operator {text rest : List Char} {operator : Operator}
    (hends : endsClause text = false) (h : scanOperator text = .found operator rest) :
    scanCondition text = scanOperand rest operator := by
  unfold scanCondition
  simp [hends, h, Scan.found]

theorem scanCondition_of_unknown {text : List Char} (hends : endsClause text = false)
    (hnone : (operatorAt (skipBlanks text)).1 = none) :
    (scanCondition text).outcome = .error ⟨.unknownOperator, skipBlanks text⟩ := by
  unfold scanCondition
  simp [hends, scanOperator_of_unknown (Prod.ext hnone rfl)]

theorem scanCondition_eq_found {text rest : List Char} {condition : Condition}
    (h : scanCondition text = .found condition rest) :
    (condition = .present ∧ rest = text) ∨
      ∃ operator after, skipBlanks text = operator.spelling ++ after ∧
        scanOperand after operator = .found condition rest := by
  unfold scanCondition at h
  split at h
  · obtain ⟨hcondition, hrest⟩ := Scan.found_inj.mp h
    exact Or.inl ⟨hcondition.symm, hrest.symm⟩
  · dsimp only at h
    split at h
    · rename_i operator hok
      exact Or.inr ⟨operator, _, scanOperator_eq_ok hok, h⟩
    · simp [Scan.found] at h

theorem takeWord_skipBlanks (text : List Char) : takeWord (skipBlanks text) = takeWord text := by
  unfold takeWord
  rw [skipBlanks_skipBlanks]

theorem scanClause_of_bang {text rest : List Char} (h : skipBlanks text = '!' :: rest) :
    scanClause text =
      .found ⟨String.ofList (takeWord rest).1, .absent⟩ (takeWord rest).2 := by
  unfold scanClause
  rw [h]
  rfl

theorem scanClause_of_key {text : List Char} (h : (skipBlanks text).head? ≠ some '!') :
    scanClause text = (scanCondition (takeWord text).2).map
      fun condition => ⟨String.ofList (takeWord text).1, condition⟩ := by
  unfold scanClause
  split
  · rename_i rest hbang
    simp [hbang] at h
  · rw [takeWord_skipBlanks]

theorem scanClause_eq_found {text rest : List Char} {c : Clause}
    (h : scanClause text = .found c rest) :
    (∃ after, skipBlanks text = '!' :: after ∧
        c = ⟨String.ofList (takeWord after).1, .absent⟩ ∧ rest = (takeWord after).2) ∨
      (c.key = String.ofList (takeWord text).1 ∧
        scanCondition (takeWord text).2 = .found c.condition rest) := by
  by_cases hbang : (skipBlanks text).head? = some '!'
  · obtain ⟨after, hskip⟩ := List.head?_eq_some_iff.mp hbang
    rw [scanClause_of_bang hskip] at h
    obtain ⟨hc, hrest⟩ := Scan.found_inj.mp h
    exact Or.inl ⟨after, hskip, hc.symm, hrest.symm⟩
  · rw [scanClause_of_key hbang] at h
    obtain ⟨condition, hscan, rfl⟩ := Scan.map_eq_found_iff.mp h
    exact Or.inr ⟨rfl, hscan⟩

/-! ### Commas between clauses -/

/-- What comes after a clause is judged by the text after the blanks. -/
theorem afterComma?_congr {text text' : List Char} (h : skipBlanks text = skipBlanks text') :
    afterComma? text = afterComma? text' := by
  unfold afterComma?
  rw [h]

theorem afterComma?_of_end {text : List Char} (h : skipBlanks text = []) :
    afterComma? text = .ok none := by
  unfold afterComma?
  rw [h]

theorem afterComma?_of_comma {text rest : List Char} (h : skipBlanks text = ',' :: rest) :
    afterComma? text =
      .ok (if skipBlanks rest = [] then none else some (skipBlanks rest)) := by
  unfold afterComma?
  split
  · simp_all
  · rename_i found hfound
    cases h.symm.trans hfound
    split <;> simp_all
  · simp_all

theorem afterComma?_of_not_ends {text : List Char} (h : endsClause text = false) :
    afterComma? text = .error ⟨.clauseNotEnded, skipBlanks text⟩ := by
  rw [endsClause_eq] at h
  unfold afterComma?
  split
  · rename_i hnil
    simp [hnil] at h
  · rename_i rest hcomma
    simp [hcomma] at h
  · rfl

theorem afterComma?_eq_none {text : List Char} (h : afterComma? text = .ok none) :
    skipBlanks text = [] ∨ ∃ rest, skipBlanks text = ',' :: rest ∧ skipBlanks rest = [] := by
  unfold afterComma? at h
  split at h
  · rename_i hend
    exact Or.inl hend
  · rename_i rest hcomma
    split at h
    · rename_i hend
      exact Or.inr ⟨rest, hcomma, hend⟩
    · simp at h
  · simp at h

theorem afterComma?_eq_some {text next : List Char} (h : afterComma? text = .ok (some next)) :
    ∃ rest, skipBlanks text = ',' :: rest ∧ skipBlanks rest = next := by
  unfold afterComma? at h
  split at h
  · simp at h
  · rename_i rest hcomma
    split at h
    · simp at h
    · exact ⟨rest, hcomma, by simpa using h⟩
  · simp at h

/-- The next clause stands behind the comma, so something stands before it. -/
theorem exists_append_of_afterComma? {text next : List Char}
    (h : afterComma? text = .ok (some next)) : ∃ before, before ≠ [] ∧ text = before ++ next := by
  obtain ⟨more, hcomma, rfl⟩ := afterComma?_eq_some h
  obtain ⟨gap, -, htext⟩ := exists_blanks_append_skipBlanks text
  obtain ⟨gap', -, hmore⟩ := exists_blanks_append_skipBlanks more
  refine ⟨gap ++ ',' :: gap', by simp, ?_⟩
  rw [List.append_assoc, List.cons_append, ← hmore, ← hcomma]
  exact htext

theorem suffix_of_afterComma? {text next : List Char} (h : afterComma? text = .ok (some next)) :
    next <:+ text := by
  obtain ⟨before, -, rfl⟩ := exists_append_of_afterComma? h
  exact List.suffix_append before next

/-- A clause stands behind a comma only where something besides blanks does. -/
theorem ne_nil_of_afterComma? {text next : List Char} (h : afterComma? text = .ok (some next)) :
    skipBlanks next ≠ [] := by
  obtain ⟨rest, hcomma, rfl⟩ := afterComma?_eq_some h
  rw [skipBlanks_skipBlanks]
  intro hnil
  rw [afterComma?_of_comma hcomma, if_pos hnil] at h
  simp at h

/-! ### Readings -/

theorem readClauses_of_error {text : List Char} {fault : Fault}
    (h : (scanClause text).outcome = .error fault) : readClauses text = ⟨[], some fault⟩ := by
  rw [readClauses]
  simp only [h]

theorem readClauses_of_not_ended {text rest : List Char} {c : Clause}
    (hclause : scanClause text = .found c rest) (hends : endsClause rest = false) :
    readClauses text = ⟨[(c, rest)], some ⟨.clauseNotEnded, skipBlanks rest⟩⟩ := by
  have hafter := afterComma?_of_not_ends hends
  rw [readClauses]
  simp only [hclause, Scan.found_outcome]
  split <;> simp_all

theorem readClauses_of_last {text rest : List Char} {c : Clause}
    (hclause : scanClause text = .found c rest) (hafter : afterComma? rest = .ok none) :
    readClauses text = ⟨[(c, rest)], none⟩ := by
  rw [readClauses]
  simp only [hclause, Scan.found_outcome]
  split <;> simp_all

theorem readClauses_of_next {text rest next : List Char} {c : Clause}
    (hclause : scanClause text = .found c rest) (hafter : afterComma? rest = .ok (some next)) :
    readClauses text =
      ⟨(c, rest) :: (readClauses next).clauses, (readClauses next).fault⟩ := by
  rw [readClauses]
  simp only [hclause, Scan.found_outcome]
  split <;> simp_all

/-- A selector is found where something besides blanks stands and no fault ends the
reading. -/
theorem form_eq_ok_iff {text : List Char} {s : Selector} :
    form text = .ok s ↔
      skipBlanks text ≠ [] ∧ (readClauses text).fault = none ∧
        s = .collect (((readClauses text).clauses.map Prod.fst).map .clause) := by
  unfold form read?
  by_cases hskip : skipBlanks text = []
  · simp [hskip]
  · cases hfault : (readClauses text).fault with
    | none =>
      simp only [List.isEmpty_iff, hskip, ↓reduceIte, hfault, Except.ok.injEq, ne_eq,
        not_false_eq_true, true_and, List.map_map]
      exact eq_comm
    | some fault => simp [hskip, hfault]

end LabelQuery.Source

namespace LabelQuery.Selector

/-- A text is accepted where it has the form of a selector whose names have no flaw. -/
theorem parse_eq_ok_iff {text : String} {s : Selector} :
    parse text = .ok s ↔ Source.form text.toList = .ok s ∧ s.flaw? = none := by
  unfold parse
  cases hform : Source.form text.toList with
  | error rejection => simp [Except.bind]
  | ok found =>
    cases hflaw : found.flaw? with
    | none =>
      have hchecked : checked found = .ok found := by simp [checked, hflaw]
      simp only [Except.bind, hchecked, Except.ok.injEq]
      constructor
      · rintro rfl
        exact ⟨rfl, hflaw⟩
      · exact And.left
    | some rejection =>
      have hchecked : checked found = .error rejection := by simp [checked, hflaw]
      simp only [Except.bind, hchecked, reduceCtorEq, Except.ok.injEq, false_iff, not_and]
      rintro rfl
      simp [hflaw]

end LabelQuery.Selector
