/-
Where a text stops being the beginning of a selector.

A text has the form of a selector (`Grammatical`) if its clauses are read to its end,
names aside. If it has not, the place that is blamed divides it exactly: what stands
before the place can be continued to a text of that form, and the whole text can be so
continued only where the fault is one of a text that ended too early
(`Fault.RanOut`, `parse_blames`). For every scanner `Blames` says this of the text it
reads, and it is carried from the innermost scanner outwards (`Blames.lift`).
-/

import LabelQuery.Proofs.ListScans

namespace LabelQuery.Source

open LabelQuery.Text

/-- The text ended before the fault was certain: in a list, before one, or inside the
spelling of an operator. -/
def Fault.RanOut (fault : Fault) : Prop :=
  fault.cause = .listNotClosed ∨
    (fault.cause = .listNotOpened ∧ fault.place = []) ∨
    (fault.cause = .unknownOperator ∧
      ∃ operator ∈ [Operator.unequal, Operator.within, Operator.without],
        fault.place <+: operator.spelling ∧ fault.place ≠ operator.spelling)

/-- Only in these three ways a text runs out. -/
theorem Fault.RanOut.cause_mem {fault : Fault} (h : fault.RanOut) :
    fault.cause ∈ [Cause.listNotClosed, .listNotOpened, .unknownOperator] := by
  rcases h with hcause | ⟨hcause, -⟩ | ⟨hcause, -⟩ <;> simp [hcause]

section Scanners

variable {α β : Type}

/-- The fault divides the text: what stands before it can be completed, and so can the
whole text exactly where the text ran out. Otherwise the fault stays what it is,
whatever follows. -/
structure Blames (scan : List Char → Scan α) (text : List Char) (fault : Fault) : Prop where
  viable : ∃ before, text = before ++ fault.place ∧ ∃ more, Completes scan (before ++ more)
  mended : fault.RanOut → ∃ more, Completes scan (text ++ more)
  settled : ¬ fault.RanOut → ∀ more,
    (scan (text ++ more)).outcome = .error ⟨fault.cause, fault.place ++ more⟩

/-- What is known of the fault of a scan holds of the scan that starts with it. -/
theorem Blames.lift {scan : List Char → Scan α} {scan' : List Char → Scan β} {f : α → β}
    {before inner : List Char} {fault : Fault} (h : Blames scan inner fault)
    (hagree : ∀ tail, (Completes scan tail ∨ ∃ more, tail = inner ++ more) →
      scan' (before ++ tail) = (scan tail).map f) :
    Blames scan' (before ++ inner) fault := by
  refine ⟨?_, ?_, ?_⟩
  · obtain ⟨start, hstart, more, hmore⟩ := h.viable
    refine ⟨before ++ start, by rw [List.append_assoc, ← hstart], more, ?_⟩
    rw [List.append_assoc]
    exact hmore.lift (hagree _ (Or.inl hmore))
  · intro hout
    obtain ⟨more, hmore⟩ := h.mended hout
    refine ⟨more, ?_⟩
    rw [List.append_assoc]
    exact hmore.lift (hagree _ (Or.inl hmore))
  · intro hout more
    rw [List.append_assoc, hagree _ (Or.inr ⟨more, rfl⟩), Scan.map_eq_error_iff]
    exact h.settled hout more

/-- A scan that stops at a place has passed what can be completed. -/
theorem StopsAt.blames {scan : List Char → Scan α} {text : List Char} {fault : Fault}
    (h : StopsAt scan text fault) (hout : fault.RanOut ↔ fault.place = []) :
    Blames scan text fault := by
  obtain ⟨before, htext, hviable, hdecided⟩ := h.decided
  refine ⟨⟨before, htext, hviable⟩, ?_, ?_⟩
  · intro hran
    rw [htext, hout.mp hran, List.append_nil]
    exact hviable
  · intro hran more
    obtain ⟨c, rest, hplace⟩ := List.exists_cons_of_ne_nil fun hnil => hran (hout.mpr hnil)
    rw [htext, List.append_assoc]
    exact hdecided _ (by rw [hplace]; rfl)

end Scanners

/-! ### Lists -/

theorem ranOut_iff_of_scanValues {text : List Char} {fault : Fault}
    (h : (scanValues text).outcome = .error fault) : fault.RanOut ↔ fault.place = [] := by
  rcases scanValues_eq_error h with ⟨-, rfl⟩ | ⟨inner, -, hitems⟩
  · simp [Fault.RanOut]
  · rcases scanItems_eq_error hitems with rfl | ⟨hcause, hplace⟩
    · simp [Fault.RanOut]
    · -- Neither a blank in an item nor a symbol in a list comes of the end of the text.
      refine iff_of_false (fun hout => ?_) hplace
      have hmem := hout.cause_mem
      rcases List.mem_pair.mp hcause with hcause | hcause <;> simp [hcause] at hmem

theorem blames_scanValues {text : List Char} {fault : Fault}
    (h : (scanValues text).outcome = .error fault) : Blames scanValues text fault :=
  (scanValues_stopsAt h).blames (ranOut_iff_of_scanValues h)

/-! ### Clauses -/

theorem blames_scanValue {text : List Char} {fault : Fault}
    (h : (scanValue text).outcome = .error fault) : Blames scanValue text fault := by
  obtain ⟨hsign, rfl⟩ := scanValue_eq_error h
  have hne : skipBlanks (takeWord text).2 ≠ [] := by
    intro hnil
    simp [hnil] at hsign
  refine ⟨?_, ?_, ?_⟩
  · obtain ⟨before, htext, hexchange⟩ := takeWord_exchange_skipBlanks text
    obtain ⟨-, hskip⟩ := hexchange [] (Or.inl rfl)
    rw [show skipBlanks [] = [] from rfl] at hskip
    refine ⟨before, htext, [], _, _, scanValue_of_not_sign ?_, ?_⟩
    · rw [hskip]
      rfl
    · rw [hskip]
      rfl
  · intro hout
    exact absurd hout.cause_mem (by simp)
  · intro _ more
    have htake := takeWord_append_of_ne_nil hne more
    have hsign' : (skipBlanks (takeWord (text ++ more)).2).head?.any isOperatorSign = true := by
      rwa [htake, (LooksLike.append hne more).2]
    rw [scanValue_of_sign hsign', htake, skipBlanks_append_of_ne_nil hne]
    rfl

theorem blames_scanOperand {operand : List Char} {operator : Operator} {fault : Fault}
    (h : (scanOperand operand operator).outcome = .error fault) :
    Blames (scanOperand · operator) operand fault := by
  change Blames (scanOperand · operator) ([] ++ operand) fault
  rcases scanOperand_eq_map operator with ⟨f, hf⟩ | ⟨-, f, hf⟩
  · rw [hf] at h
    exact (blames_scanValue (Scan.map_eq_error_iff.mp h)).lift fun tail _ => hf tail
  · rw [hf] at h
    exact (blames_scanValues (Scan.map_eq_error_iff.mp h)).lift fun tail _ => hf tail

/-- Every operator has an operand with which it completes. -/
theorem exists_completes_scanOperand (operator : Operator) :
    ∃ operand, Completes (scanOperand · operator) operand := by
  rcases scanOperand_eq_map operator with ⟨f, hf⟩ | ⟨-, f, hf⟩
  · have hvalue : scanValue [] = .found "" [] := rfl
    refine ⟨[], f "", [], ?_, rfl⟩
    exact (hf []).trans (congrArg (Scan.map f) hvalue)
  · have hvalues : scanValues ['(', ')'] = .found [] [] :=
      scanItems_of_blanks .nil []
    refine ⟨['(', ')'], f [], [], ?_, rfl⟩
    exact (hf ['(', ')']).trans (congrArg (Scan.map f) hvalues)

/-- Where no operator is spelled and no spelling of one begins with the text, none is
spelled with more text behind it. -/
theorem operatorAt_append_eq_none {text : List Char} (h : (operatorAt text).1 = none)
    (hspelling : ∀ operator : Operator, ¬ text <+: operator.spelling) (more : List Char) :
    (operatorAt (text ++ more)).1 = none := by
  cases hat : operatorAt (text ++ more) with
  | mk found rest =>
    cases found with
    | none => rfl
    | some operator =>
      exfalso
      rcases List.append_eq_append_iff.mp (operatorAt_eq_some hat) with
        ⟨tail, hprefix, -⟩ | ⟨tail, htext, -⟩
      · exact hspelling operator ⟨tail, hprefix.symm⟩
      · rw [htext] at h
        exact operatorAt_spelling_ne_none operator tail h

/-- Unless the text ran out, no spelling of an operator begins with the text where none
was found. -/
theorem not_prefix_of_not_ranOut {place : List Char} (h : (operatorAt place).1 = none)
    (hne : place ≠ []) (hout : ¬ Fault.RanOut ⟨.unknownOperator, place⟩) (operator : Operator) :
    ¬ place <+: operator.spelling := by
  intro hprefix
  have hspelling : place ≠ operator.spelling := by
    rintro rfl
    refine operatorAt_spelling_ne_none operator [] ?_
    rwa [List.append_nil]
  have hsign : place ≠ ['='] := by
    rintro rfl
    simp [operatorAt] at h
  by_cases hmember : operator ∈ [Operator.unequal, Operator.within, Operator.without]
  · exact hout (Or.inr (Or.inr ⟨rfl, operator, hmember, hprefix, hspelling⟩))
  · -- The spellings that are left consist of the sign alone.
    obtain ⟨tail, htail⟩ := hprefix
    obtain ⟨c, place, rfl⟩ := List.exists_cons_of_ne_nil hne
    cases operator with
    | equal => simp_all [Operator.spelling]
    | doubleEqual =>
      cases place with
      | nil => simp_all [Operator.spelling]
      | cons d place => simp_all [Operator.spelling]
    | _ => simp at hmember

/-- Behind a key nothing but an operator may stand, with more text behind it too. -/
theorem scanClause_append_of_unknown {text place more : List Char}
    (hbang : (skipBlanks text).head? ≠ some '!') (hplace : skipBlanks (takeWord text).2 = place)
    (hne : place ≠ []) (hcomma : place.head? ≠ some ',')
    (hnone : (operatorAt (place ++ more)).1 = none) :
    (scanClause (text ++ more)).outcome = .error ⟨.unknownOperator, place ++ more⟩ := by
  have hskip : skipBlanks (takeWord text).2 ≠ [] := by rwa [hplace]
  have htake := takeWord_append_of_ne_nil hskip more
  have hafter : skipBlanks (takeWord (text ++ more)).2 = place ++ more := by
    rw [htake, skipBlanks_append_of_ne_nil hskip, hplace]
  have hends : endsClause (takeWord (text ++ more)).2 = false := by
    obtain ⟨c, rest, rfl⟩ := List.exists_cons_of_ne_nil hne
    rw [endsClause_eq, hafter]
    simpa using hcomma
  obtain ⟨before, htext⟩ := takeWord_suffix text
  obtain ⟨hclause, -⟩ :=
    scanClause_exchange_key hbang htext.symm (Or.inr (LooksLike.append hskip more))
  rw [← List.append_assoc, htext] at hclause
  rw [hclause, Scan.map_eq_error_iff, scanCondition_of_unknown hends (by rwa [hafter]), hafter]

/-- A key is blamed on no operator, but on the text where one was looked for. -/
theorem blames_unknownOperator {text place : List Char}
    (hbang : (skipBlanks text).head? ≠ some '!') (hplace : skipBlanks (takeWord text).2 = place)
    (hne : place ≠ []) (hcomma : place.head? ≠ some ',') (hnone : (operatorAt place).1 = none) :
    Blames scanClause text ⟨.unknownOperator, place⟩ := by
  obtain ⟨before, gap, hgap, htext, hrest⟩ := exists_append_takeWord text
  refine ⟨?_, ?_, ?_⟩
  · -- The key alone is a clause.
    refine ⟨before ++ gap, by rw [List.append_assoc, ← hplace, ← hrest]; exact htext, [], ?_⟩
    have hskip := skipBlanks_eq_nil hgap
    obtain ⟨rest, hclause, hrest⟩ :=
      scanClause_exchange_present hbang htext (endsClause_iff.mpr (Or.inl hskip))
    rw [List.append_nil]
    exact ⟨_, rest, hclause, hrest.trans hskip⟩
  · rintro (hcause | ⟨hcause, -⟩ | ⟨-, operator, -, ⟨tail, htail⟩, -⟩)
    · simp at hcause
    · simp at hcause
    · -- The spelling can be finished, and an operand put behind it.
      have hhead : place.head? = operator.spelling.head? := by
        rw [← htail]
        exact ((List.exists_cons_of_ne_nil hne).elim fun c ⟨rest, hcons⟩ => by simp [hcons])
      obtain ⟨start, hstart, hexchange⟩ := scanClause_exchange_operator hbang hplace hhead
      obtain ⟨operand, hcompletes⟩ := exists_completes_scanOperand operator
      obtain ⟨condition, rest, hfound, -⟩ := id hcompletes
      refine ⟨tail ++ operand, ?_⟩
      have hall : text ++ (tail ++ operand) = start ++ (operator.spelling ++ operand) := by
        rw [hstart, ← htail]
        simp
      rw [hall]
      exact hcompletes.lift (hexchange operand (head?_ne_equals_of_scanOperand hfound))
  · intro hout more
    have hspelling := not_prefix_of_not_ranOut hnone hne hout
    exact scanClause_append_of_unknown hbang hplace hne hcomma
      (operatorAt_append_eq_none hnone hspelling more)

theorem blames_scanClause {text : List Char} {fault : Fault}
    (h : (scanClause text).outcome = .error fault) : Blames scanClause text fault := by
  obtain ⟨hbang, hcondition⟩ := scanClause_eq_error h
  obtain ⟨hends, ⟨hnone, rfl⟩ | ⟨operator, operand, hat, hoperand⟩⟩ :=
    scanCondition_eq_error hcondition
  · rw [endsClause_eq] at hends
    refine blames_unknownOperator hbang rfl ?_ ?_ hnone
    · intro hnil
      simp [hnil] at hends
    · intro hcomma
      simp [hcomma] at hends
  · obtain ⟨before, htext, hexchange⟩ :=
      scanClause_exchange_operand hbang (operatorAt_eq_some hat)
    rw [htext]
    refine (blames_scanOperand hoperand).lift
      (f := fun condition => ⟨String.ofList (takeWord text).1, condition⟩) ?_
    rintro tail (⟨condition, rest, hfound, -⟩ | ⟨more, rfl⟩)
    · exact hexchange tail (head?_ne_equals_of_scanOperand hfound)
    · refine hexchange _ ?_
      rintro rfl
      cases operand with
      | nil => simp [scanOperand, scanValue, takeWord, skipBlanks] at hoperand
      | cons c operand => simpa using head?_ne_equals_of_operatorAt hat

/-! ### Texts -/

/-- The text has the form of a selector, whatever its names are. -/
def Grammatical (text : List Char) : Prop :=
  ∃ s, form text = .ok s

theorem grammatical_iff {text : List Char} :
    Grammatical text ↔ skipBlanks text ≠ [] ∧ (readClauses text).fault = none := by
  constructor
  · rintro ⟨s, hform⟩
    obtain ⟨hskip, hfault, -⟩ := form_eq_ok_iff.mp hform
    exact ⟨hskip, hfault⟩
  · rintro ⟨hskip, hfault⟩
    exact ⟨_, form_eq_ok_iff.mpr ⟨hskip, hfault, rfl⟩⟩

/-- A clause is a text of good form with a comma behind it. -/
theorem grammatical_of_completes {text : List Char} (h : Completes scanClause text) :
    Grammatical (text ++ [',']) := by
  obtain ⟨c, rest, hfound, hrest⟩ := h
  obtain ⟨before, htext, hexchange⟩ := scanClause_exchange hfound
  have hcomma : skipBlanks (rest ++ [',']) = [','] :=
    skipBlanks_append_delimiter (blanks_of_skipBlanks_eq_nil hrest) rfl []
  obtain ⟨rest', hfound', hrest'⟩ :=
    hexchange (rest ++ [',']) (Or.inl (endsClause_iff.mpr (Or.inr ⟨[], hcomma⟩)))
  rw [← List.append_assoc, ← htext] at hfound'
  refine grammatical_iff.mpr ⟨?_, ?_⟩
  · intro hnil
    have hblank := blanks_of_skipBlanks_eq_nil hnil ',' (by simp)
    cases hblank
  · rw [readClauses_of_comma hfound' (hrest'.trans hcomma)]
    rfl

/-- What is known of the fault that ended the reading of a text. -/
structure Divides (text : List Char) (fault : Fault) : Prop where
  viable : ∃ before, text = before ++ fault.place ∧ ∃ more, Grammatical (before ++ more)
  mended : fault.RanOut → ∃ more, Grammatical (text ++ more)
  settled : ¬ fault.RanOut → ∀ more,
    (readClauses (text ++ more)).fault = some ⟨fault.cause, fault.place ++ more⟩

/-- A fault that ends the first clause divides the text. -/
theorem Blames.divides {text : List Char} {fault : Fault} (h : Blames scanClause text fault) :
    Divides text fault := by
  refine ⟨?_, ?_, ?_⟩
  · obtain ⟨before, htext, more, hmore⟩ := h.viable
    refine ⟨before, htext, more ++ [','], ?_⟩
    rw [← List.append_assoc]
    exact grammatical_of_completes hmore
  · intro hout
    obtain ⟨more, hmore⟩ := h.mended hout
    refine ⟨more ++ [','], ?_⟩
    rw [← List.append_assoc]
    exact grammatical_of_completes hmore
  · intro hout more
    rw [readClauses_of_error (h.settled hout more)]

/-- Text behind a clause that neither ends nor continues it divides the text. -/
theorem divides_of_not_ended {text rest : List Char} {c : Clause}
    (hclause : scanClause text = .found c rest) (hends : endsClause rest = false) :
    Divides text ⟨.clauseNotEnded, skipBlanks rest⟩ := by
  obtain ⟨before, htext, hexchange⟩ := scanClause_exchange hclause
  obtain ⟨gap, hgap, hrest⟩ := exists_blanks_append_skipBlanks rest
  have hskip : skipBlanks rest ≠ [] := by
    intro hnil
    simp [endsClause_eq, hnil] at hends
  refine ⟨?_, ?_, ?_⟩
  · have hblanks := skipBlanks_eq_nil hgap
    obtain ⟨rest', hfound, hrest'⟩ :=
      hexchange gap (Or.inl (endsClause_iff.mpr (Or.inl hblanks)))
    refine ⟨before ++ gap, by rw [List.append_assoc, ← hrest]; exact htext, [','], ?_⟩
    exact grammatical_of_completes ⟨c, rest', hfound, hrest'.trans hblanks⟩
  · intro hout
    exact absurd hout.cause_mem (by simp)
  · intro _ more
    have hlike := LooksLike.append hskip more
    obtain ⟨rest', hfound, hrest'⟩ := hexchange (rest ++ more) (Or.inr hlike)
    rw [← List.append_assoc, ← htext] at hfound
    have hends' : endsClause rest' = false := by
      rw [endsClause_congr (congrArg List.head? hrest'), endsClause_congr hlike.2, hends]
    rw [readClauses_of_not_ended hfound hends', hrest', skipBlanks_append_of_ne_nil hskip]

/-- The fault that ends the reading of a text divides it. -/
theorem divides_of_readClauses {text : List Char} {fault : Fault}
    (h : (readClauses text).fault = some fault) : Divides text fault := by
  fun_induction readClauses text with
  | case1 text clause found hfound =>
    cases h
    exact (blames_scanClause hfound).divides
  | case2 text clause c hfound found hafter =>
    cases h
    have hscan := Scan.eq_found_of_outcome hfound
    obtain ⟨hends, rfl⟩ := afterComma?_eq_error hafter
    exact divides_of_not_ended hscan hends
  | case3 => simp at h
  | case4 text clause c hfound next hafter others ih =>
    have hscan := Scan.eq_found_of_outcome hfound
    obtain ⟨before, htext, hexchange⟩ := readClauses_exchange hscan hafter
    -- What follows the comma decides whether the whole text is of good form.
    have hfault {tail : List Char} (htail : skipBlanks tail ≠ []) :
        (readClauses (before ++ tail)).fault = (readClauses tail).fault := by
      obtain ⟨rest', hread⟩ := hexchange tail
      rw [hread, readMore_of_ne_nil htail]
    have hgrammatical {tail : List Char} (htail : Grammatical tail) :
        Grammatical (before ++ tail) := by
      obtain ⟨hskip, hread⟩ := grammatical_iff.mp htail
      exact grammatical_iff.mpr
        ⟨skipBlanks_append_ne_nil_of_right hskip before, (hfault hskip).trans hread⟩
    obtain ⟨⟨start, hstart, more, hviable⟩, hmended, hsettled⟩ := ih h
    refine ⟨?_, ?_, ?_⟩
    · refine ⟨before ++ start, by rw [htext, hstart, List.append_assoc], more, ?_⟩
      rw [List.append_assoc]
      exact hgrammatical hviable
    · intro hout
      obtain ⟨more, hmore⟩ := hmended hout
      refine ⟨more, ?_⟩
      rw [htext, List.append_assoc]
      exact hgrammatical hmore
    · intro hout more
      have hnext := skipBlanks_append_ne_nil_of_left (ne_nil_of_afterComma? hafter) more
      rw [htext, List.append_assoc, hfault hnext]
      exact hsettled hout more

end LabelQuery.Source
