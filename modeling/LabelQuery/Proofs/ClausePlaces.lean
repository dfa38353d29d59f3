/-
Where the clauses of a text stand.

`StartsClause text earlier start` says that the reading of `text` has come to `start`
behind the clauses `earlier`, and that a clause is looked for there. What is scanned
there is the next clause of the reading, and nothing else is in it
(`clauses_readMore_iff`). Each clause leaves less of the text than the one before it
(`pairwise_readClauses`). A text that is cut off behind a clause has the form of a
selector, and spells the clauses up to that one (`CompletesClause.form_cut`).
-/

import LabelQuery.Proofs.Faults
import LabelQuery.Proofs.Lookahead

namespace LabelQuery.Source

open LabelQuery.Text

/-! ### Cuts -/

theorem byteLength_pos {text : List Char} (h : text ≠ []) : 0 < byteLength text := by
  obtain ⟨c, rest, rfl⟩ := List.exists_cons_of_ne_nil h
  have hc := c.utf8Size_pos
  rw [byteLength_cons]
  omega

theorem byteLength_le_of_suffix {rest text : List Char} (h : rest <:+ text) :
    byteLength rest ≤ byteLength text := by
  obtain ⟨before, rfl⟩ := h
  rw [byteLength_append]
  omega

/-- A text can be cut in one way only behind a given number of bytes. -/
theorem append_inj_of_byteLength_eq {before before' rest rest' : List Char}
    (h : before ++ rest = before' ++ rest') (hlength : byteLength before = byteLength before') :
    before = before' ∧ rest = rest' := by
  rcases List.append_eq_append_iff.mp h with ⟨more, rfl, hrest⟩ | ⟨more, rfl, hrest⟩
  all_goals
    rw [byteLength_append] at hlength
    have hmore : more = [] := by
      by_contra hne
      have hpos := byteLength_pos hne
      omega
    subst hmore
    simpa [eq_comm] using hrest

/-! ### Places -/

/-- Reading the text has completed the clauses `earlier`, and looks for one at `start`. -/
inductive StartsClause : List Char → List Clause → List Char → Prop where
  | first {text : List Char} (htext : skipBlanks text ≠ []) : StartsClause text [] text
  | later {text rest next start : List Char} {c : Clause} {earlier : List Clause}
      (hclause : scanClause text = .found c rest)
      (hafter : afterComma? rest = .ok (some next))
      (hstart : StartsClause next earlier start) : StartsClause text (c :: earlier) start

/-- Reading the text completes `c` behind the clauses `earlier`, and `rest` remains. -/
def CompletesClause (text : List Char) (earlier : List Clause) (c : Clause)
    (rest : List Char) : Prop :=
  ∃ start, StartsClause text earlier start ∧ scanClause start = .found c rest

theorem suffix_of_scanClause {text rest : List Char} {c : Clause}
    (h : scanClause text = .found c rest) : rest <:+ text := by
  have hsuffix := scanClause_suffix text
  rwa [h] at hsuffix

/-- Behind a comma fewer bytes remain than before it. -/
theorem byteLength_lt_of_afterComma? {text next : List Char}
    (h : afterComma? text = .ok (some next)) : byteLength next < byteLength text := by
  obtain ⟨before, hne, rfl⟩ := exists_append_of_afterComma? h
  have hpos := byteLength_pos hne
  rw [byteLength_append]
  omega

theorem StartsClause.suffix {text start : List Char} {earlier : List Clause}
    (h : StartsClause text earlier start) : start <:+ text := by
  induction h with
  | first => exact List.suffix_refl _
  | later hclause hafter _ ih =>
    exact (ih.trans (suffix_of_afterComma? hafter)).trans (suffix_of_scanClause hclause)

/-- What remains behind a clause is cut off the text. -/
theorem CompletesClause.suffix {text rest : List Char} {earlier : List Clause} {c : Clause}
    (h : CompletesClause text earlier c rest) : rest <:+ text := by
  obtain ⟨start, hstart, hclause⟩ := h
  exact (suffix_of_scanClause hclause).trans hstart.suffix

/-! ### The clauses of a reading -/

/-- A clause that is scanned is the first of the reading, whatever comes after it. -/
theorem readClauses_of_found {text rest : List Char} {c : Clause}
    (hclause : scanClause text = .found c rest) :
    ∃ later, (readClauses text).clauses = (c, rest) :: later := by
  cases hafter : afterComma? rest with
  | error fault =>
    obtain ⟨hends, -⟩ := afterComma?_eq_error hafter
    rw [readClauses_of_not_ended hclause hends]
    exact ⟨[], rfl⟩
  | ok next =>
    cases next with
    | none =>
      rw [readClauses_of_last hclause hafter]
      exact ⟨[], rfl⟩
    | some next =>
      rw [readClauses_of_next hclause hafter]
      exact ⟨_, rfl⟩

theorem CompletesClause.cons {text rest next rest' : List Char} {c c' : Clause}
    {earlier : List Clause} (hclause : scanClause text = .found c rest)
    (hafter : afterComma? rest = .ok (some next)) (h : CompletesClause next earlier c' rest') :
    CompletesClause text (c :: earlier) c' rest' := by
  obtain ⟨start, hstart, hscan⟩ := h
  exact ⟨start, .later hclause hafter hstart, hscan⟩

/-- The one clause of a reading without another is completed behind none. -/
theorem completesClause_of_alone {text rest rest' : List Char} {c c' : Clause}
    {passed later : List (Clause × List Char)} (hskip : skipBlanks text ≠ [])
    (hclause : scanClause text = .found c' rest')
    (h : [(c', rest')] = passed ++ (c, rest) :: later) :
    CompletesClause text (passed.map Prod.fst) c rest := by
  cases passed with
  | nil =>
    cases h
    exact ⟨text, .first hskip, hclause⟩
  | cons entry passed => simp at h

/-- Every clause of a reading is completed behind the clauses in front of it. -/
theorem completesClause_of_readClauses {text : List Char} (hskip : skipBlanks text ≠ [])
    {passed later : List (Clause × List Char)} {c : Clause} {rest : List Char}
    (h : (readClauses text).clauses = passed ++ (c, rest) :: later) :
    CompletesClause text (passed.map Prod.fst) c rest := by
  fun_induction readClauses text generalizing passed with
  | case1 => simp at h
  | case2 text clause found hfound fault hafter =>
    exact completesClause_of_alone hskip (Scan.eq_found_of_outcome hfound) h
  | case3 text clause found hfound hafter =>
    exact completesClause_of_alone hskip (Scan.eq_found_of_outcome hfound) h
  | case4 text clause found hfound next hafter others =>
    rename_i ih
    have hclause := Scan.eq_found_of_outcome hfound
    cases passed with
    | nil =>
      obtain ⟨hentry, -⟩ := List.cons.inj h
      cases hentry
      exact ⟨text, .first hskip, hclause⟩
    | cons entry passed =>
      obtain ⟨hentry, hlater⟩ := List.cons.inj h
      subst hentry
      exact (ih (ne_nil_of_afterComma? hafter) hlater).cons hclause hafter

theorem StartsClause.ne_nil {text start : List Char} {earlier : List Clause}
    (h : StartsClause text earlier start) : skipBlanks start ≠ [] := by
  induction h with
  | first htext => exact htext
  | later _ _ _ ih => exact ih

/-- Every clause that is completed is one of the reading. -/
theorem StartsClause.exists_clauses_eq {text start : List Char} {earlier : List Clause}
    (h : StartsClause text earlier start) {c : Clause} {rest : List Char}
    (hclause : scanClause start = .found c rest) :
    ∃ passed later, (readClauses text).clauses = passed ++ (c, rest) :: later ∧
      passed.map Prod.fst = earlier := by
  induction h with
  | first =>
    obtain ⟨later, hread⟩ := readClauses_of_found hclause
    exact ⟨[], later, hread, rfl⟩
  | @later text rest' _ _ found _ hfirst hafter _ ih =>
    obtain ⟨passed, later, hread, rfl⟩ := ih hclause
    refine ⟨(found, rest') :: passed, later, ?_, rfl⟩
    rw [readClauses_of_next hfirst hafter, hread]
    rfl

/-- The clauses of a reading are those that reading completes, each behind the ones in
front of it. -/
theorem clauses_readMore_iff {text rest : List Char} {earlier : List Clause} {c : Clause} :
    (∃ passed later, (readMore text).clauses = passed ++ (c, rest) :: later ∧
        passed.map Prod.fst = earlier) ↔ CompletesClause text earlier c rest := by
  constructor
  · rintro ⟨passed, later, hread, rfl⟩
    have hskip : skipBlanks text ≠ [] := by
      intro hnil
      simp [readMore_of_blanks hnil] at hread
    rw [readMore_of_ne_nil hskip] at hread
    exact completesClause_of_readClauses hskip hread
  · rintro ⟨start, hstart, hclause⟩
    obtain ⟨before, hbefore⟩ := hstart.suffix
    have hskip : skipBlanks text ≠ [] :=
      hbefore ▸ skipBlanks_append_ne_nil_of_right hstart.ne_nil before
    rw [readMore_of_ne_nil hskip]
    exact hstart.exists_clauses_eq hclause

/-- What remains behind a clause is more than what remains behind the next one. -/
theorem pairwise_readClauses (text : List Char) :
    (readClauses text).clauses.Pairwise fun d e => byteLength e.2 < byteLength d.2 := by
  fun_induction readClauses text with
  | case1 => exact .nil
  | case2 => exact List.pairwise_singleton _ _
  | case3 => exact List.pairwise_singleton _ _
  | case4 text clause found hfound next hafter others ih =>
    refine List.pairwise_cons.mpr ⟨?_, ih⟩
    rintro ⟨c, rest⟩ hentry
    obtain ⟨passed, later, hread⟩ := List.append_of_mem hentry
    have hrest := (completesClause_of_readClauses (ne_nil_of_afterComma? hafter) hread).suffix
    exact Nat.lt_of_le_of_lt (byteLength_le_of_suffix hrest) (byteLength_lt_of_afterComma? hafter)

/-! ### Cutting a text off -/

/-- A blank text has no key to read. -/
theorem ne_nil_of_scanClause {text rest : List Char} {c : Clause}
    (h : scanClause text = .found c rest) (hkey : c.key ≠ "") : skipBlanks text ≠ [] := by
  intro hnil
  rcases scanClause_eq_found h with ⟨after, hbang, -, -⟩ | ⟨hword, -⟩
  · simp [hnil] at hbang
  · refine hkey (hword.trans ?_)
    simp [takeWord, hnil]

/-- A text that is cut off behind a clause with a key is read to its end, as the clauses
up to that one. -/
theorem StartsClause.readClauses_cut {text start : List Char} {earlier : List Clause}
    (h : StartsClause text earlier start) {c : Clause} {rest : List Char}
    (hclause : scanClause start = .found c rest) (hkey : c.key ≠ "") :
    ∃ before, text = before ++ rest ∧ skipBlanks before ≠ [] ∧
      (readClauses before).fault = none ∧
      (readClauses before).clauses.map Prod.fst = earlier ++ [c] := by
  induction h with
  | first =>
    -- The end of the text ends the clause as whatever stood behind it did.
    obtain ⟨before, htext, hexchange⟩ := scanClause_exchange hclause
    obtain ⟨rest', hfound, hrest'⟩ := hexchange [] (Or.inl rfl)
    rw [List.append_nil] at hfound
    refine ⟨before, htext, ne_nil_of_scanClause hfound hkey, ?_⟩
    rw [readClauses_of_last hfound (afterComma?_of_end hrest')]
    exact ⟨rfl, rfl⟩
  | later hfirst hafter _ ih =>
    obtain ⟨start, htext, hexchange⟩ := readClauses_exchange hfirst hafter
    obtain ⟨before, hnext, hskip, hfault, hclauses⟩ := ih hclause
    obtain ⟨rest', hread⟩ := hexchange before
    refine ⟨start ++ before, by rw [htext, hnext, List.append_assoc],
      skipBlanks_append_ne_nil_of_right hskip start, ?_⟩
    rw [hread, readMore_of_ne_nil hskip]
    exact ⟨hfault, by rw [List.map_cons, hclauses, List.cons_append]⟩

/-- What stands in front of a cut behind a clause spells the clauses up to that one. -/
theorem CompletesClause.form_cut {before rest : List Char} {earlier : List Clause} {c : Clause}
    (h : CompletesClause (before ++ rest) earlier c rest) (hkey : c.key ≠ "") :
    form before = .ok (.collect ((earlier ++ [c]).map .clause)) := by
  obtain ⟨start, hstart, hclause⟩ := h
  obtain ⟨before', htext, hskip, hfault, hclauses⟩ := hstart.readClauses_cut hclause hkey
  obtain rfl := List.append_cancel_right htext
  exact form_eq_ok_iff.mpr ⟨hskip, hfault, by rw [hclauses]⟩

end LabelQuery.Source
