/-
The reader finds nothing but what the grammar spells.

Whatever a scanner takes off the front of a text, as long as its names are without a
flaw, is a phrase of the grammar between blanks: a text is cut at the words that are
taken and at the blanks on both sides of them (`text_eq_word`). Together with
completeness this makes the parser a decision of the grammar (`parse_eq_ok_iff_spells`),
and so the grammar is unambiguous.
-/

import LabelQuery.Proofs.GrammarComplete

namespace LabelQuery.Source

open LabelQuery.Text LabelQuery.Naming

/-! ### Lists -/

/-- Items that were read up to a closing parenthesis. If none was read before and no
value was found, nothing but blanks stood there. -/
theorem itemsText_of_scanItems {first : Bool} {text rest : List Char} {values : List String}
    (h : scanItems first text = .found values rest)
    (hvalues : ∀ value ∈ values, valueFlaw? value = none) :
    ∃ items, text = items ++ ')' :: rest ∧
      ((first = true ∧ Blanks items ∧ values = []) ∨
        (ItemsText items values ∧ (first = true → values ≠ [""]))) := by
  fun_induction scanItems first text generalizing values rest with
  | case1 => simp at h
  | case2 first text word after =>
    rename_i rest' hclose
    obtain ⟨before, gap, hbefore, hgap, htext⟩ := text_eq_word text
    rw [hclose] at htext
    obtain ⟨hitems, rfl⟩ := Scan.found_inj.mp h
    refine ⟨before ++ (word ++ gap), by simpa using htext, ?_⟩
    by_cases hempty : (first && word.isEmpty) = true
    · rw [if_pos hempty] at hitems
      obtain ⟨hfirst, hword⟩ := Bool.and_eq_true_iff.mp hempty
      refine Or.inl ⟨hfirst, ?_, hitems.symm⟩
      rw [List.isEmpty_iff.mp hword]
      exact hbefore.append hgap
    · rw [if_neg hempty] at hitems
      subst hitems
      have hvalue := hvalues (String.ofList word) (by simp)
      have hlast := ItemsText.last hbefore hvalue hgap
      rw [String.toList_ofList] at hlast
      refine Or.inr ⟨hlast, ?_⟩
      intro hfirst hlone
      apply hempty
      have hword : word = [] := by simpa using hlone
      simp [hfirst, hword]
  | case3 first text word after rest' =>
    rename_i hcomma ih
    obtain ⟨before, gap, hbefore, hgap, htext⟩ := text_eq_word text
    rw [hcomma] at htext
    obtain ⟨others, hothers, rfl⟩ := Scan.map_eq_found_iff.mp h
    obtain ⟨items, hrest, hitems⟩ :=
      ih hothers fun value hvalue => hvalues value (List.mem_cons_of_mem _ hvalue)
    -- A comma was read, so the rest is not a list without items.
    obtain ⟨hitems, -⟩ : ItemsText items others ∧ (false = true → others ≠ [""]) := by
      simpa using hitems
    have hvalue := hvalues (String.ofList word) (by simp)
    have hcons := ItemsText.cons hbefore hvalue hgap hitems
    rw [String.toList_ofList] at hcons
    refine ⟨_, ?_, Or.inr ⟨hcons, ?_⟩⟩
    · simpa [hrest] using htext
    · intro _ hlone
      cases hitems <;> simp at hlone
  | case4 => simp at h

/-- A list that was read. -/
theorem listText_of_scanValues {text rest : List Char} {values : List String}
    (h : scanValues text = .found values rest)
    (hvalues : ∀ value ∈ values, valueFlaw? value = none) :
    ∃ before list, Blanks before ∧ ListText list values ∧ text = before ++ (list ++ rest) := by
  obtain ⟨inner, hopen, hitems⟩ := scanValues_eq_found h
  obtain ⟨before, hbefore, htext⟩ := exists_blanks_append_skipBlanks text
  obtain ⟨items, rfl, hcases⟩ := itemsText_of_scanItems hitems hvalues
  refine ⟨before, '(' :: (items ++ [')']), hbefore, ?_, by simpa [hopen] using htext⟩
  rcases hcases with ⟨-, hblanks, rfl⟩ | ⟨hitems, hne⟩
  · exact .empty hblanks
  · exact .items hitems (hne rfl)

/-! ### Clauses -/

theorem text_of_scanValue {text rest : List Char} {value : String}
    (h : scanValue text = .found value rest) :
    ∃ before after, Blanks before ∧ Blanks after ∧
      text = before ++ (value.toList ++ (after ++ rest)) := by
  obtain ⟨rfl, rfl⟩ := scanValue_eq_found h
  obtain ⟨before, after, hbefore, hafter, htext⟩ := text_eq_word text
  exact ⟨before, after, hbefore, hafter, by rwa [String.toList_ofList]⟩

/-- There is a gap where a word character stands behind it but none in front. -/
theorem gap_ne_nil {gap text : List Char} {c : Char} (hc : isInWord c = true)
    (hstop : (gap ++ c :: text).head?.any isInWord = false) : gap ≠ [] := by
  rintro rfl
  simp [hc] at hstop

/-- The condition of a clause that was read, its operand behind an operator, is one
of the phrases with that key. Blanks must stand before an operator that is a word,
since the key would not have ended otherwise. -/
theorem clauseText_of_scanOperand {key : String} {gap operand rest : List Char}
    {operator : Operator} {condition : Condition} (hgap : Blanks gap)
    (hstop : (gap ++ (operator.spelling ++ operand)).head?.any isInWord = false)
    (h : scanOperand operand operator = .found condition rest)
    (hflaw : Clause.flaw? ⟨key, condition⟩ = none) :
    ∃ clause after, Blanks after ∧ ClauseText clause ⟨key, condition⟩ ∧
      key.toList ++ (gap ++ (operator.spelling ++ operand)) = clause ++ (after ++ rest) := by
  obtain ⟨hkey, hvalues⟩ := clauseFlaw?_eq_none_iff.mp hflaw
  cases operator with
  | equal =>
    obtain ⟨value, hscan, rfl⟩ := Scan.map_eq_found_iff.mp h
    obtain ⟨before, after, hbefore, hafter, rfl⟩ := text_of_scanValue hscan
    have hvalue := hvalues value (by simp [Condition.values])
    exact ⟨_, after, hafter, .equal hkey hgap (Or.inl rfl) hbefore hvalue,
      by simp [Operator.spelling]⟩
  | doubleEqual =>
    obtain ⟨value, hscan, rfl⟩ := Scan.map_eq_found_iff.mp h
    obtain ⟨before, after, hbefore, hafter, rfl⟩ := text_of_scanValue hscan
    have hvalue := hvalues value (by simp [Condition.values])
    exact ⟨_, after, hafter, .equal hkey hgap (Or.inr rfl) hbefore hvalue,
      by simp [Operator.spelling]⟩
  | unequal =>
    obtain ⟨value, hscan, rfl⟩ := Scan.map_eq_found_iff.mp h
    obtain ⟨before, after, hbefore, hafter, rfl⟩ := text_of_scanValue hscan
    have hvalue := hvalues value (by simp [Condition.values])
    exact ⟨_, after, hafter, .unequal hkey hgap hbefore hvalue,
      by simp [Operator.spelling]⟩
  | within =>
    obtain ⟨values, hscan, rfl⟩ := Scan.map_eq_found_iff.mp h
    obtain ⟨before, list, hbefore, hlist, rfl⟩ := listText_of_scanValues hscan hvalues
    have hi : isInWord 'i' = true := rfl
    have hne := gap_ne_nil hi hstop
    exact ⟨_, [], Blanks.nil, .among hkey hgap hne hbefore hlist,
      by simp [Operator.spelling]⟩
  | without =>
    obtain ⟨values, hscan, rfl⟩ := Scan.map_eq_found_iff.mp h
    obtain ⟨before, list, hbefore, hlist, rfl⟩ := listText_of_scanValues hscan hvalues
    have hn : isInWord 'n' = true := rfl
    have hne := gap_ne_nil hn hstop
    exact ⟨_, [], Blanks.nil, .outside hkey hgap hne hbefore hlist,
      by simp [Operator.spelling]⟩

/-- A clause that was read, between blanks. -/
theorem clauseText_of_scanClause {text rest : List Char} {c : Clause}
    (h : scanClause text = .found c rest) (hflaw : c.flaw? = none) :
    ∃ before clause after, Blanks before ∧ Blanks after ∧ ClauseText clause c ∧
      text = before ++ (clause ++ (after ++ rest)) := by
  rcases scanClause_eq_found h with ⟨after, hbang, rfl, rfl⟩ | ⟨hkey, hscan⟩
  · obtain ⟨before, hbefore, htext⟩ := exists_blanks_append_skipBlanks text
    obtain ⟨gap, hgap, hafter⟩ := exists_blanks_append_takeWord after
    have habsent := ClauseText.absent hgap (clauseFlaw?_eq_none_iff.mp hflaw).1
    rw [String.toList_ofList] at habsent
    refine ⟨before, _, [], hbefore, Blanks.nil, habsent, ?_⟩
    rw [hbang] at htext
    simpa [← hafter] using htext
  · obtain ⟨key, condition⟩ := c
    obtain ⟨before, hbefore, htext⟩ := exists_blanks_append_takeWord text
    have hword : key.toList = (takeWord text).1 := by
      rw [show key = _ from hkey, String.toList_ofList]
    rcases scanCondition_eq_found hscan with ⟨rfl, rfl⟩ | ⟨operator, operand, hspelling, hoperand⟩
    · refine ⟨before, key.toList, [], hbefore, Blanks.nil, ?_, by rw [hword]; exact htext⟩
      exact .present (clauseFlaw?_eq_none_iff.mp hflaw).1
    · obtain ⟨gap, hgap, hafter⟩ := exists_blanks_append_skipBlanks (takeWord text).2
      rw [hspelling] at hafter
      have hstop := head?_takeWord text
      rw [hafter] at hstop
      obtain ⟨clause, after, hblanks, hclause, heq⟩ :=
        clauseText_of_scanOperand hgap hstop hoperand hflaw
      refine ⟨before, clause, after, hbefore, hblanks, hclause, ?_⟩
      rw [← heq, hword, ← hafter]
      exact htext

/-! ### Texts -/

/-- The end of a text, or a comma that hangs there, behind blanks. -/
theorem hangingComma_of_afterComma? {gap text : List Char} (hgap : Blanks gap)
    (h : afterComma? text = .ok none) :
    ∃ comma after, HangingComma comma ∧ Blanks after ∧ gap ++ text = comma ++ after := by
  rcases afterComma?_eq_none h with hend | ⟨rest, hcomma, hend⟩
  · exact ⟨[], gap ++ text, .nothing, hgap.append (blanks_of_skipBlanks_eq_nil hend), rfl⟩
  · obtain ⟨before, hbefore, htext⟩ := exists_blanks_append_skipBlanks text
    rw [hcomma] at htext
    exact ⟨_, rest, .comma (hgap.append hbefore), blanks_of_skipBlanks_eq_nil hend,
      by simp [htext]⟩

/-- A text that was read to its end is made of the clauses that were found. -/
theorem clausesText_of_readClauses {text : List Char} (hfault : (readClauses text).fault = none)
    (hflaws : ∀ c ∈ (readClauses text).clauses.map Prod.fst, c.flaw? = none) :
    ClausesText text ((readClauses text).clauses.map Prod.fst) := by
  fun_induction readClauses text with
  | case1 => simp at hfault
  | case2 => simp at hfault
  | case3 text clause c hfound hafter =>
    have hscan : scanClause text = .found c clause.rest := Scan.eq_found_iff.mpr ⟨hfound, rfl⟩
    obtain ⟨before, phrase, gap, hbefore, hgap, hphrase, htext⟩ :=
      clauseText_of_scanClause hscan (hflaws c (by simp))
    obtain ⟨comma, blanks, hcomma, hblanks, hend⟩ := hangingComma_of_afterComma? hgap hafter
    rw [htext, hend]
    exact .text hbefore hphrase .nil hcomma hblanks
  | case4 text clause c hfound next hafter others ih =>
    have hscan : scanClause text = .found c clause.rest := Scan.eq_found_iff.mpr ⟨hfound, rfl⟩
    obtain ⟨before, phrase, gap, hbefore, hgap, hphrase, htext⟩ :=
      clauseText_of_scanClause hscan (hflaws c (by simp))
    obtain ⟨rest, hcomma, rfl⟩ := afterComma?_eq_some hafter
    obtain ⟨gap', hgap', hrest⟩ := exists_blanks_append_skipBlanks clause.rest
    obtain ⟨before', hbefore', hnext⟩ := exists_blanks_append_skipBlanks rest
    have hothers := ih hfault fun d hd => hflaws d (List.mem_cons_of_mem _ hd)
    have hall := ClausesText.cons hbefore hphrase (hgap.append hgap')
      (hothers.blanks_append hbefore')
    rw [← hnext] at hall
    rw [hcomma] at hrest
    rw [htext, hrest]
    simpa only [List.append_assoc, List.map_cons] using hall

/-- An accepted text is made of the clauses of the selector. -/
theorem clausesText_of_parse {text : String} {s : Selector} (h : Selector.parse text = .ok s) :
    ∃ cs, ClausesText text.toList cs ∧ s = .collect (cs.map .clause) := by
  obtain ⟨hform, hflaw⟩ := Selector.parse_eq_ok_iff.mp h
  obtain ⟨-, hfault, rfl⟩ := form_eq_ok_iff.mp hform
  rw [Selector.flaw?_eq_none_iff, Selector.clauses_collect] at hflaw
  exact ⟨_, clausesText_of_readClauses hfault hflaw, rfl⟩

/-- The parser accepts a text with a selector exactly where the grammar derives the
selector from the text, and no text derives two selectors. -/
theorem parse_eq_ok_iff_spells (text : String) :
    (∀ s, Selector.parse text = .ok s ↔ Spells text.toList s) ∧
      ∀ s s', Spells text.toList s → Spells text.toList s' → s = s' := by
  have hiff (s : Selector) : Selector.parse text = .ok s ↔ Spells text.toList s := by
    rw [spells_iff]
    constructor
    · exact clausesText_of_parse
    · rintro ⟨cs, hcs, rfl⟩
      exact hcs.parse_eq_ok
  refine ⟨hiff, ?_⟩
  intro s s' hs hs'
  have hparse := (hiff s).mpr hs
  rw [(hiff s').mpr hs'] at hparse
  exact (Except.ok.inj hparse).symm

theorem spells_in_in_list :
    Spells "in in ( a,,), !b.c/d ,".toList
        (.all [.clause ⟨"in", .among ["a", "", ""]⟩, .clause ⟨"b.c/d", .absent⟩]) ∧
      Selector.parse "in in ( a,,), !b.c/d ," =
        .ok (.all [.clause ⟨"in", .among ["a", "", ""]⟩, .clause ⟨"b.c/d", .absent⟩]) := by
  have hspace : Blanks [' '] := by decide
  have hin : keyFlaw? "in" = none := by decide
  have hd : keyFlaw? "b.c/d" = none := by decide
  have ha : valueFlaw? "a" = none := by decide
  have hitems : ItemsText " a,,".toList ["a", "", ""] :=
    .cons hspace ha .nil (.cons .nil valueFlaw?_empty .nil (.last .nil valueFlaw?_empty .nil))
  have hfirst : ClauseText "in in ( a,,)".toList ⟨"in", .among ["a", "", ""]⟩ :=
    .among hin hspace (by simp) hspace (.items hitems (by simp))
  have hmore : MoreText ", !b.c/d".toList [⟨"b.c/d", .absent⟩] :=
    .cons .nil hspace (.absent .nil hd) .nil
  have hspells := Spells.several (.text .nil hfirst hmore (.comma hspace) .nil) (by simp)
  exact ⟨hspells, ((parse_eq_ok_iff_spells _).1 _).mpr hspells⟩

end LabelQuery.Source
