/-
The reader finds what the grammar spells.

Each scanner, run on a phrase of the grammar with more text behind it, gives what the
phrase spells and stops where the phrase ends, or after the blanks there. What may
stand behind a clause is said by `endsClause`; a list needs no such condition, since
its closing parenthesis ends it. From the phrases the result is carried to clauses
between commas by induction on `MoreText`, and so to a whole text
(`ClausesText.parse_eq_ok`).
-/

import LabelQuery.Proofs.Grammar
import LabelQuery.Proofs.ScannerSteps

namespace LabelQuery.Source

open LabelQuery.Text LabelQuery.Naming

/-! ### Lists -/

/-- Items are read up to the closing parenthesis. Only the last of several items may be
read with the list still counting as empty, so the exception is one for `first`. -/
theorem ItemsText.scanItems_eq {text : List Char} {values : List String}
    (h : ItemsText text values) (rest : List Char) {first : Bool}
    (hfirst : first = true → values ≠ [""]) :
    scanItems first (text ++ ')' :: rest) = .found values rest := by
  induction h generalizing first with
  | @last before after value hbefore hvalue hafter =>
    have hclose : isDelimiter ')' = true := rfl
    have hvalue := isWord_of_valueFlaw?_eq_none hvalue
    obtain ⟨hword, hskip⟩ := takeWord_item hbefore hvalue hafter hclose rest
    simp only [List.append_assoc]
    rw [scanItems_of_close hskip, hword, String.ofList_toList]
    cases first with
    | false => rfl
    | true =>
      have hne : value ≠ "" := by simpa using hfirst rfl
      simp [hne]
  | @cons before after items value values hbefore hvalue hafter hrest ih =>
    have hcomma : isDelimiter ',' = true := rfl
    have hvalue := isWord_of_valueFlaw?_eq_none hvalue
    obtain ⟨hword, hskip⟩ := takeWord_item hbefore hvalue hafter hcomma (items ++ ')' :: rest)
    simp only [List.append_assoc, List.cons_append]
    rw [scanItems_of_comma hskip, ih (by simp), hword, String.ofList_toList]
    rfl

theorem scanItems_of_blanks {inner : List Char} (hinner : Blanks inner) (rest : List Char) :
    scanItems true (inner ++ ')' :: rest) = .found [] rest := by
  have hclose : isDelimiter ')' = true := rfl
  have hskip := skipBlanks_append_delimiter hinner hclose rest
  have htake : takeWord (inner ++ ')' :: rest) = ([], ')' :: rest) := by
    rw [takeWord_eq_nil (by simpa [hskip] using isInWord_of_isDelimiter hclose), hskip]
  rw [scanItems_of_close (by rw [htake]; exact skipBlanks_cons rfl rest), htake]
  rfl

theorem ListText.scanValues_eq {before list : List Char} {values : List String}
    (h : ListText list values) (hbefore : Blanks before) (rest : List Char) :
    scanValues (before ++ (list ++ rest)) = .found values rest := by
  have hopen (inner : List Char) :
      skipBlanks (before ++ ('(' :: (inner ++ [')']) ++ rest)) = '(' :: (inner ++ ')' :: rest) := by
    simp [skipBlanks_append_delimiter hbefore (show isDelimiter '(' = true from rfl)]
  cases h with
  | @empty inner hinner =>
    rw [scanValues_of_open (hopen inner)]
    exact scanItems_of_blanks hinner rest
  | @items inner values hitems hvalues =>
    rw [scanValues_of_open (hopen inner)]
    exact hitems.scanItems_eq rest fun _ => hvalues

/-! ### Clauses -/

/-- What ends a clause starts with no word character and with no sign of an operator. -/
theorem head?_of_endsClause {text : List Char} (h : endsClause text = true) :
    (skipBlanks text).head?.any isInWord = false ∧
      (skipBlanks text).head?.any isOperatorSign = false := by
  rcases endsClause_iff.mp h with hend | ⟨rest, hcomma⟩
  · simp [hend]
  · rw [hcomma]
    exact ⟨rfl, rfl⟩

theorem scanValue_eq {before : List Char} {value : String} {text : List Char}
    (hbefore : Blanks before) (hvalue : valueFlaw? value = none) (hends : endsClause text = true) :
    scanValue (before ++ (value.toList ++ text)) = .found value (skipBlanks text) := by
  obtain ⟨hstop, hsign⟩ := head?_of_endsClause hends
  obtain ⟨hword, hskip⟩ :=
    takeWord_append_blanks text hbefore (isWord_of_valueFlaw?_eq_none hvalue) hstop
  rw [scanValue_of_not_sign (by rwa [hskip]), hword, hskip, String.ofList_toList]

/-- After a key, blanks and the spelling of an operator, its operand is read. -/
theorem scanCondition_of_spelling {before rest : List Char} (operator : Operator)
    (hbefore : Blanks before) (hlongest : operator = .equal → rest.head? ≠ some '=') :
    scanCondition (before ++ (operator.spelling ++ rest)) = scanOperand rest operator := by
  have hskip : skipBlanks (before ++ (operator.spelling ++ rest)) = operator.spelling ++ rest := by
    rw [skipBlanks_append hbefore]
    cases operator <;> rfl
  have hends : endsClause (before ++ (operator.spelling ++ rest)) = false := by
    unfold endsClause
    rw [hskip]
    cases operator <;> rfl
  refine scanCondition_of_operator hends (scanOperator_of_spelling ?_)
  rw [hskip]
  exact operatorAt_spelling operator hlongest

theorem scanClause_of_keyText {before rest : List Char} {key : String} (hbefore : Blanks before)
    (hkey : keyFlaw? key = none) (hrest : rest.head?.any isInWord = false) :
    scanClause (before ++ (key.toList ++ rest)) =
      (scanCondition rest).map fun condition => ⟨key, condition⟩ := by
  obtain ⟨hne, hword⟩ := isWord_of_keyFlaw?_eq_none hkey
  have htake := takeWord_eq_of_ne_nil hbefore hword hne hrest
  have hbang : (skipBlanks (before ++ (key.toList ++ rest))).head? ≠ some '!' := by
    obtain ⟨c, tail, hcons, hblank, hdelimiter⟩ := hword.head? hne rest
    rw [skipBlanks_append hbefore, hcons, skipBlanks_cons hblank]
    intro hc
    cases Option.some.inj hc
    exact absurd hdelimiter (by decide)
  rw [scanClause_of_key hbang, htake, String.ofList_toList]

/-- The text after a sign does not start with another one. -/
theorem head?_ne_equals {before text : List Char} {value : String} (hbefore : Blanks before)
    (hvalue : valueFlaw? value = none) (hends : endsClause text = true) :
    (before ++ (value.toList ++ text)).head? ≠ some '=' := by
  intro h
  obtain ⟨tail, htail⟩ := List.head?_eq_some_iff.mp h
  have hskip : skipBlanks (value.toList ++ text) = '=' :: tail := by
    rw [← skipBlanks_append hbefore, htail, skipBlanks_cons rfl]
  by_cases hne : value.toList = []
  · rw [hne, List.nil_append] at hskip
    have hsign := (head?_of_endsClause hends).2
    rw [hskip] at hsign
    cases hsign
  · obtain ⟨c, rest, hcons, hblank, hdelimiter⟩ :=
      (isWord_of_valueFlaw?_eq_none hvalue).head? hne text
    rw [hcons, skipBlanks_cons hblank] at hskip
    cases hskip
    exact absurd hdelimiter (by decide)

/-- A clause with an operator is read as its key and its operand. Only a sign may stand
right behind the key; a word needs blanks before it. -/
theorem scanClause_of_operator {before gap rest : List Char} {key : String} (operator : Operator)
    (hbefore : Blanks before) (hkey : keyFlaw? key = none) (hgap : Blanks gap)
    (hsign : gap ≠ [] ∨ operator.spelling.head?.any isInWord = false)
    (hlongest : operator = .equal → rest.head? ≠ some '=') :
    scanClause (before ++ (key.toList ++ (gap ++ (operator.spelling ++ rest)))) =
      (scanOperand rest operator).map fun condition => ⟨key, condition⟩ := by
  have hstop : (gap ++ (operator.spelling ++ rest)).head?.any isInWord = false := by
    by_cases hne : gap = []
    · subst hne
      have hhead := hsign.resolve_left (by simp)
      cases operator <;> exact hhead
    · exact hgap.head? hne _
  rw [scanClause_of_keyText hbefore hkey hstop, scanCondition_of_spelling operator hgap hlongest]

/-- A clause is read whole, and the same text remains after the blanks behind it. -/
theorem ClauseText.scanClause_eq {before clause text : List Char} {c : Clause}
    (h : ClauseText clause c) (hbefore : Blanks before) (hends : endsClause text = true) :
    ∃ rest, scanClause (before ++ (clause ++ text)) = .found c rest ∧
      skipBlanks rest = skipBlanks text := by
  have hstop := head?_of_head?_skipBlanks (head?_of_endsClause hends).1
  cases h with
  | @present key hkey =>
    refine ⟨text, ?_, rfl⟩
    rw [scanClause_of_keyText hbefore hkey hstop, scanCondition_of_ends hends, Scan.map_found]
  | @absent gap key hgap hkey =>
    obtain ⟨hne, hword⟩ := isWord_of_keyFlaw?_eq_none hkey
    have hbang : isDelimiter '!' = true := rfl
    refine ⟨text, ?_, rfl⟩
    simp only [List.cons_append, List.append_assoc]
    rw [scanClause_of_bang (skipBlanks_append_delimiter hbefore hbang _),
      takeWord_eq_of_ne_nil hgap hword hne hstop, String.ofList_toList]
  | @equal gap sign after key value hkey hgap hsign hafter hvalue =>
    have hlongest := head?_ne_equals hafter hvalue hends
    refine ⟨skipBlanks text, ?_, skipBlanks_skipBlanks text⟩
    simp only [List.append_assoc]
    rcases hsign with rfl | rfl
    · refine (scanClause_of_operator .equal hbefore hkey hgap (Or.inr rfl)
        fun _ => hlongest).trans ?_
      rw [scanOperand, scanValue_eq hafter hvalue hends, Scan.map_found, Scan.map_found]
    · refine (scanClause_of_operator .doubleEqual hbefore hkey hgap (Or.inr rfl) (by simp)).trans ?_
      rw [scanOperand, scanValue_eq hafter hvalue hends, Scan.map_found, Scan.map_found]
  | @unequal gap after key value hkey hgap hafter hvalue =>
    refine ⟨skipBlanks text, ?_, skipBlanks_skipBlanks text⟩
    simp only [List.append_assoc]
    refine (scanClause_of_operator .unequal hbefore hkey hgap (Or.inr rfl) (by simp)).trans ?_
    rw [scanOperand, scanValue_eq hafter hvalue hends, Scan.map_found, Scan.map_found]
  | @among gap after list key values hkey hgap hne hafter hlist =>
    refine ⟨text, ?_, rfl⟩
    simp only [List.append_assoc]
    refine (scanClause_of_operator .within hbefore hkey hgap (Or.inl hne) (by simp)).trans ?_
    rw [scanOperand, hlist.scanValues_eq hafter, Scan.map_found, Scan.map_found]
  | @outside gap after list key values hkey hgap hne hafter hlist =>
    refine ⟨text, ?_, rfl⟩
    simp only [List.append_assoc]
    refine (scanClause_of_operator .without hbefore hkey hgap (Or.inl hne) (by simp)).trans ?_
    rw [scanOperand, hlist.scanValues_eq hafter, Scan.map_found, Scan.map_found]

/-! ### Texts -/

/-- A clause starts with a character that is not a blank. -/
theorem ClauseText.skipBlanks_append {before clause : List Char} {c : Clause}
    (h : ClauseText clause c) (hbefore : Blanks before) (rest : List Char) :
    skipBlanks (before ++ (clause ++ rest)) = clause ++ rest ∧ clause ++ rest ≠ [] := by
  have hstart {key : String} (hkey : keyFlaw? key = none) (tail : List Char) :
      skipBlanks (before ++ (key.toList ++ tail)) = key.toList ++ tail ∧
        key.toList ++ tail ≠ [] := by
    obtain ⟨hne, hword⟩ := isWord_of_keyFlaw?_eq_none hkey
    obtain ⟨d, tail', hcons, hblank, -⟩ := hword.head? hne tail
    rw [Source.skipBlanks_append hbefore, hcons, skipBlanks_cons hblank]
    exact ⟨rfl, by simp⟩
  cases h with
  | present hkey => exact hstart hkey rest
  | absent hgap hkey =>
    exact ⟨skipBlanks_append_delimiter hbefore rfl _, by simp⟩
  | equal hkey => simpa only [List.append_assoc] using hstart hkey _
  | unequal hkey => simpa only [List.append_assoc] using hstart hkey _
  | among hkey => simpa only [List.append_assoc] using hstart hkey _
  | outside hkey => simpa only [List.append_assoc] using hstart hkey _

/-- What may follow the last clause of a text. -/
theorem HangingComma.afterComma?_eq {comma after : List Char} (h : HangingComma comma)
    (hafter : Blanks after) :
    endsClause (comma ++ after) = true ∧ afterComma? (comma ++ after) = .ok none := by
  cases h with
  | nothing =>
    have hskip : skipBlanks ([] ++ after) = [] := skipBlanks_eq_nil hafter
    exact ⟨endsClause_iff.mpr (Or.inl hskip), afterComma?_of_end hskip⟩
  | @comma before hbefore =>
    have hskip : skipBlanks (before ++ [','] ++ after) = ',' :: after := by
      rw [List.append_assoc]
      exact skipBlanks_append_delimiter hbefore rfl after
    refine ⟨endsClause_iff.mpr (Or.inr ⟨after, hskip⟩), ?_⟩
    rw [afterComma?_of_comma hskip, if_pos (skipBlanks_eq_nil hafter)]

/-- Clauses between commas are read to the end of the text. -/
theorem MoreText.readClauses_eq {before clause more comma after : List Char} {c : Clause}
    {cs : List Clause} (hmore : MoreText more cs) (hbefore : Blanks before)
    (hclause : ClauseText clause c) (hcomma : HangingComma comma) (hafter : Blanks after) :
    (readClauses (before ++ (clause ++ (more ++ (comma ++ after))))).fault = none ∧
      (readClauses (before ++ (clause ++ (more ++ (comma ++ after))))).clauses.map Prod.fst =
        c :: cs := by
  induction hmore generalizing before clause c with
  | nil =>
    obtain ⟨hends, hlast⟩ := hcomma.afterComma?_eq hafter
    obtain ⟨rest, hscan, hrest⟩ := hclause.scanClause_eq hbefore hends
    rw [← afterComma?_congr hrest] at hlast
    rw [List.nil_append, readClauses_of_last hscan hlast]
    exact ⟨rfl, rfl⟩
  | @cons gap gap' clause' more d ds hgap hgap' hclause' hmore ih =>
    obtain ⟨hnext, hne⟩ := hclause'.skipBlanks_append hgap' (more ++ (comma ++ after))
    have hcomma := skipBlanks_append_delimiter hgap (show isDelimiter ',' = true from rfl)
      (gap' ++ (clause' ++ (more ++ (comma ++ after))))
    obtain ⟨rest, hscan, hrest⟩ :=
      hclause.scanClause_eq hbefore (endsClause_iff.mpr (Or.inr ⟨_, hcomma⟩))
    have hafter : afterComma? rest = .ok (some (clause' ++ (more ++ (comma ++ after)))) := by
      rw [afterComma?_of_comma (hrest.trans hcomma), hnext, if_neg hne]
    obtain ⟨hfault, hclauses⟩ := ih Blanks.nil hclause'
    simp only [List.append_assoc, List.cons_append]
    rw [readClauses_of_next hscan hafter]
    exact ⟨hfault, by rw [List.map_cons, ← hclauses, List.nil_append]⟩

/-- A text is read as the clauses that it is made of. -/
theorem ClausesText.form_eq_ok {text : List Char} {cs : List Clause} (h : ClausesText text cs) :
    form text = .ok (.collect (cs.map .clause)) := by
  cases h with
  | text hbefore hfirst hmore hcomma hafter =>
    obtain ⟨hfault, hclauses⟩ := hmore.readClauses_eq hbefore hfirst hcomma hafter
    obtain ⟨hskip, hne⟩ := hfirst.skipBlanks_append hbefore _
    refine form_eq_ok_iff.mpr ⟨by rwa [hskip], hfault, ?_⟩
    rw [hclauses]

/-- A text is accepted as the clauses that it is made of. -/
theorem ClausesText.parse_eq_ok {text : String} {cs : List Clause}
    (h : ClausesText text.toList cs) :
    Selector.parse text = .ok (.collect (cs.map .clause)) := by
  refine Selector.parse_eq_ok_iff.mpr ⟨h.form_eq_ok, ?_⟩
  rw [Selector.flaw?_eq_none_iff, Selector.clauses_collect]
  exact h.flaw?_eq_none

end LabelQuery.Source
