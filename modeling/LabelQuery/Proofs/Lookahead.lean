/-
What a scanner looks at behind what it reads.

A clause is read off the front of a text, and of the text behind it the scanners look
at two characters only: the next one, and the next one that is no blank. So the text
behind may be exchanged for another one that looks the same there, or for one that
ends a clause in any case (`scanClause_exchange`). A list looks at nothing behind its
closing parenthesis (`scanValues_exchange`). Where a comma follows a clause, the text
after the comma is read on its own (`readClauses_exchange`).
-/

import LabelQuery.Proofs.GrammarSound
import LabelQuery.Proofs.ValueLists

namespace LabelQuery.Source

open LabelQuery.Text

/-! ### Texts that look alike -/

/-- The two texts start with the same character, and so they do behind their blanks. -/
def LooksLike (text text' : List Char) : Prop :=
  text.head? = text'.head? ∧ (skipBlanks text).head? = (skipBlanks text').head?

/-- Behind a clause `tail` may stand in for `rest`. -/
def StandsFor (tail rest : List Char) : Prop :=
  endsClause tail = true ∨ LooksLike tail rest

theorem skipBlanks_append_of_ne_nil {text : List Char} (h : skipBlanks text ≠ [])
    (more : List Char) : skipBlanks (text ++ more) = skipBlanks text ++ more := by
  unfold skipBlanks at h ⊢
  rw [List.dropWhile_append, if_neg (by simpa using h)]

theorem skipBlanks_append_ne_nil_of_left {text : List Char} (h : skipBlanks text ≠ [])
    (more : List Char) : skipBlanks (text ++ more) ≠ [] := by
  rw [skipBlanks_append_of_ne_nil h]
  exact List.append_ne_nil_of_left_ne_nil h more

theorem skipBlanks_append_ne_nil_of_right {text : List Char} (h : skipBlanks text ≠ [])
    (before : List Char) : skipBlanks (before ++ text) ≠ [] := by
  intro hnil
  refine h (skipBlanks_eq_nil ?_)
  intro c hc
  exact blanks_of_skipBlanks_eq_nil hnil c (List.mem_append_right _ hc)

/-- More text behind a text changes nothing in front, unless there are only blanks. -/
theorem LooksLike.append {text : List Char} (h : skipBlanks text ≠ []) (more : List Char) :
    LooksLike (text ++ more) text := by
  constructor
  · cases text with
    | nil => exact absurd rfl h
    | cons c text => rfl
  · rw [skipBlanks_append_of_ne_nil h]
    cases hskip : skipBlanks text with
    | nil => exact absurd hskip h
    | cons c rest => rfl

/-- Exchanging what stands behind a non-blank character is not seen in front of it. -/
theorem LooksLike.of_cons {gap : List Char} {c : Char} (hgap : Blanks gap)
    (hc : isBlank c = false) (rest rest' : List Char) :
    LooksLike (gap ++ c :: rest') (gap ++ c :: rest) := by
  constructor
  · cases gap <;> rfl
  · rw [skipBlanks_append hgap, skipBlanks_append hgap, skipBlanks_cons hc, skipBlanks_cons hc]
    rfl

/-- Behind the same blanks texts look alike that do so without them. -/
theorem LooksLike.blanks_append {gap tail rest : List Char} (hgap : Blanks gap)
    (h : LooksLike tail rest) : LooksLike (gap ++ tail) (gap ++ rest) := by
  constructor
  · cases gap with
    | nil => exact h.1
    | cons c gap => rfl
  · rw [skipBlanks_append hgap, skipBlanks_append hgap]
    exact h.2

theorem endsClause_blanks_append {gap : List Char} (hgap : Blanks gap) (text : List Char) :
    endsClause (gap ++ text) = endsClause text :=
  endsClause_congr (by rw [skipBlanks_append hgap])

theorem StandsFor.blanks_append {gap tail rest : List Char} (hgap : Blanks gap)
    (h : StandsFor tail rest) : StandsFor (gap ++ tail) (gap ++ rest) := by
  rcases h with h | h
  · exact Or.inl ((endsClause_blanks_append hgap tail).trans h)
  · exact Or.inr (h.blanks_append hgap)

theorem StandsFor.endsClause {tail rest : List Char} (h : StandsFor tail rest)
    (hrest : endsClause rest = true) : endsClause tail = true := by
  rcases h with h | h
  · exact h
  · rwa [endsClause_congr h.2]

/-- What stands in for a text that starts with no `c` starts with none either, unless
`c` is the comma. -/
theorem StandsFor.head?_ne {tail rest : List Char} {c : Char} (h : StandsFor tail rest)
    (hc : c ≠ ',') (hrest : (skipBlanks rest).head? ≠ some c) :
    (skipBlanks tail).head? ≠ some c := by
  rcases h with h | h
  · rcases endsClause_iff.mp h with hnil | ⟨more, hcomma⟩
    · simp [hnil]
    · simpa [hcomma] using hc.symm
  · rwa [h.2]

/-! ### Words -/

/-- Blanks and the word are what stands before the text left behind the word. -/
theorem exists_blanks_of_append_takeWord {before text : List Char}
    (htext : text = before ++ (takeWord text).2) :
    ∃ run, Blanks run ∧ before = run ++ (takeWord text).1 := by
  obtain ⟨run, hrun, hword⟩ := exists_blanks_append_takeWord text
  rw [← List.append_assoc] at hword
  exact ⟨run, hrun, List.append_cancel_right (htext.symm.trans hword)⟩

/-- A word is taken again where no word character follows the blanks behind it. -/
theorem takeWord_exchange_of_stop {before text tail : List Char}
    (htext : text = before ++ (takeWord text).2)
    (hstop : (skipBlanks tail).head?.any isInWord = false) :
    (takeWord (before ++ tail)).1 = (takeWord text).1 ∧
      skipBlanks (takeWord (before ++ tail)).2 = skipBlanks tail := by
  obtain ⟨run, hrun, hbefore⟩ := exists_blanks_of_append_takeWord htext
  rw [hbefore, List.append_assoc]
  exact takeWord_append_blanks tail hrun (isWord_takeWord text) hstop

/-- A word is taken again in front of a text that looks like the one behind it. -/
theorem takeWord_exchange_of_looksLike {before text tail : List Char}
    (htext : text = before ++ (takeWord text).2) (h : LooksLike tail (takeWord text).2) :
    takeWord (before ++ tail) = ((takeWord text).1, tail) := by
  obtain ⟨run, hrun, hbefore⟩ := exists_blanks_of_append_takeWord htext
  have hstop := head?_takeWord text
  by_cases hne : (takeWord text).1 = []
  · -- Without a word no blank is left in front of the rest, nor of what looks like it.
    have hrest : (takeWord text).2 = skipBlanks text := by
      rw [← takeWord_append, hne, List.nil_append]
    have hblank : tail.head?.any isBlank = false := by
      rw [h.1, hrest]
      exact head?_skipBlanks text
    have hskip : skipBlanks (before ++ tail) = tail := by
      rw [hbefore, hne, List.append_nil, skipBlanks_append hrun, skipBlanks_eq_self hblank]
    rw [takeWord_eq_nil (by rw [hskip, h.1]; exact hstop), hskip, hne]
  · rw [hbefore, List.append_assoc]
    refine takeWord_eq_of_ne_nil hrun (isWord_takeWord text) hne ?_
    rw [h.1]
    exact hstop

/-- Where something besides blanks follows a word, more text leaves the word as it is. -/
theorem takeWord_append_of_ne_nil {text : List Char} (h : skipBlanks (takeWord text).2 ≠ [])
    (more : List Char) :
    takeWord (text ++ more) = ((takeWord text).1, (takeWord text).2 ++ more) := by
  obtain ⟨before, hbefore⟩ := takeWord_suffix text
  have htake := takeWord_exchange_of_looksLike hbefore.symm (LooksLike.append h more)
  rwa [← List.append_assoc, hbefore] at htake

/-- A word is taken again in front of what stands in for the text behind it. -/
theorem takeWord_exchange {before text tail : List Char}
    (htext : text = before ++ (takeWord text).2) (h : StandsFor tail (takeWord text).2) :
    (takeWord (before ++ tail)).1 = (takeWord text).1 ∧
      skipBlanks (takeWord (before ++ tail)).2 = skipBlanks tail := by
  rcases h with h | h
  · exact takeWord_exchange_of_stop htext (head?_of_endsClause h).1
  · rw [takeWord_exchange_of_looksLike htext h]
    exact ⟨rfl, rfl⟩

/-- The text up to what remains behind a word, and up to what remains behind its blanks. -/
theorem exists_append_takeWord (text : List Char) :
    ∃ before gap, Blanks gap ∧ text = before ++ (takeWord text).2 ∧
      (takeWord text).2 = gap ++ skipBlanks (takeWord text).2 := by
  obtain ⟨before, hbefore⟩ := takeWord_suffix text
  obtain ⟨gap, hgap, hrest⟩ := exists_blanks_append_skipBlanks (takeWord text).2
  exact ⟨before, gap, hgap, hbefore.symm, hrest⟩

/-- The text up to what remains behind a word and its blanks. The word is taken again
where a delimiter stands there. -/
theorem exists_append_delimiter (text : List Char) :
    ∃ before, text = before ++ skipBlanks (takeWord text).2 ∧
      ∀ d tail, isDelimiter d = true →
        (takeWord (before ++ d :: tail)).1 = (takeWord text).1 ∧
          skipBlanks (takeWord (before ++ d :: tail)).2 = d :: tail := by
  obtain ⟨before, gap, hgap, htext, hrest⟩ := exists_append_takeWord text
  refine ⟨before ++ gap, by rw [List.append_assoc, ← hrest]; exact htext, ?_⟩
  intro d tail hd
  have hnext : skipBlanks (gap ++ d :: tail) = d :: tail :=
    skipBlanks_append_delimiter hgap hd tail
  have hstop : (skipBlanks (gap ++ d :: tail)).head?.any isInWord = false := by
    simpa [hnext] using isInWord_of_isDelimiter hd
  rw [List.append_assoc]
  obtain ⟨hword, hafter⟩ := takeWord_exchange_of_stop htext hstop
  exact ⟨hword, hafter.trans hnext⟩

/-! ### Lists -/

/-- A list is read again whatever stands behind it. -/
theorem scanValues_exchange {text rest : List Char} {values : List String}
    (h : scanValues text = .found values rest) :
    ∃ before, text = before ++ rest ∧
      ∀ tail, scanValues (before ++ tail) = .found values tail := by
  obtain ⟨hgap, hbody⟩ := scanValues_eq_found_iff.mp h
  rename_i gap body
  refine ⟨gap ++ '(' :: (body ++ [')']), by simp, ?_⟩
  intro tail
  rw [scanValues_eq_found_iff]
  simpa using HasList.list hgap hbody

/-! ### Clauses -/

/-- The value of a clause is taken again in front of what stands in for the text behind
its blanks. -/
theorem takeWord_exchange_skipBlanks (text : List Char) :
    ∃ before, text = before ++ skipBlanks (takeWord text).2 ∧
      ∀ tail, StandsFor tail (skipBlanks (takeWord text).2) →
        (takeWord (before ++ tail)).1 = (takeWord text).1 ∧
          skipBlanks (takeWord (before ++ tail)).2 = skipBlanks tail := by
  obtain ⟨before, gap, hgap, htext, hrest⟩ := exists_append_takeWord text
  refine ⟨before ++ gap, by rw [List.append_assoc, ← hrest]; exact htext, ?_⟩
  intro tail htail
  have hstands : StandsFor (gap ++ tail) (takeWord text).2 := by
    rw [hrest]
    exact htail.blanks_append hgap
  obtain ⟨hword, hskip⟩ := takeWord_exchange htext hstands
  rw [List.append_assoc]
  exact ⟨hword, hskip.trans (skipBlanks_append hgap tail)⟩

/-- No operand starts with a sign, where its operator is one that may be doubled. -/
theorem head?_ne_equals_of_scanOperand {operand rest : List Char} {operator : Operator}
    {condition : Condition} (h : scanOperand operand operator = .found condition rest)
    (hequal : operator = .equal) : operand.head? ≠ some '=' := by
  subst hequal
  obtain ⟨value, hvalue, -⟩ := Scan.map_eq_found_iff.mp h
  intro hhead
  obtain ⟨tail, rfl⟩ := List.head?_eq_some_iff.mp hhead
  have htake : takeWord ('=' :: tail) = ([], '=' :: tail) := takeWord_eq_nil rfl
  have hsign : (skipBlanks (takeWord ('=' :: tail)).2).head?.any isOperatorSign = true := by
    rw [htake]
    rfl
  exact absurd hsign (by simp [not_sign_of_scanValue hvalue])

/-- The operand of a clause is read again in front of what stands in for the text
behind it. -/
theorem scanOperand_exchange {operand rest : List Char} {operator : Operator}
    {condition : Condition} (h : scanOperand operand operator = .found condition rest) :
    ∃ before, operand = before ++ rest ∧ ∀ tail, StandsFor tail rest →
      ∃ rest', scanOperand (before ++ tail) operator = .found condition rest' ∧
        skipBlanks rest' = skipBlanks tail := by
  rcases scanOperand_eq_map operator with ⟨f, hf⟩ | ⟨-, f, hf⟩
  · rw [hf] at h
    obtain ⟨value, hvalue, rfl⟩ := Scan.map_eq_found_iff.mp h
    obtain ⟨hword, rfl⟩ := scanValue_eq_found hvalue
    obtain ⟨before, htext, hexchange⟩ := takeWord_exchange_skipBlanks operand
    refine ⟨before, htext, ?_⟩
    intro tail htail
    obtain ⟨hword', hskip⟩ := hexchange tail htail
    have hsign : (skipBlanks tail).head?.any isOperatorSign = false := by
      rcases htail with hends | hlike
      · exact (head?_of_endsClause hends).2
      · rw [hlike.2, skipBlanks_skipBlanks]
        exact not_sign_of_scanValue hvalue
    refine ⟨skipBlanks tail, ?_, skipBlanks_skipBlanks tail⟩
    rw [hf, scanValue_of_not_sign (by rwa [hskip]), hword', hskip, ← hword, Scan.map_found]
  · rw [hf] at h
    obtain ⟨values, hvalues, rfl⟩ := Scan.map_eq_found_iff.mp h
    obtain ⟨before, htext, hexchange⟩ := scanValues_exchange hvalues
    refine ⟨before, htext, ?_⟩
    intro tail _
    exact ⟨tail, by rw [hf, hexchange tail, Scan.map_found], rfl⟩

theorem Operator.spelling_eq_cons (operator : Operator) :
    ∃ c tail, operator.spelling = c :: tail ∧ isBlank c = false ∧
      ∀ rest, endsClause (operator.spelling ++ rest) = false := by
  cases operator <;> exact ⟨_, _, rfl, rfl, fun _ => rfl⟩

/-- A key in front of a text that stands in for the one behind it is no denied key, and
it is the same key. -/
theorem scanClause_exchange_key {before text tail : List Char}
    (hbang : (skipBlanks text).head? ≠ some '!') (htext : text = before ++ (takeWord text).2)
    (h : StandsFor tail (takeWord text).2) :
    scanClause (before ++ tail) = (scanCondition (takeWord (before ++ tail)).2).map
        (fun condition => ⟨String.ofList (takeWord text).1, condition⟩) ∧
      skipBlanks (takeWord (before ++ tail)).2 = skipBlanks tail := by
  obtain ⟨hword, hskip⟩ := takeWord_exchange htext h
  refine ⟨?_, hskip⟩
  have hbang' : (skipBlanks (before ++ tail)).head? ≠ some '!' := by
    rw [← takeWord_append, hword]
    rw [← takeWord_append] at hbang
    cases hkey : (takeWord text).1 with
    | cons c key => simpa [hkey] using hbang
    | nil =>
      -- Without a word the blanks were passed, so what remains has none in front.
      rw [hkey, List.nil_append] at hbang
      have hpassed : (takeWord (before ++ tail)).2 = skipBlanks (before ++ tail) := by
        rw [← takeWord_append, hword, hkey, List.nil_append]
      have hrest : (takeWord text).2 = skipBlanks text := by
        rw [← takeWord_append, hkey, List.nil_append]
      rw [List.nil_append, hpassed, ← skipBlanks_skipBlanks, ← hpassed, hskip]
      refine h.head?_ne (by decide) ?_
      rwa [hrest, skipBlanks_skipBlanks, ← hrest]
  rw [scanClause_of_key hbang', hword]

/-- Behind a key any operator is read that starts like the text there, and any operand
behind it that does not prolong the operator. -/
theorem scanClause_exchange_operator {text place : List Char} {operator : Operator}
    (hbang : (skipBlanks text).head? ≠ some '!') (hplace : skipBlanks (takeWord text).2 = place)
    (hhead : place.head? = operator.spelling.head?) :
    ∃ before, text = before ++ place ∧
      ∀ operand, (operator = .equal → operand.head? ≠ some '=') →
        scanClause (before ++ (operator.spelling ++ operand)) =
          (scanOperand operand operator).map
            fun condition => ⟨String.ofList (takeWord text).1, condition⟩ := by
  obtain ⟨before, gap, hgap, htext, hrest⟩ := exists_append_takeWord text
  rw [hplace] at hrest
  refine ⟨before ++ gap, by rw [List.append_assoc, ← hrest]; exact htext, ?_⟩
  intro operand hlongest
  obtain ⟨c, spelling, hcons, hblank, hnot⟩ := operator.spelling_eq_cons
  obtain ⟨tail, htail⟩ : ∃ tail, place = c :: tail := by
    rw [hcons] at hhead
    exact List.head?_eq_some_iff.mp hhead
  have hstands : StandsFor (gap ++ (operator.spelling ++ operand)) (takeWord text).2 := by
    rw [hrest, hcons, htail]
    exact Or.inr (.of_cons hgap hblank _ _)
  obtain ⟨hclause, hskip⟩ := scanClause_exchange_key hbang htext hstands
  have hafter : skipBlanks (gap ++ (operator.spelling ++ operand)) =
      operator.spelling ++ operand := by
    rw [skipBlanks_append hgap, hcons, List.cons_append, skipBlanks_cons hblank]
  rw [hafter] at hskip
  rw [List.append_assoc, hclause]
  have hends : endsClause (takeWord (before ++ (gap ++ (operator.spelling ++ operand)))).2
      = false := by
    rw [← hnot operand]
    exact endsClause_congr (by rw [hskip, ← hafter, skipBlanks_skipBlanks])
  refine congrArg _ (scanCondition_of_operator hends (scanOperator_of_spelling ?_))
  rw [hskip]
  exact operatorAt_spelling operator hlongest

/-- Behind a key and an operator any operand is read that does not prolong the operator. -/
theorem scanClause_exchange_operand {text operand : List Char} {operator : Operator}
    (hbang : (skipBlanks text).head? ≠ some '!')
    (hspelling : skipBlanks (takeWord text).2 = operator.spelling ++ operand) :
    ∃ before, text = before ++ operand ∧
      ∀ operand', (operator = .equal → operand'.head? ≠ some '=') →
        scanClause (before ++ operand') = (scanOperand operand' operator).map
          fun condition => ⟨String.ofList (takeWord text).1, condition⟩ := by
  obtain ⟨c, spelling, hcons, -, -⟩ := operator.spelling_eq_cons
  obtain ⟨before, htext, hexchange⟩ :=
    scanClause_exchange_operator hbang hspelling (by rw [hcons]; rfl)
  refine ⟨before ++ operator.spelling, by rw [List.append_assoc]; exact htext, ?_⟩
  intro operand' hlongest
  rw [List.append_assoc]
  exact hexchange operand' hlongest

/-- Nothing but the end of a clause makes its key the whole of it. -/
theorem endsClause_of_scanCondition {text rest : List Char}
    (h : scanCondition text = .found .present rest) : endsClause text = true := by
  unfold scanCondition at h
  split at h
  · assumption
  · dsimp only at h
    split at h
    · rename_i operator _
      cases operator <;> simp [scanOperand, Scan.map_eq_found_iff] at h
    · simp [Scan.found] at h

/-- A key is a clause where the clause ends behind it. -/
theorem scanClause_exchange_present {before text tail : List Char}
    (hbang : (skipBlanks text).head? ≠ some '!') (htext : text = before ++ (takeWord text).2)
    (hends : endsClause tail = true) :
    ∃ rest', scanClause (before ++ tail) =
        .found ⟨String.ofList (takeWord text).1, .present⟩ rest' ∧
      skipBlanks rest' = skipBlanks tail := by
  obtain ⟨hclause, hskip⟩ := scanClause_exchange_key hbang htext (Or.inl hends)
  have hends' : endsClause (takeWord (before ++ tail)).2 = true :=
    (endsClause_congr (congrArg List.head? hskip)).trans hends
  refine ⟨_, ?_, hskip⟩
  rw [hclause, scanCondition_of_ends hends', Scan.map_found]

/-- A denied key is read again in front of what stands in for the text behind it. -/
theorem scanClause_exchange_absent {text after : List Char}
    (hskip : skipBlanks text = '!' :: after) :
    ∃ before, text = before ++ (takeWord after).2 ∧
      ∀ tail, StandsFor tail (takeWord after).2 →
        ∃ rest', scanClause (before ++ tail) =
            .found ⟨String.ofList (takeWord after).1, .absent⟩ rest' ∧
          skipBlanks rest' = skipBlanks tail := by
  obtain ⟨run, hrun, htext⟩ := exists_blanks_append_skipBlanks text
  obtain ⟨before, hbefore⟩ := takeWord_suffix after
  refine ⟨run ++ '!' :: before, ?_, ?_⟩
  · rw [List.append_assoc, List.cons_append, hbefore, ← hskip]
    exact htext
  · intro tail htail
    obtain ⟨hword, hrest⟩ := takeWord_exchange hbefore.symm htail
    have hskip' : skipBlanks (run ++ '!' :: (before ++ tail)) = '!' :: (before ++ tail) :=
      skipBlanks_append_delimiter hrun rfl _
    refine ⟨(takeWord (before ++ tail)).2, ?_, hrest⟩
    rw [List.append_assoc, List.cons_append, scanClause_of_bang hskip', hword]

/-- A clause is read again in front of what stands in for the text behind it. -/
theorem scanClause_exchange {text rest : List Char} {c : Clause}
    (h : scanClause text = .found c rest) :
    ∃ before, text = before ++ rest ∧ ∀ tail, StandsFor tail rest →
      ∃ rest', scanClause (before ++ tail) = .found c rest' ∧
        skipBlanks rest' = skipBlanks tail := by
  by_cases hbang : (skipBlanks text).head? = some '!'
  · obtain ⟨after, hskip⟩ := List.head?_eq_some_iff.mp hbang
    rw [scanClause_of_bang hskip] at h
    obtain ⟨rfl, rfl⟩ := Scan.found_inj.mp h
    exact scanClause_exchange_absent hskip
  · rw [scanClause_of_key hbang] at h
    obtain ⟨condition, hcondition, rfl⟩ := Scan.map_eq_found_iff.mp h
    rcases scanCondition_eq_found hcondition with
      ⟨rfl, rfl⟩ | ⟨operator, operand, hspelling, hoperand⟩
    · obtain ⟨before, htext⟩ := takeWord_suffix text
      refine ⟨before, htext.symm, ?_⟩
      intro tail htail
      exact scanClause_exchange_present hbang htext.symm
        (htail.endsClause (endsClause_of_scanCondition hcondition))
    · obtain ⟨before, htext, hexchange⟩ := scanClause_exchange_operand hbang hspelling
      obtain ⟨inner, rfl, hinner⟩ := scanOperand_exchange hoperand
      refine ⟨before ++ inner, by rw [List.append_assoc]; exact htext, ?_⟩
      intro tail htail
      obtain ⟨rest', hfound, hrest'⟩ := hinner tail htail
      refine ⟨rest', ?_, hrest'⟩
      rw [List.append_assoc, hexchange _ (head?_ne_equals_of_scanOperand hfound), hfound,
        Scan.map_found]

/-! ### Readings -/

/-- The reading of the text after a comma, which may hold no clause. -/
def readMore (text : List Char) : Reading :=
  if skipBlanks text = [] then ⟨[], none⟩ else readClauses text

theorem readMore_of_blanks {text : List Char} (h : skipBlanks text = []) :
    readMore text = ⟨[], none⟩ :=
  if_pos h

theorem readMore_of_ne_nil {text : List Char} (h : skipBlanks text ≠ []) :
    readMore text = readClauses text :=
  if_neg h

theorem readClauses_skipBlanks (text : List Char) :
    readClauses (skipBlanks text) = readClauses text := by
  have hscan : scanClause (skipBlanks text) = scanClause text := by
    unfold scanClause
    rw [skipBlanks_skipBlanks]
  unfold readClauses
  rw [hscan]

theorem readClauses_of_comma {text rest more : List Char} {c : Clause}
    (hclause : scanClause text = .found c rest) (hcomma : skipBlanks rest = ',' :: more) :
    readClauses text = ⟨(c, rest) :: (readMore more).clauses, (readMore more).fault⟩ := by
  have hafter := afterComma?_of_comma hcomma
  by_cases hmore : skipBlanks more = []
  · rw [if_pos hmore] at hafter
    rw [readClauses_of_last hclause hafter, readMore_of_blanks hmore]
  · rw [if_neg hmore] at hafter
    rw [readClauses_of_next hclause hafter, readMore_of_ne_nil hmore, readClauses_skipBlanks]

theorem readMore_blanks_append {gap : List Char} (hgap : Blanks gap) (text : List Char) :
    readMore (gap ++ text) = readMore text := by
  unfold readMore
  rw [← readClauses_skipBlanks (gap ++ text), skipBlanks_append hgap, readClauses_skipBlanks]

/-- Up to the clause behind a comma a text is read as one clause, and whatever stands
from there on is read as if it stood alone. -/
theorem readClauses_exchange {text rest next : List Char} {c : Clause}
    (hclause : scanClause text = .found c rest) (hafter : afterComma? rest = .ok (some next)) :
    ∃ before, text = before ++ next ∧ ∀ tail, ∃ rest',
      readClauses (before ++ tail) =
        ⟨(c, rest') :: (readMore tail).clauses, (readMore tail).fault⟩ := by
  obtain ⟨more, hcomma, rfl⟩ := afterComma?_eq_some hafter
  obtain ⟨before, htext, hexchange⟩ := scanClause_exchange hclause
  obtain ⟨gap, hgap, hrest⟩ := exists_blanks_append_skipBlanks rest
  obtain ⟨gap', hgap', hmore⟩ := exists_blanks_append_skipBlanks more
  rw [hcomma] at hrest
  refine ⟨before ++ (gap ++ ',' :: gap'), ?_, ?_⟩
  · rw [List.append_assoc, List.append_assoc, List.cons_append, ← hmore, ← hrest]
    exact htext
  · intro tail
    have hnext : skipBlanks (gap ++ ',' :: (gap' ++ tail)) = ',' :: (gap' ++ tail) :=
      skipBlanks_append_delimiter hgap rfl _
    obtain ⟨rest', hfound, hrest'⟩ :=
      hexchange _ (Or.inl (endsClause_iff.mpr (Or.inr ⟨_, hnext⟩)))
    refine ⟨rest', ?_⟩
    rw [List.append_assoc, List.append_assoc, List.cons_append,
      readClauses_of_comma hfound (hrest'.trans hnext), readMore_blanks_append hgap']

end LabelQuery.Source
