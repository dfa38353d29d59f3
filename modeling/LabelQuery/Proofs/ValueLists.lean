/-
Lists of values, cut at their commas.

`HasList text values rest` says that a list stands at the start of a text, and mentions
no reader: between its parentheses is a body, which is cut at the commas, and each piece
without the blanks around it is a value. `scanValues` finds exactly these lists
(`scanValues_eq_found_iff`), whatever stands behind their closing parenthesis.
-/

import LabelQuery.Proofs.ScannerSteps

namespace LabelQuery.Source

open LabelQuery.Text

/-- A text without the blanks at its ends. -/
def trimBlanks (text : List Char) : List Char :=
  (skipBlanks (skipBlanks text).reverse).reverse

/-- What may stand between the parentheses of a list: no delimiter but commas, and no
blank inside a piece. -/
structure IsListBody (body : List Char) : Prop where
  symbols : ∀ c ∈ body, c ∉ ['=', '!', '(', ')', '<', '>']
  pieces : ∀ piece ∈ body.splitOn ',', ∀ c ∈ trimBlanks piece, isBlank c = false

/-- The pieces of a body between its commas, each without the blanks at its ends. -/
def piecesOf (body : List Char) : List String :=
  (body.splitOn ',').map fun piece => String.ofList (trimBlanks piece)

/-- The values that a body lists: its pieces, or none where it is blank. -/
def listed (body : List Char) : List String :=
  if ',' ∉ body ∧ Blanks body then [] else piecesOf body

/-- A list of `values` stands at the start of the text, behind blanks, and `rest` behind
the list. -/
inductive HasList : List Char → List String → List Char → Prop where
  | list {gap body rest : List Char} (hgap : Blanks gap) (hbody : IsListBody body) :
      HasList (gap ++ '(' :: (body ++ ')' :: rest)) (listed body) rest

/-! ### Trimming -/

/-- What is trimmed off are blanks. -/
theorem exists_blanks_append_trimBlanks (text : List Char) :
    ∃ before after, Blanks before ∧ Blanks after ∧
      text = before ++ (trimBlanks text ++ after) := by
  obtain ⟨before, hbefore, htext⟩ := exists_blanks_append_skipBlanks text
  obtain ⟨after, hafter, hrest⟩ := exists_blanks_append_skipBlanks (skipBlanks text).reverse
  refine ⟨before, after.reverse, hbefore, hafter.reverse, ?_⟩
  rw [trimBlanks, ← List.reverse_append, ← hrest, List.reverse_reverse]
  exact htext

/-- A word is what is left of itself and the blanks around it. -/
theorem trimBlanks_eq {before word after : List Char} (hbefore : Blanks before)
    (hword : IsWord word) (hafter : Blanks after) :
    trimBlanks (before ++ (word ++ after)) = word := by
  have hhead {word : List Char} (hword : IsWord word) : word.head?.any isBlank = false := by
    cases word with
    | nil => rfl
    | cons c word => simpa using isBlank_of_isInWord (hword c (by simp))
  have hreverse : IsWord word.reverse := fun c hc => hword c (List.mem_reverse.mp hc)
  unfold trimBlanks
  rw [skipBlanks_append hbefore]
  by_cases hne : word = []
  · subst hne
    rw [List.nil_append, skipBlanks_eq_nil hafter]
    rfl
  · obtain ⟨c, tail, hcons, hblank, -⟩ := hword.head? hne after
    rw [hcons, skipBlanks_cons hblank, ← hcons, List.reverse_append,
      skipBlanks_append hafter.reverse, skipBlanks_eq_self (hhead hreverse),
      List.reverse_reverse]

theorem exists_item {piece : List Char} (h : IsWord (trimBlanks piece)) :
    ∃ before word after, Blanks before ∧ IsWord word ∧ Blanks after ∧
      piece = before ++ (word ++ after) := by
  obtain ⟨before, after, hbefore, hafter, htext⟩ := exists_blanks_append_trimBlanks piece
  exact ⟨before, trimBlanks piece, after, hbefore, h, hafter, htext⟩

/-! ### Bodies -/

/-- A body is words between commas, with blanks around them. -/
theorem isListBody_iff {body : List Char} :
    IsListBody body ↔ ∀ piece ∈ body.splitOn ',', IsWord (trimBlanks piece) := by
  constructor
  · intro h piece hpiece c hc
    obtain ⟨before, after, -, -, htrim⟩ := exists_blanks_append_trimBlanks piece
    have hmem : c ∈ piece := by
      rw [htrim]
      exact List.mem_append_right _ (List.mem_append_left _ hc)
    obtain ⟨hbody, hcomma⟩ := mem_splitOn_iff.mp ⟨piece, hpiece, hmem⟩
    have hsymbol := h.symbols c hbody
    have hdelimiter : isDelimiter c = false := by
      rw [Bool.eq_false_iff, ne_eq, isDelimiter_iff]
      rintro (rfl | rfl | rfl | rfl | rfl | rfl | rfl) <;> simp at hsymbol hcomma
    simp [isInWord, hdelimiter, h.pieces piece hpiece c hc]
  · intro h
    refine ⟨?_, fun piece hpiece c hc => isBlank_of_isInWord (h piece hpiece c hc)⟩
    intro c hc hsymbol
    have hdelimiter : isDelimiter c = true := by
      simp only [List.mem_cons, List.not_mem_nil, or_false] at hsymbol
      rcases hsymbol with rfl | rfl | rfl | rfl | rfl | rfl <;> rfl
    have hcomma : c ≠ ',' := by
      rintro rfl
      simp at hsymbol
    obtain ⟨piece, hpiece, hc⟩ := mem_splitOn_iff.mpr ⟨hc, hcomma⟩
    obtain ⟨before, after, hbefore, hafter, htrim⟩ := exists_blanks_append_trimBlanks piece
    have hblank := isBlank_of_isDelimiter hdelimiter
    rw [htrim, List.mem_append, List.mem_append] at hc
    rcases hc with hc | hc | hc
    · exact hbefore.not_mem hblank hc
    · exact (h piece hpiece).not_mem hdelimiter hc
    · exact hafter.not_mem hblank hc

/-! ### Scans -/

/-- Behind a word and the blanks around it a piece of a body ends. -/
theorem comma_not_mem_item {before word after : List Char} (hbefore : Blanks before)
    (hword : IsWord word) (hafter : Blanks after) : ',' ∉ before ++ (word ++ after) := by
  rw [List.mem_append, List.mem_append]
  rintro (hc | hc | hc)
  · exact hbefore.not_mem rfl hc
  · exact hword.not_mem rfl hc
  · exact hafter.not_mem rfl hc

theorem piecesOf_of_not_mem {piece : List Char} (h : ',' ∉ piece) :
    piecesOf piece = [String.ofList (trimBlanks piece)] := by
  rw [piecesOf, List.splitOn_eq_singleton h]
  rfl

theorem piecesOf_append_comma {piece : List Char} (h : ',' ∉ piece) (rest : List Char) :
    piecesOf (piece ++ ',' :: rest) = String.ofList (trimBlanks piece) :: piecesOf rest := by
  rw [piecesOf, List.splitOn_append_cons_self_of_not_mem h]
  rfl

theorem listed_append_comma (piece rest : List Char) :
    listed (piece ++ ',' :: rest) = piecesOf (piece ++ ',' :: rest) := by
  simp [listed]

theorem isListBody_iff_of_not_mem {piece : List Char} (h : ',' ∉ piece) :
    IsListBody piece ↔ IsWord (trimBlanks piece) := by
  rw [isListBody_iff, List.splitOn_eq_singleton h, List.forall_mem_singleton]

theorem isListBody_append_comma {piece : List Char} (h : ',' ∉ piece) (rest : List Char) :
    IsListBody (piece ++ ',' :: rest) ↔ IsWord (trimBlanks piece) ∧ IsListBody rest := by
  rw [isListBody_iff, List.splitOn_append_cons_self_of_not_mem h, List.forall_mem_cons,
    ← isListBody_iff]

/-- A piece with nothing but blanks is a value where a comma stands before it, and else
lists nothing. -/
theorem values_item {before word after : List Char} (hbefore : Blanks before)
    (hword : IsWord word) (hafter : Blanks after) (first : Bool) :
    (if first = true then listed (before ++ (word ++ after))
      else piecesOf (before ++ (word ++ after))) =
      if first && word.isEmpty then [] else [String.ofList word] := by
  have hcomma := comma_not_mem_item hbefore hword hafter
  have htrim := trimBlanks_eq hbefore hword hafter
  have hblanks : Blanks (before ++ (word ++ after)) ↔ word = [] := by
    constructor
    · intro h
      rw [← htrim, trimBlanks, skipBlanks_eq_nil h]
      rfl
    · rintro rfl
      exact hbefore.append hafter
  rw [listed, piecesOf_of_not_mem hcomma, htrim]
  cases first <;> simp [hcomma, hblanks]

/-- The items that are read up to the closing parenthesis are the pieces of a body. Only
before the first comma a blank body lists nothing. -/
theorem scanItems_eq_found_iff {first : Bool} {text rest : List Char} {values : List String} :
    scanItems first text = .found values rest ↔
      ∃ body, IsListBody body ∧ text = body ++ ')' :: rest ∧
        values = if first = true then listed body else piecesOf body := by
  constructor
  · intro h
    fun_induction scanItems first text generalizing values rest with
    | case1 => simp at h
    | case2 first text word after =>
      rename_i rest' hclose
      obtain ⟨before, gap, hbefore, hgap, htext⟩ := text_eq_word text
      have hword : IsWord word := isWord_takeWord text
      obtain ⟨rfl, rfl⟩ := Scan.found_inj.mp h
      refine ⟨before ++ (word ++ gap), ?_, ?_, (values_item hbefore hword hgap first).symm⟩
      · rw [isListBody_iff_of_not_mem (comma_not_mem_item hbefore hword hgap),
          trimBlanks_eq hbefore hword hgap]
        exact hword
      · rw [hclose] at htext
        simpa using htext
    | case3 first text word after rest' =>
      rename_i hcomma ih
      obtain ⟨before, gap, hbefore, hgap, htext⟩ := text_eq_word text
      have hword : IsWord word := isWord_takeWord text
      obtain ⟨others, hothers, rfl⟩ := Scan.map_eq_found_iff.mp h
      obtain ⟨body, hbody, rfl, rfl⟩ := ih hothers
      have hitem := comma_not_mem_item hbefore hword hgap
      have htrim := trimBlanks_eq hbefore hword hgap
      refine ⟨before ++ (word ++ gap) ++ ',' :: body, ?_, ?_, ?_⟩
      · rw [isListBody_append_comma hitem, htrim]
        exact ⟨hword, hbody⟩
      · rw [hcomma] at htext
        simpa using htext
      · rw [listed_append_comma, ite_self, piecesOf_append_comma hitem, htrim]
        rfl
    | case4 => simp at h
  · rintro ⟨body, hbody, rfl, rfl⟩
    induction body using splitOn_induction ',' generalizing first with
    | last piece h =>
      obtain ⟨before, word, after, hbefore, hword, hafter, rfl⟩ :=
        exists_item ((isListBody_iff_of_not_mem h).mp hbody)
      have hclose : isDelimiter ')' = true := rfl
      obtain ⟨htake, hskip⟩ := takeWord_item hbefore hword hafter hclose rest
      rw [values_item hbefore hword hafter]
      simp only [List.append_assoc]
      rw [scanItems_of_close hskip, htake]
    | cons piece body h ih =>
      obtain ⟨hpiece, hrest⟩ := (isListBody_append_comma h body).mp hbody
      rw [listed_append_comma, ite_self, piecesOf_append_comma h]
      obtain ⟨before, word, after, hbefore, hword, hafter, rfl⟩ := exists_item hpiece
      have hcomma : isDelimiter ',' = true := rfl
      obtain ⟨htake, hskip⟩ := takeWord_item hbefore hword hafter hcomma (body ++ ')' :: rest)
      rw [trimBlanks_eq hbefore hword hafter]
      simp only [List.append_assoc, List.cons_append]
      rw [scanItems_of_comma hskip, htake, ih hrest]
      rfl

/-- The lists that are read are those that stand there. -/
theorem scanValues_eq_found_iff {text rest : List Char} {values : List String} :
    scanValues text = .found values rest ↔ HasList text values rest := by
  constructor
  · intro h
    obtain ⟨inner, hopen, hitems⟩ := scanValues_eq_found h
    obtain ⟨gap, hgap, htext⟩ := exists_blanks_append_skipBlanks text
    obtain ⟨body, hbody, rfl, rfl⟩ := scanItems_eq_found_iff.mp hitems
    rw [htext, hopen]
    exact .list hgap hbody
  · rintro ⟨hgap, hbody⟩
    have hopen := skipBlanks_append_delimiter hgap (show isDelimiter '(' = true from rfl)
    rw [scanValues_of_open (hopen _)]
    exact scanItems_eq_found_iff.mpr ⟨_, hbody, rfl, rfl⟩

end LabelQuery.Source
