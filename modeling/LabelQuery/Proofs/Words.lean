/-
Blanks and words as runs of characters.

`Blanks` and `IsWord` say what a run is made of, and the lemmas say what the two
scanners make of a text that is put together from such runs: `skipBlanks` passes a
run of blanks and stops, and `takeWord` gives back the word it finds whole, as long
as no word character follows it. The converse lemmas take a text apart again. The
three classes of characters are disjoint, and letters and digits are word characters
(`isInWord_of_isAlphanumeric`). A text that is cut at separators loses nothing but these
(`mem_splitOn_iff`).
-/

import LabelQuery.Source.Word
import LabelQuery.Text.Alphanumeric

namespace LabelQuery.Source

open LabelQuery.Text

/-- The run holds nothing but blanks. -/
def Blanks (run : List Char) : Prop :=
  ∀ c ∈ run, isBlank c = true

/-- The run holds nothing but word characters. -/
def IsWord (run : List Char) : Prop :=
  ∀ c ∈ run, isInWord c = true

-- Both go through the run; one found by search may go through every character there is.
instance (run : List Char) : Decidable (Blanks run) :=
  List.decidableBAll _ run

instance (run : List Char) : Decidable (IsWord run) :=
  List.decidableBAll _ run

/-! ### Classes of characters -/

theorem isDelimiter_iff {c : Char} :
    isDelimiter c = true ↔
      c = '=' ∨ c = '!' ∨ c = '(' ∨ c = ')' ∨ c = ',' ∨ c = '<' ∨ c = '>' := by
  simp [isDelimiter, or_assoc]

theorem isBlank_of_isDelimiter {c : Char} (h : isDelimiter c = true) : isBlank c = false := by
  rcases isDelimiter_iff.mp h with rfl | rfl | rfl | rfl | rfl | rfl | rfl <;> rfl

theorem isInWord_of_isDelimiter {c : Char} (h : isDelimiter c = true) : isInWord c = false := by
  simp [isInWord, h]

theorem isInWord_of_isBlank {c : Char} (h : isBlank c = true) : isInWord c = false := by
  simp [isInWord, h]

theorem isBlank_of_isInWord {c : Char} (h : isInWord c = true) : isBlank c = false := by
  simp_all [isInWord]

theorem isDelimiter_of_isInWord {c : Char} (h : isInWord c = true) : isDelimiter c = false := by
  simp_all [isInWord]

/-- A letter or a digit is a word character: the tables of letters and of blanks have
no code point in common, and no delimiter is in the first. -/
theorem isInWord_of_isAlphanumeric {c : Char} (h : isAlphanumeric c = true) :
    isInWord c = true := by
  have happart : alphanumericRanges.apart blankRanges = true := by decide +kernel
  have hblank : isBlank c = false := Ranges.not_covers_of_apart happart h
  have hdelimiter : isDelimiter c = false := by
    rw [Bool.eq_false_iff]
    intro hc
    rcases isDelimiter_iff.mp hc with rfl | rfl | rfl | rfl | rfl | rfl | rfl <;>
      exact absurd h (by decide +kernel)
  simp [isInWord, hblank, hdelimiter]

/-! ### Runs -/

theorem Blanks.nil : Blanks [] := by
  simp [Blanks]

theorem Blanks.append {first second : List Char} (h₁ : Blanks first) (h₂ : Blanks second) :
    Blanks (first ++ second) := by
  intro c hc
  rcases List.mem_append.mp hc with hc | hc
  · exact h₁ c hc
  · exact h₂ c hc

theorem Blanks.reverse {run : List Char} (h : Blanks run) : Blanks run.reverse := by
  intro c hc
  exact h c (List.mem_reverse.mp hc)

theorem Blanks.not_mem {run : List Char} (h : Blanks run) {c : Char}
    (hc : isBlank c = false) : c ∉ run := by
  intro hmem
  simp [h c hmem] at hc

theorem IsWord.not_mem {word : List Char} (h : IsWord word) {c : Char}
    (hc : isDelimiter c = true) : c ∉ word := by
  intro hmem
  simp [isDelimiter_of_isInWord (h c hmem)] at hc

/-- A run of blanks starts with no word character. -/
theorem Blanks.head? {run : List Char} (h : Blanks run) (hne : run ≠ []) (rest : List Char) :
    (run ++ rest).head?.any isInWord = false := by
  cases run with
  | nil => exact absurd rfl hne
  | cons c run => simpa using isInWord_of_isBlank (h c (by simp))

/-- A word starts with neither a blank nor a delimiter. -/
theorem IsWord.head? {word : List Char} (h : IsWord word) (hne : word ≠ []) (rest : List Char) :
    ∃ c tail, word ++ rest = c :: tail ∧ isBlank c = false ∧ isDelimiter c = false := by
  cases word with
  | nil => exact absurd rfl hne
  | cons c word =>
    have hc := h c (by simp)
    exact ⟨c, word ++ rest, rfl, isBlank_of_isInWord hc, isDelimiter_of_isInWord hc⟩

/-! ### Passing blanks -/

theorem skipBlanks_append {run : List Char} (h : Blanks run) (rest : List Char) :
    skipBlanks (run ++ rest) = skipBlanks rest :=
  List.dropWhile_append_of_pos h

theorem skipBlanks_eq_nil {run : List Char} (h : Blanks run) : skipBlanks run = [] := by
  simpa [skipBlanks] using skipBlanks_append h []

/-- Nothing is passed where no blank stands. -/
theorem skipBlanks_eq_self {text : List Char} (h : text.head?.any isBlank = false) :
    skipBlanks text = text := by
  cases text with
  | nil => rfl
  | cons c text => exact List.dropWhile_cons_of_neg (by simpa using h)

theorem skipBlanks_cons {c : Char} (h : isBlank c = false) (rest : List Char) :
    skipBlanks (c :: rest) = c :: rest :=
  skipBlanks_eq_self (by simpa using h)

theorem skipBlanks_cons_of_isBlank {c : Char} (h : isBlank c = true) (rest : List Char) :
    skipBlanks (c :: rest) = skipBlanks rest :=
  List.dropWhile_cons_of_pos h

theorem skipBlanks_append_delimiter {before : List Char} {c : Char} (hbefore : Blanks before)
    (hc : isDelimiter c = true) (rest : List Char) :
    skipBlanks (before ++ c :: rest) = c :: rest := by
  rw [skipBlanks_append hbefore, skipBlanks_cons (isBlank_of_isDelimiter hc)]

/-- No blank is left in front. -/
theorem head?_skipBlanks (text : List Char) : (skipBlanks text).head?.any isBlank = false := by
  have h := List.head?_dropWhile_not isBlank text
  unfold skipBlanks
  cases hd : (text.dropWhile isBlank).head? with
  | none => rfl
  | some c => simpa [hd] using h

/-- Where no word character follows the blanks, none stands in front of them. -/
theorem head?_of_head?_skipBlanks {text : List Char}
    (h : (skipBlanks text).head?.any isInWord = false) : text.head?.any isInWord = false := by
  cases text with
  | nil => rfl
  | cons c text =>
    by_cases hc : isBlank c = true
    · simpa using isInWord_of_isBlank hc
    · rwa [skipBlanks_cons (by simpa using hc)] at h

@[simp] theorem skipBlanks_skipBlanks (text : List Char) :
    skipBlanks (skipBlanks text) = skipBlanks text :=
  skipBlanks_eq_self (head?_skipBlanks text)

/-- What is passed is a run of blanks. -/
theorem exists_blanks_append_skipBlanks (text : List Char) :
    ∃ run, Blanks run ∧ text = run ++ skipBlanks text := by
  refine ⟨text.takeWhile isBlank, ?_, List.takeWhile_append_dropWhile.symm⟩
  intro c hc
  exact List.all_eq_true.mp List.all_takeWhile c hc

/-- A text of which nothing is left holds nothing but blanks. -/
theorem blanks_of_skipBlanks_eq_nil {text : List Char} (h : skipBlanks text = []) :
    Blanks text := by
  obtain ⟨run, hrun, htext⟩ := exists_blanks_append_skipBlanks text
  rw [h, List.append_nil] at htext
  exact htext ▸ hrun

/-! ### Characters that are no blanks -/

/-- Where no word character stands in front, no word is there. -/
theorem span_of_stop {text : List Char} (h : text.head?.any isInWord = false) :
    text.takeWhile isInWord = [] ∧ text.dropWhile isInWord = text := by
  cases text with
  | nil => exact ⟨rfl, rfl⟩
  | cons c text =>
    have hc : ¬ isInWord c = true := by simpa using h
    exact ⟨List.takeWhile_cons_of_neg hc, List.dropWhile_cons_of_neg hc⟩

/-- A word is taken whole where no word character follows it. -/
theorem takeWord_eq_of_ne_nil {before word rest : List Char} (hbefore : Blanks before)
    (hword : IsWord word) (hne : word ≠ []) (hrest : rest.head?.any isInWord = false) :
    takeWord (before ++ (word ++ rest)) = (word, rest) := by
  obtain ⟨c, tail, hcons, hblank, -⟩ := hword.head? hne rest
  have hskip : skipBlanks (before ++ (word ++ rest)) = word ++ rest := by
    rw [skipBlanks_append hbefore, hcons, skipBlanks_cons hblank]
  obtain ⟨htake, hdrop⟩ := span_of_stop hrest
  unfold takeWord
  rw [hskip, List.takeWhile_append_of_pos hword, List.dropWhile_append_of_pos hword, htake,
    hdrop, List.append_nil]

/-- No word is found where none stands after the blanks. -/
theorem takeWord_eq_nil {text : List Char} (h : (skipBlanks text).head?.any isInWord = false) :
    takeWord text = ([], skipBlanks text) := by
  obtain ⟨htake, hdrop⟩ := span_of_stop h
  unfold takeWord
  rw [htake, hdrop]

/-- A word, empty or not, is taken whole where no word character follows the blanks
after it, and the same text remains after those blanks. -/
theorem takeWord_append_blanks {before word : List Char} (rest : List Char)
    (hbefore : Blanks before) (hword : IsWord word)
    (hrest : (skipBlanks rest).head?.any isInWord = false) :
    (takeWord (before ++ (word ++ rest))).1 = word ∧
      skipBlanks (takeWord (before ++ (word ++ rest))).2 = skipBlanks rest := by
  by_cases hne : word = []
  · subst hne
    rw [List.nil_append, takeWord_eq_nil (by rwa [skipBlanks_append hbefore]),
      skipBlanks_append hbefore]
    exact ⟨rfl, skipBlanks_skipBlanks rest⟩
  · rw [takeWord_eq_of_ne_nil hbefore hword hne (head?_of_head?_skipBlanks hrest)]
    exact ⟨rfl, rfl⟩

/-- A word is read whole where a delimiter follows the blanks after it. -/
theorem takeWord_item {before word after : List Char} {c : Char} (hbefore : Blanks before)
    (hword : IsWord word) (hafter : Blanks after) (hc : isDelimiter c = true)
    (rest : List Char) :
    (takeWord (before ++ (word ++ (after ++ c :: rest)))).1 = word ∧
      skipBlanks (takeWord (before ++ (word ++ (after ++ c :: rest)))).2 = c :: rest := by
  have hskip := skipBlanks_append_delimiter hafter hc rest
  have hstop : (skipBlanks (after ++ c :: rest)).head?.any isInWord = false := by
    simpa [hskip] using isInWord_of_isDelimiter hc
  have h := takeWord_append_blanks _ hbefore hword hstop
  rwa [hskip] at h

theorem isWord_takeWord (text : List Char) : IsWord (takeWord text).1 := by
  intro c hc
  exact List.all_eq_true.mp List.all_takeWhile c hc

/-- Blanks, the word and what is left make up the text. -/
theorem exists_blanks_append_takeWord (text : List Char) :
    ∃ run, Blanks run ∧ text = run ++ ((takeWord text).1 ++ (takeWord text).2) := by
  obtain ⟨run, hrun, htext⟩ := exists_blanks_append_skipBlanks text
  exact ⟨run, hrun, by rw [takeWord_append]; exact htext⟩

/-- A text is blanks, its first word, blanks, and what remains after those. -/
theorem text_eq_word (text : List Char) :
    ∃ before after, Blanks before ∧ Blanks after ∧
      text = before ++ ((takeWord text).1 ++ (after ++ skipBlanks (takeWord text).2)) := by
  obtain ⟨before, hbefore, htext⟩ := exists_blanks_append_takeWord text
  obtain ⟨after, hafter, hrest⟩ := exists_blanks_append_skipBlanks (takeWord text).2
  exact ⟨before, after, hbefore, hafter, by rw [← hrest]; exact htext⟩

/-- What is left after a word starts with no word character. -/
theorem head?_takeWord (text : List Char) : (takeWord text).2.head?.any isInWord = false := by
  have h := List.head?_dropWhile_not isInWord (skipBlanks text)
  unfold takeWord
  cases hd : ((skipBlanks text).dropWhile isInWord).head? with
  | none => rfl
  | some c => simpa [hd] using h

/-! ### Pieces between separators -/

/-- A text is a piece without the separator, or such a piece, a separator and a text. -/
theorem splitOn_induction (separator : Char) {P : List Char → Prop}
    (last : ∀ piece, separator ∉ piece → P piece)
    (cons : ∀ piece rest, separator ∉ piece → P rest → P (piece ++ separator :: rest))
    (text : List Char) : P text := by
  by_cases h : separator ∈ text
  · obtain ⟨piece, rest, htext, hpiece⟩ := List.eq_append_cons_of_mem h
    have hlength : rest.length < text.length := by
      rw [htext, List.length_append, List.length_cons]
      omega
    rw [htext]
    exact cons piece rest hpiece (splitOn_induction separator last cons rest)
  · exact last text h
termination_by text.length

/-- The pieces between separators hold the characters of the text that are none. -/
theorem mem_splitOn_iff {separator c : Char} {text : List Char} :
    (∃ piece ∈ text.splitOn separator, c ∈ piece) ↔ c ∈ text ∧ c ≠ separator := by
  induction text using splitOn_induction separator with
  | last piece h =>
    rw [List.splitOn_eq_singleton h]
    constructor
    · rintro ⟨_, hpiece, hc⟩
      rw [List.mem_singleton.mp hpiece] at hc
      exact ⟨hc, fun heq => h (heq ▸ hc)⟩
    · rintro ⟨hc, -⟩
      exact ⟨piece, List.mem_singleton_self piece, hc⟩
  | cons piece rest h ih =>
    have hne (hc : c ∈ piece) : c ≠ separator := fun heq => h (heq ▸ hc)
    rw [List.splitOn_append_cons_self_of_not_mem h, List.mem_append, List.mem_cons]
    constructor
    · rintro ⟨found, hfound, hc⟩
      rcases List.mem_cons.mp hfound with rfl | hfound
      · exact ⟨Or.inl hc, hne hc⟩
      · obtain ⟨hrest, hc⟩ := ih.mp ⟨found, hfound, hc⟩
        exact ⟨Or.inr (Or.inr hrest), hc⟩
    · rintro ⟨hc | hc | hc, hseparator⟩
      · exact ⟨piece, List.mem_cons_self, hc⟩
      · exact absurd hc hseparator
      · obtain ⟨found, hfound, hc⟩ := ih.mpr ⟨hc, hseparator⟩
        exact ⟨found, List.mem_cons_of_mem _ hfound, hc⟩

end LabelQuery.Source
