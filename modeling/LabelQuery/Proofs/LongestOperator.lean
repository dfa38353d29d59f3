/-
The longest operator.

`scanOperator` takes the longest spelling of an operator that the text starts with, and
where it starts with none, it passes as much of the text as some spelling begins with.
Both are said through `LongestStart`, which mentions no scanner. A reader that scans for
an operator is left behind what was taken or passed (`scan_operator_longest`), and so is a
cursor, which goes through the spellings character by character.
-/

import LabelQuery.Proofs.CursorScans
import LabelQuery.Proofs.Lookahead

namespace LabelQuery.Source

/-- Of what the text starts with, `found` is the longest of which `P` holds. -/
structure LongestStart (P : List Char → Prop) (text found : List Char) : Prop where
  start : found <+: text
  holds : P found
  longest : ∀ other, other <+: text → P other → other.length ≤ found.length

/-- The text spells an operator. -/
def SpellsOperator (text : List Char) : Prop :=
  ∃ operator : Operator, text = operator.spelling

/-- The spelling of an operator begins with the text. -/
def BeginsOperator (text : List Char) : Prop :=
  ∃ operator : Operator, text <+: operator.spelling

/-- Of the spellings only the equals sign begins another one. -/
theorem Operator.eq_or_of_spelling_prefix {operator operator' : Operator}
    (h : operator.spelling <+: operator'.spelling) :
    operator = operator' ∨ operator = .equal ∧ operator' = .doubleEqual := by
  cases operator <;> cases operator' <;> simp_all [spelling, List.cons_prefix_cons]

/-- No longer spelling stands where an operator is found. -/
theorem longestStart_of_operatorAt_eq_some {text rest : List Char} {operator : Operator}
    (h : operatorAt text = (some operator, rest)) :
    LongestStart SpellsOperator text operator.spelling := by
  have htext := operatorAt_eq_some h
  refine ⟨⟨rest, htext.symm⟩, ⟨operator, rfl⟩, ?_⟩
  rintro other hother ⟨operator', rfl⟩
  by_contra hlonger
  -- Two spellings at the start of one text: the longer one begins with the other.
  have hprefix : operator.spelling <+: operator'.spelling :=
    List.prefix_of_prefix_length_le ⟨rest, htext.symm⟩ hother (by omega)
  rcases Operator.eq_or_of_spelling_prefix hprefix with rfl | ⟨rfl, rfl⟩
  · exact hlonger (Nat.le_refl _)
  · obtain ⟨tail, htail⟩ := hother
    have hrest : '=' :: tail = rest := by simpa [htext, Operator.spelling] using htail
    exact head?_ne_equals_of_operatorAt h (by simp [← hrest])

/-- What an operator begins with is the longest such start of a text, if it does not stay
so with the next character. -/
theorem longestStart_of_stuck {passed rest : List Char} (hpassed : BeginsOperator passed)
    (hstuck : ∀ c ∈ rest.head?, ¬ BeginsOperator (passed ++ [c])) :
    LongestStart BeginsOperator (passed ++ rest) passed := by
  refine ⟨List.prefix_append _ _, hpassed, ?_⟩
  rintro other hother ⟨operator, hoperator⟩
  by_contra hlonger
  obtain ⟨tail, rfl⟩ : passed <+: other :=
    List.prefix_of_prefix_length_le (List.prefix_append _ _) hother (by omega)
  cases tail with
  | nil => simp at hlonger
  | cons c tail =>
    obtain ⟨more, hmore⟩ := hother
    rw [List.append_assoc, List.append_cancel_left_eq] at hmore
    refine hstuck c (by simp [← hmore]) ⟨operator, List.IsPrefix.trans ?_ hoperator⟩
    exact ⟨tail, by simp⟩

/-- A spelling that does not start with the equals sign is known by its first character. -/
theorem Operator.eq_of_head?_spelling {operator operator' : Operator}
    (h : operator'.spelling.head? = operator.spelling.head?)
    (hsign : operator.spelling.head? ≠ some '=') : operator' = operator := by
  cases operator <;> cases operator' <;> simp_all [spelling]

/-- Once begun, such a spelling can be gone on with in one way only. -/
theorem getElem?_of_beginsOperator {operator : Operator} {n : Nat} {c : Char}
    (hsign : operator.spelling.head? ≠ some '=') (hn : 0 < n)
    (h : BeginsOperator (operator.spelling.take n ++ [c])) :
    operator.spelling[n]? = some c := by
  obtain ⟨operator', hprefix⟩ := h
  have hhead : operator'.spelling.head? = operator.spelling.head? := by
    obtain ⟨tail, htail⟩ := hprefix
    obtain ⟨m, rfl⟩ := Nat.exists_eq_succ_of_ne_zero (Nat.ne_of_gt hn)
    obtain ⟨d, rest, hspelling, -⟩ := operator.spelling_eq_cons
    rw [← htail, hspelling]
    rfl
  cases Operator.eq_of_head?_spelling hhead hsign
  have hlength := hprefix.length_le
  simp only [List.length_append, List.length_take, List.length_singleton] at hlength
  have htake : (operator.spelling.take n).length = n := by
    rw [List.length_take]
    omega
  obtain ⟨tail, htail⟩ := hprefix
  calc operator.spelling[n]?
      = (operator.spelling.take n ++ ([c] ++ tail))[n]? := by rw [← List.append_assoc, htail]
    _ = some c := by rw [List.getElem?_append_right (by omega), htake, Nat.sub_self]; rfl

/-- What was begun of such a spelling is the longest start of an operator, where it does
not go on. -/
theorem longestStart_of_stopped (operator : Operator) (n : Nat) {d : Char} {rest : List Char}
    (hsign : operator.spelling.head? ≠ some '=') (hn : 0 < n)
    (hnext : operator.spelling[n]? = some d) (hrest : ∀ tail, rest = d :: tail → False) :
    LongestStart BeginsOperator (operator.spelling.take n ++ rest) (operator.spelling.take n) := by
  refine longestStart_of_stuck ⟨operator, List.take_prefix n operator.spelling⟩ ?_
  intro c hc hbegins
  obtain ⟨tail, rfl⟩ := List.head?_eq_some_iff.mp hc
  have hcd := (getElem?_of_beginsOperator hsign hn hbegins).symm.trans hnext
  exact hrest tail (by rw [Option.some.inj hcd])

/-- Where no operator is found, the text up to what is left is as much as some spelling
begins with. -/
theorem longestStart_of_operatorAt_eq_none {text rest : List Char}
    (h : operatorAt text = (none, rest)) :
    ∃ passed, text = passed ++ rest ∧ LongestStart BeginsOperator text passed := by
  unfold operatorAt at h
  split at h <;> cases h
  · exact ⟨_, rfl, longestStart_of_stopped .unequal 1 (by decide) (by decide) rfl ‹_›⟩
  · exact ⟨_, rfl, longestStart_of_stopped .within 1 (by decide) (by decide) rfl ‹_›⟩
  · exact ⟨_, rfl, longestStart_of_stopped .without 4 (by decide) (by decide) rfl ‹_›⟩
  · exact ⟨_, rfl, longestStart_of_stopped .without 3 (by decide) (by decide) rfl ‹_›⟩
  · exact ⟨_, rfl, longestStart_of_stopped .without 2 (by decide) (by decide) rfl ‹_›⟩
  · exact ⟨_, rfl, longestStart_of_stopped .without 1 (by decide) (by decide) rfl ‹_›⟩
  · -- No spelling starts with the first character.
    refine ⟨[], rfl, longestStart_of_stuck ⟨.equal, List.nil_prefix⟩ ?_⟩
    rintro c hc ⟨operator, hprefix⟩
    obtain ⟨tail, rfl⟩ := List.head?_eq_some_iff.mp hc
    cases operator <;> simp_all [Operator.spelling, List.cons_prefix_cons]

/-! ### Readers -/

/-- What a reader passes counts for its position. -/
theorem offset_of_append_suffix {source passed rest : List Char}
    (h : passed ++ rest <:+ source) :
    offset source rest = offset source (passed ++ rest) + byteLength passed := by
  obtain ⟨before, rfl⟩ := h
  rw [offset_append, ← List.append_assoc, offset_append, byteLength_append]

/-- Where a reader scans for an operator behind blanks, it finds one exactly if some
operator is spelled there. It takes the longest one and is left behind it. Otherwise it
blames the place behind the blanks, and is left behind as much of the text as some spelling
begins with. What it remembers stays as it is. A cursor at the same place comes to the
same, and is left where the reader is left. -/
theorem scan_operator_longest {r next : Reader} {start : List Char}
    {outcome : Except Rejection Operator} (hplace : r.rest <:+ r.source)
    (hstart : start = skipBlanks r.rest) (hscan : r.scan scanOperator = (outcome, next)) :
    ((∃ operator, outcome = .ok operator) ↔
        ∃ operator : Operator, operator.spelling <+: start) ∧
      (∀ operator, outcome = .ok operator →
        LongestStart SpellsOperator start operator.spelling ∧
          start = operator.spelling ++ next.rest ∧
          next.position = offset r.source start + byteLength operator.spelling) ∧
      (∀ rejection, outcome = .error rejection →
        rejection = .operator ⟨"unrecognised operator", offset r.source start⟩ ∧
          ∃ passed, LongestStart BeginsOperator start passed ∧ start = passed ++ next.rest ∧
            next.position = offset r.source start + byteLength passed) ∧
      (∀ remembered, (Cursor.place r.source r.rest remembered).operator =
        (outcome, .place r.source next.rest remembered)) ∧
      next.source = r.source ∧ next.remembered = r.remembered := by
  have hsuffix : start <:+ r.source := hstart ▸ (skipBlanks_suffix r.rest).trans hplace
  obtain ⟨rfl, rfl⟩ := Prod.mk.inj hscan
  have hcursor (remembered : Option Nat) : (Cursor.place r.source r.rest remembered).operator =
      Cursor.scanned r.source remembered (scanOperator r.rest) := Cursor.operator_place hplace
  cases hat : operatorAt start with
  | mk found rest =>
    cases found with
    | some operator =>
      have htext := operatorAt_eq_some hat
      rw [scanOperator_of_spelling (hstart ▸ hat)] at hcursor ⊢
      refine ⟨⟨fun _ => ⟨operator, rest, htext.symm⟩, fun _ => ⟨operator, rfl⟩⟩, ?_, ?_, hcursor,
        rfl, rfl⟩
      · rintro _ ⟨⟩
        refine ⟨longestStart_of_operatorAt_eq_some hat, htext, ?_⟩
        rw [htext] at hsuffix ⊢
        exact offset_of_append_suffix hsuffix
      · rintro _ ⟨⟩
    | none =>
      obtain ⟨passed, htext, hlongest⟩ := longestStart_of_operatorAt_eq_none hat
      rw [scanOperator_of_unknown (hstart ▸ hat), ← hstart] at hcursor ⊢
      refine ⟨⟨?_, ?_⟩, ?_, ?_, hcursor, rfl, rfl⟩
      · rintro ⟨_, ⟨⟩⟩
      · rintro ⟨operator, tail, rfl⟩
        exact absurd (congrArg Prod.fst hat) (operatorAt_spelling_ne_none operator tail)
      · rintro _ ⟨⟩
      · rintro _ ⟨⟩
        refine ⟨rfl, passed, hlongest, htext, ?_⟩
        rw [htext] at hsuffix ⊢
        exact offset_of_append_suffix hsuffix

/-- The spelling of an operator is broken off inside the word. -/
theorem scan_operator_longest_broken_off :
    let r : Reader := ⟨"é  nothing".toList, "  nothing".toList, some "é  nothing".toList⟩
    let next : Reader := ⟨"é  nothing".toList, "hing".toList, some "é  nothing".toList⟩
    r.rest <:+ r.source ∧ "nothing".toList = skipBlanks r.rest ∧
      r.scan scanOperator = (.error (.operator ⟨"unrecognised operator", 4⟩), next) ∧
      (∃ passed, LongestStart BeginsOperator "nothing".toList passed ∧
        "nothing".toList = passed ++ next.rest ∧ next.position = 4 + byteLength passed) ∧
      (⟨r.source, 2, some 0⟩ : Cursor).operator =
        (.error (.operator ⟨"unrecognised operator", 4⟩), ⟨r.source, 7, some 0⟩) := by
  intro r next
  have hplace : r.rest <:+ r.source := ⟨['é'], rfl⟩
  have hscan : r.scan scanOperator =
      (.error (.operator ⟨"unrecognised operator", 4⟩), next) := by rfl
  obtain ⟨-, -, herror, hcursor, -, -⟩ := scan_operator_longest hplace rfl hscan
  exact ⟨hplace, rfl, hscan, (herror _ rfl).2, hcursor (some 0)⟩

end LabelQuery.Source
