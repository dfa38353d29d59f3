/-
Cursors scan what readers scan.

`Cursor.place source rest remembered` is the cursor where `rest` remains of `source`. There
a cursor finds the first character of `rest`, and what it passes is cut off `rest`. So its
scans, which go character by character through a number of stages, come to what the
scanners of texts come to, and stop at the same place (`operator_place`, `values_place`).
-/

import LabelQuery.Proofs.ScannerSteps
import LabelQuery.Source.Cursor

namespace LabelQuery.Source

open LabelQuery.Text

namespace Cursor

/-- The cursor at the place where `rest` remains of `source`. -/
def place (source rest : List Char) (remembered : Option Nat) : Cursor :=
  ⟨source, offset source rest, remembered⟩

variable {source rest : List Char} {remembered : Option Nat}

/-! ### Characters -/

/-- At its place a cursor finds the first character of what remains. -/
theorem current?_place (h : rest <:+ source) :
    (place source rest remembered).current? = rest.head? := by
  obtain ⟨before, rfl⟩ := h
  have hslice : sliceFrom? (before ++ rest) (offset (before ++ rest) rest) = some rest :=
    sliceFrom?_eq_some_iff.mpr ⟨before, rfl, offset_append before rest⟩
  rw [current?, place, hslice, Option.bind_some]

/-- A step leads past the first character. -/
theorem step_place_cons {char : Char} (h : char :: rest <:+ source) :
    (place source (char :: rest) remembered).step = place source rest remembered := by
  rw [step, current?_place h]
  obtain ⟨before, rfl⟩ := h
  simp only [List.head?_cons, place, offset, byteLength_append, byteLength_cons, mk.injEq,
    true_and, and_true]
  omega

theorem step_place (h : rest <:+ source) :
    (place source rest remembered).step = place source rest.tail remembered := by
  cases rest with
  | nil => rw [step, current?_place h]; rfl
  | cons char rest => exact step_place_cons h

theorem passWhile_place (kind : Char → Bool) (h : rest <:+ source) :
    (place source rest remembered).passWhile kind =
      place source (rest.dropWhile kind) remembered := by
  induction rest with
  | nil =>
    rw [passWhile, current?_place h]
    rfl
  | cons char rest ih =>
    rw [passWhile, current?_place h, List.head?_cons, Option.any_some, step_place_cons h]
    by_cases hkind : kind char = true
    · rw [dif_pos hkind, List.dropWhile_cons_of_pos hkind]
      exact ih ((List.suffix_cons char rest).trans h)
    · rw [dif_neg hkind, List.dropWhile_cons_of_neg hkind]

theorem passBlanks_place (h : rest <:+ source) :
    (place source rest remembered).passBlanks = place source (skipBlanks rest) remembered :=
  passWhile_place isBlank h

/-- The slice between two places is what stands between them. -/
theorem slice?_offset {piece : List Char} (h : piece ++ rest <:+ source) :
    slice? source (offset source (piece ++ rest)) (offset source rest) = some piece := by
  obtain ⟨before, rfl⟩ := h
  refine slice?_eq_some_iff.mpr ⟨before, rest, rfl, offset_append _ _, ?_⟩
  rw [← List.append_assoc, offset_append]

/-- The word is found again as the slice between the places where it starts and ends. -/
theorem word_place (h : rest <:+ source) :
    (place source rest remembered).word =
      (String.ofList (takeWord rest).1, place source (takeWord rest).2 remembered) := by
  have hskip := (skipBlanks_suffix rest).trans h
  have hslice : slice? source (offset source (skipBlanks rest)) (offset source (takeWord rest).2) =
      some (takeWord rest).1 := by
    rw [← takeWord_append rest] at hskip ⊢
    exact slice?_offset hskip
  rw [word, passBlanks_place h, passWhile_place isInWord hskip]
  show (String.ofList ((slice? source (offset source (skipBlanks rest))
    (offset source (takeWord rest).2)).getD []), _) = _
  rw [hslice]
  rfl

end Cursor

/-! ### Operators -/

namespace OperatorStage

/-- What has been passed at a stage. -/
def passed : OperatorStage → List Char
  | .nothing => []
  | .equals => ['=']
  | .bang => ['!']
  | .i => ['i']
  | .n => ['n']
  | .no => ['n', 'o']
  | .not => ['n', 'o', 't']
  | .noti => ['n', 'o', 't', 'i']

theorem passed_of_shift {stage next : OperatorStage} {char? : Option Char}
    (h : stage.turn char? = .shift next) :
    ∃ char, char? = some char ∧ next.passed = stage.passed ++ [char] := by
  unfold turn at h
  split at h <;> cases h <;> exact ⟨_, rfl, rfl⟩

theorem spelling_of_accept {stage : OperatorStage} {char? : Option Char} {operator : Operator}
    (h : stage.turn char? = .accept operator) :
    ∃ char, char? = some char ∧ operator.spelling = stage.passed ++ [char] ∧
      operator ≠ .equal := by
  unfold turn at h
  split at h <;> cases h <;> exact ⟨_, rfl, rfl, nofun⟩

theorem spelling_of_stop {stage : OperatorStage} {char? : Option Char} {operator : Operator}
    (h : stage.turn char? = .stop operator) :
    operator.spelling = stage.passed ∧ char? ≠ some '=' := by
  unfold turn at h
  split at h <;> cases h
  exact ⟨rfl, ‹_›⟩

/-- Where the scan gives up, no operator goes on from what has been passed. -/
theorem operatorAt_of_reject {stage : OperatorStage} {rest : List Char}
    (h : stage.turn rest.head? = .reject) : operatorAt (stage.passed ++ rest) = (none, rest) := by
  cases rest with
  | nil => cases stage <;> first | rfl | cases h
  | cons char rest =>
    have hne (c : Char) (hc : stage.turn (some c) ≠ .reject) : char ≠ c := by
      rintro rfl
      exact hc h
    cases stage with
    | nothing =>
      simp [passed, operatorAt, hne '=' (by decide), hne '!' (by decide), hne 'i' (by decide),
        hne 'n' (by decide)]
    | equals => exact absurd h (by unfold turn; split <;> simp_all)
    | bang => simp [passed, operatorAt, hne '=' (by decide)]
    | i => simp [passed, operatorAt, hne 'n' (by decide)]
    | n => simp [passed, operatorAt, hne 'o' (by decide)]
    | no => simp [passed, operatorAt, hne 't' (by decide)]
    | not => simp [passed, operatorAt, hne 'i' (by decide)]
    | noti => simp [passed, operatorAt, hne 'n' (by decide)]

end OperatorStage

namespace Cursor

variable {source rest : List Char} {remembered : Option Nat}

/-- What a scan comes to, reported for the whole text, and the cursor where it stops. -/
def scanned {α : Type} (source : List Char) (remembered : Option Nat) (scan : Scan α) :
    Except Rejection α × Cursor :=
  (scan.outcome.mapError (Fault.rejection source), place source scan.rest remembered)

theorem spell_place (stage : OperatorStage) {rest : List Char} (h : rest <:+ source) :
    (place source rest remembered).spell stage =
      ((operatorAt (stage.passed ++ rest)).1,
        place source (operatorAt (stage.passed ++ rest)).2 remembered) := by
  rw [spell]
  split <;> rename_i hturn <;> rw [current?_place h] at hturn
  · obtain ⟨char, hhead, hpassed⟩ := OperatorStage.passed_of_shift hturn
    obtain ⟨tail, rfl⟩ := List.head?_eq_some_iff.mp hhead
    rw [step_place_cons h, spell_place _ ((List.suffix_cons char tail).trans h), hpassed,
      List.append_assoc, List.singleton_append]
  · obtain ⟨char, hhead, hspelling, hne⟩ := OperatorStage.spelling_of_accept hturn
    obtain ⟨tail, rfl⟩ := List.head?_eq_some_iff.mp hhead
    rw [step_place_cons h, ← List.singleton_append, ← List.append_assoc, ← hspelling,
      operatorAt_spelling _ fun heq => absurd heq hne]
  · obtain ⟨hspelling, hne⟩ := OperatorStage.spelling_of_stop hturn
    rw [← hspelling, operatorAt_spelling _ fun _ => hne]
  · rw [OperatorStage.operatorAt_of_reject hturn]
termination_by rest.length

/-- A cursor reads the operator that is scanned for in what remains. -/
theorem operator_place (h : rest <:+ source) :
    (place source rest remembered).operator = scanned source remembered (scanOperator rest) := by
  have hskip := (skipBlanks_suffix rest).trans h
  rw [operator, passBlanks_place h, spell_place _ hskip, OperatorStage.passed, List.nil_append]
  cases hat : operatorAt (skipBlanks rest) with
  | mk found next =>
    cases found with
    | some operator => rw [scanOperator_of_spelling hat]; rfl
    | none => rw [scanOperator_of_unknown hat]; rfl

end Cursor

/-! ### Lists -/

namespace ListDraft

variable {d : ListDraft} {c : Char}

/-- The list has been opened, and an item has begun except right behind a sign. -/
structure Opened (d : ListDraft) : Prop where
  opened : d.stage ≠ .unopened
  afterSign_iff : d.stage = .afterSign ↔ d.item = []

theorem Opened.turn_close (h : d.Opened) :
    d.turn ')' = .done (if d.values.isEmpty && d.item.isEmpty then [] else d.cut.values) := by
  have hitem := h.afterSign_iff
  cases hstage : d.stage with
  | unopened => exact absurd hstage h.opened
  | afterSign => simp +contextual [turn, hstage, hitem.mp hstage, cut]
  | inItem => simp_all [turn]
  | afterItem => simp_all [turn]

theorem Opened.turn_comma (h : d.Opened) : d.turn ',' = .next d.cut := by
  have hitem := h.afterSign_iff
  cases hstage : d.stage with
  | unopened => exact absurd hstage h.opened
  | afterSign => simp [turn, hstage, hitem.mp hstage, cut]
  | inItem => simp [turn, hstage]
  | afterItem => simp [turn, hstage]

theorem Opened.missing_eq (h : d.Opened) : d.missing = .listNotClosed := by
  cases hstage : d.stage with
  | unopened => exact absurd hstage h.opened
  | _ => simp [missing, hstage]

/-- No sign of a list is a blank. -/
theorem ne_of_isBlank (h : isBlank c = true) : c ≠ '(' ∧ c ≠ ')' ∧ c ≠ ',' := by
  refine ⟨?_, ?_, ?_⟩ <;> rintro rfl <;> cases h

/-- A blank counts only right behind an item. -/
theorem turn_blank (h : isBlank c = true) :
    d.turn c = .next (if d.stage = .inItem then { d with stage := .afterItem } else d) := by
  obtain ⟨hopen, hclose, hcomma⟩ := ne_of_isBlank h
  cases hstage : d.stage <;> simp [turn, hstage, h, hopen, hclose, hcomma]

theorem turn_word (h : isInWord c = true) (hstage : d.stage = .afterSign ∨ d.stage = .inItem) :
    d.turn c = .next (d.push c) := by
  have hdelimiter := isDelimiter_of_isInWord h
  have hclose : c ≠ ')' := by rintro rfl; cases hdelimiter
  have hcomma : c ≠ ',' := by rintro rfl; cases hdelimiter
  rcases hstage with hstage | hstage <;>
    simp [turn, hstage, hclose, hcomma, hdelimiter, isBlank_of_isInWord h]

theorem Opened.turn_stop (h : d.Opened) (hclose : c ≠ ')') (hcomma : c ≠ ',')
    (hblank : isBlank c = false) (hdelimiter : d.stage ≠ .afterItem → isDelimiter c = true) :
    d.turn c = .fault (if d.stage = .afterItem then .blankInItem else .symbolInList) := by
  cases hstage : d.stage with
  | unopened => exact absurd hstage h.opened
  | afterSign => simp [turn, hstage, hclose, hcomma, hblank, hdelimiter (by simp [hstage])]
  | inItem => simp [turn, hstage, hclose, hcomma, hblank, hdelimiter (by simp [hstage])]
  | afterItem => simp [turn, hstage, hclose, hcomma, hblank]

end ListDraft

namespace Cursor

variable {source rest : List Char} {remembered : Option Nat} {d next : ListDraft} {c : Char}

theorem list_place_nil (h : [] <:+ source) :
    (place source [] remembered).list d =
      scanned source remembered (.stopped d.missing []) := by
  rw [list]
  split
  · rfl
  · rename_i hchar
    rw [current?_place h] at hchar
    cases hchar

theorem list_place_cons (h : c :: rest <:+ source) :
    (place source (c :: rest) remembered).list d =
      match d.turn c with
      | .next d => (place source rest remembered).list d
      | .done values => scanned source remembered (.found values rest)
      | .fault cause => scanned source remembered (.stopped cause (c :: rest)) := by
  rw [list]
  split
  · rename_i hchar
    rw [current?_place h] at hchar
    cases hchar
  · rename_i char hchar
    rw [current?_place h] at hchar
    cases hchar
    rw [step_place_cons h]
    rfl

theorem list_place_next (h : c :: rest <:+ source) (hturn : d.turn c = .next next) :
    (place source (c :: rest) remembered).list d = (place source rest remembered).list next := by
  rw [list_place_cons h, hturn]

/-- Blanks are passed where no item has begun, or one is complete. -/
theorem list_place_skipBlanks (h : rest <:+ source) (hstage : d.stage ≠ .inItem) :
    (place source rest remembered).list d =
      (place source (skipBlanks rest) remembered).list d := by
  induction rest with
  | nil => rfl
  | cons c rest ih =>
    by_cases hblank : isBlank c = true
    · have hturn := ListDraft.turn_blank (d := d) hblank
      rw [if_neg hstage] at hturn
      rw [list_place_next h hturn, ih ((List.suffix_cons c rest).trans h),
        skipBlanks_cons_of_isBlank hblank]
    · rw [skipBlanks_cons (by simpa using hblank)]

/-- The blanks behind an item complete it. -/
theorem list_place_skipBlanks_inItem (h : rest <:+ source) (hstage : d.stage = .inItem) :
    (place source rest remembered).list d = (place source (skipBlanks rest) remembered).list
      (if rest.head?.any isBlank then { d with stage := .afterItem } else d) := by
  cases rest with
  | nil => rfl
  | cons c rest =>
    by_cases hblank : isBlank c = true
    · have hturn := ListDraft.turn_blank (d := d) hblank
      rw [if_pos hstage] at hturn
      rw [list_place_next h hturn, list_place_skipBlanks ((List.suffix_cons c rest).trans h)
        (by simp), skipBlanks_cons_of_isBlank hblank]
      simp [hblank]
    · rw [skipBlanks_cons (by simpa using hblank)]
      simp [hblank]

theorem list_place_word {word : List Char} (h : word ++ rest <:+ source) (hword : IsWord word)
    (hstage : d.stage = .inItem) :
    (place source (word ++ rest) remembered).list d =
      (place source rest remembered).list { d with item := d.item ++ word } := by
  induction word generalizing d with
  | nil => simp
  | cons c word ih =>
    have hturn := ListDraft.turn_word (hword c List.mem_cons_self) (Or.inr hstage)
    rw [List.cons_append] at h ⊢
    rw [list_place_next h hturn, ih ((List.suffix_cons c _).trans h)
      (fun c hc => hword c (List.mem_cons_of_mem _ hc)) rfl]
    simp [ListDraft.push, hstage]

/-- Behind a sign the scan passes blanks, an item, which may be empty, and blanks. -/
theorem exists_list_place_item (values : List String) (h : rest <:+ source) :
    ∃ d : ListDraft, d.Opened ∧ d.values = values ∧ d.item = (takeWord rest).1 ∧
      (d.stage = .afterItem ↔ (takeWord rest).2.head?.any isBlank = true) ∧
      (place source rest remembered).list ⟨.afterSign, values, []⟩ =
        (place source (skipBlanks (takeWord rest).2) remembered).list d := by
  have hskip := (skipBlanks_suffix rest).trans h
  have hafter := (takeWord_suffix rest).trans h
  have happend := takeWord_append rest
  rw [list_place_skipBlanks h (by simp)]
  cases hword : (takeWord rest).1 with
  | nil =>
    rw [hword, List.nil_append] at happend
    have hhead := head?_skipBlanks rest
    rw [happend, skipBlanks_skipBlanks]
    exact ⟨⟨.afterSign, values, []⟩, ⟨by simp, by simp⟩, rfl, rfl, by simp [hhead], rfl⟩
  | cons c word =>
    rw [hword, List.cons_append] at happend
    rw [← happend] at hskip ⊢
    have hisWord : IsWord (c :: word) := hword ▸ isWord_takeWord rest
    have hturn := ListDraft.turn_word (d := ⟨.afterSign, values, []⟩)
      (hisWord c List.mem_cons_self) (Or.inl rfl)
    rw [list_place_next hskip hturn, list_place_word ((List.suffix_cons c _).trans hskip)
      (fun c hc => hisWord c (List.mem_cons_of_mem _ hc)) rfl,
      list_place_skipBlanks_inItem hafter rfl]
    refine ⟨_, ⟨?_, ?_⟩, ?_, ?_, ?_, rfl⟩ <;> split <;> simp_all [ListDraft.push]

/-- Behind a sign a cursor reads the items that are scanned for in what remains. -/
theorem list_place (values : List String) {rest : List Char} (h : rest <:+ source) :
    (place source rest remembered).list ⟨.afterSign, values, []⟩ =
      scanned source remembered ((scanItems values.isEmpty rest).map (values ++ ·)) := by
  obtain ⟨d, hd, rfl, hitem, hstage, hlist⟩ := exists_list_place_item values h
  have hsuffix := (skipBlanks_takeWord_suffix rest).trans h
  rw [hlist]
  cases hskip : skipBlanks (takeWord rest).2 with
  | nil =>
    rw [hskip] at hsuffix
    rw [scanItems_of_end hskip, list_place_nil hsuffix, hd.missing_eq]
    rfl
  | cons c tail =>
    rw [hskip] at hsuffix
    rw [list_place_cons hsuffix]
    by_cases hclose : c = ')'
    · subst hclose
      rw [hd.turn_close, scanItems_of_close hskip, ← hitem, Scan.map_found]
      by_cases hempty : (d.values.isEmpty && d.item.isEmpty) = true
      · simp_all
      · rw [if_neg hempty, if_neg hempty]
        rfl
    by_cases hcomma : c = ','
    · subst hcomma
      have htail := list_place d.cut.values ((List.suffix_cons ',' tail).trans hsuffix)
      have hvalues : d.cut.values.isEmpty = false := by simp [ListDraft.cut]
      rw [hd.turn_comma, scanItems_of_comma hskip, ← hitem, Scan.map_map]
      rw [hvalues] at htail
      simpa [ListDraft.cut, Function.comp_def] using htail
    · have hblank : isBlank c = false := by simpa [hskip] using head?_skipBlanks (takeWord rest).2
      have hdelimiter : d.stage ≠ .afterItem → isDelimiter c = true := by
        intro hne
        have hself := skipBlanks_eq_self (by simpa using mt hstage.mpr hne)
        have hhead := head?_takeWord rest
        rw [← hself, hskip] at hhead
        simpa [isInWord, hblank] using hhead
      rw [scanItems_of_stop hskip hclose hcomma, hd.turn_stop hclose hcomma hblank hdelimiter]
      by_cases hafter : d.stage = .afterItem
      · rw [if_pos hafter, if_pos (hstage.mp hafter)]
        rfl
      · rw [if_neg hafter, if_neg (mt hstage.mpr hafter)]
        rfl
termination_by rest.length
decreasing_by
  have hlength := (skipBlanks_takeWord_suffix rest).length_le
  rw [hskip, List.length_cons] at hlength
  omega

/-- A cursor reads the list that is scanned for in what remains. -/
theorem values_place (h : rest <:+ source) :
    (place source rest remembered).values = scanned source remembered (scanValues rest) := by
  have hskip := (skipBlanks_suffix rest).trans h
  rw [values, list_place_skipBlanks h (by simp)]
  cases htext : skipBlanks rest with
  | nil =>
    rw [htext] at hskip
    rw [scanValues_of_not_open (by simp [htext]), list_place_nil hskip, htext]
    rfl
  | cons c tail =>
    rw [htext] at hskip
    rw [list_place_cons hskip]
    by_cases hopen : c = '('
    · subst hopen
      rw [scanValues_of_open htext]
      refine (list_place [] ((List.suffix_cons '(' tail).trans hskip)).trans ?_
      exact congrArg (scanned source remembered) (Scan.map_id _)
    · have hblank : isBlank c = false := by simpa [htext] using head?_skipBlanks rest
      rw [scanValues_of_not_open (by simp [htext, hopen]), htext]
      simp [ListDraft.turn, hopen, hblank]

end Cursor

end LabelQuery.Source
