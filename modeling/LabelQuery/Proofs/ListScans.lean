/-
Readers that scan for a list.

Where a list stands before a reader, the scan finds its values and leaves the reader
behind the closing parenthesis. Where none stands, the scan stops at the place it blames,
and nothing but the first character there decides that (`scanValues_stopsAt`). So that
place is the first one where the text goes on with no list (`scan_values_exact`). All this
is so of a cursor as well, which goes through a list character by character.
-/

import LabelQuery.Proofs.CursorScans
import LabelQuery.Proofs.Faults
import LabelQuery.Proofs.Lookahead

namespace LabelQuery.Source

open LabelQuery.Text

/-! ### Scans that stop -/

section Scanners

variable {α β : Type}

/-- The scan reads the text to its end, blanks aside. -/
def Completes (scan : List Char → Scan α) (text : List Char) : Prop :=
  ∃ a rest, scan text = .found a rest ∧ skipBlanks rest = []

/-- The scan stops at the place that it blames. What stands before it can be completed, and
nothing but the first character there decides that the scan stops. -/
structure StopsAt (scan : List Char → Scan α) (text : List Char) (fault : Fault) : Prop where
  rest : (scan text).rest = fault.place
  decided : ∃ before, text = before ++ fault.place ∧
    (∃ more, Completes scan (before ++ more)) ∧
      ∀ tail, tail.head? = fault.place.head? →
        (scan (before ++ tail)).outcome = .error ⟨fault.cause, tail⟩

theorem Completes.lift {scan : List Char → Scan α} {scan' : List Char → Scan β} {f : α → β}
    {text text' : List Char} (h : Completes scan text)
    (hagree : scan' text' = (scan text).map f) : Completes scan' text' := by
  obtain ⟨a, rest, hscan, hrest⟩ := h
  exact ⟨f a, rest, by rw [hagree, hscan, Scan.map_found], hrest⟩

/-- Where a scan stops, the scan that starts with it stops. -/
theorem StopsAt.lift {scan : List Char → Scan α} {scan' : List Char → Scan β} {f : α → β}
    {before inner : List Char} {fault : Fault} (h : StopsAt scan inner fault)
    (hagree : ∀ tail, scan' (before ++ tail) = (scan tail).map f) :
    StopsAt scan' (before ++ inner) fault := by
  obtain ⟨hrest, start, hinner, ⟨more, hviable⟩, hdecided⟩ := h
  refine ⟨?_, before ++ start, ?_, ⟨more, ?_⟩, ?_⟩
  · rw [hagree, Scan.map_rest]
    exact hrest
  · rw [List.append_assoc, ← hinner]
  · rw [List.append_assoc]
    exact hviable.lift (hagree _)
  · intro tail htail
    rw [List.append_assoc, hagree, Scan.map_eq_error_iff]
    exact hdecided tail htail

end Scanners

/-- A list can be closed wherever an item of it may end. -/
theorem exists_completes_scanItems (first : Bool) (text : List Char) :
    ∃ before, text = before ++ skipBlanks (takeWord text).2 ∧
      Completes (scanItems first) (before ++ [')']) := by
  obtain ⟨before, htext, hexchange⟩ := exists_append_delimiter text
  obtain ⟨-, hafter⟩ := hexchange ')' [] rfl
  exact ⟨before, htext, _, [], scanItems_of_close hafter, rfl⟩

/-- Where items cannot be read to their end, the scan stops at the place it blames. -/
theorem scanItems_stopsAt {first : Bool} {text : List Char} {fault : Fault}
    (h : (scanItems first text).outcome = .error fault) :
    StopsAt (scanItems first) text fault := by
  fun_induction scanItems first text with
  | case1 first text after hend =>
    cases h
    obtain ⟨before, htext, hcompletes⟩ := exists_completes_scanItems first text
    rw [show skipBlanks (takeWord text).2 = [] from hend, List.append_nil] at htext
    refine ⟨by rw [scanItems_of_end hend]; rfl, text, by simp, ⟨_, htext ▸ hcompletes⟩, ?_⟩
    intro tail htail
    rw [List.head?_eq_none_iff.mp htail, List.append_nil, scanItems_of_end hend]
    rfl
  | case2 => simp at h
  | case3 first text word after rest hcomma ih =>
    obtain ⟨before, htext, hexchange⟩ := exists_append_delimiter text
    rw [hcomma] at htext
    have hall : text = (before ++ [',']) ++ rest := by
      rw [htext]
      simp
    rw [hall]
    refine (ih (Scan.map_eq_error_iff.mp h)).lift (f := (String.ofList word :: ·)) ?_
    intro tail
    obtain ⟨hword, hafter⟩ := hexchange ',' tail rfl
    rw [List.append_assoc, List.singleton_append, scanItems_of_comma hafter, hword]
  | case4 first text after hnil hclose hcomma =>
    obtain ⟨d, rest, hskip, hd, hd'⟩ := exists_cons_of_stop hnil hclose hcomma
    cases h
    obtain ⟨before, gap, hgap, htext, hafter⟩ := exists_append_takeWord text
    obtain ⟨passed, hpassed, hcompletes⟩ := exists_completes_scanItems first text
    rw [hskip] at hafter hpassed
    obtain rfl : passed = before ++ gap := by
      apply List.append_cancel_right
      rw [← hpassed, List.append_assoc, ← hafter]
      exact htext
    refine ⟨by rw [scanItems_of_stop hskip hd hd', hskip]; rfl, before ++ gap, ?_,
      ⟨_, hcompletes⟩, ?_⟩
    · rw [hskip]
      exact hpassed
    · intro tail htail
      obtain ⟨more, rfl⟩ := List.head?_eq_some_iff.mp (htail.trans (by rw [hskip]; rfl))
      have hblank : isBlank d = false := by
        have hhead := head?_skipBlanks (takeWord text).2
        rw [hskip] at hhead
        simpa using hhead
      have hlooks : LooksLike (gap ++ d :: more) (takeWord text).2 :=
        hafter ▸ LooksLike.of_cons hgap hblank rest more
      have htake := takeWord_exchange_of_looksLike htext hlooks
      have hskip' : skipBlanks (takeWord (before ++ (gap ++ d :: more))).2 = d :: more := by
        rw [htake, skipBlanks_append hgap, skipBlanks_cons hblank]
      rw [List.append_assoc, scanItems_of_stop hskip' hd hd', htake, hlooks.1]
      rfl

/-- So it is with a list, which may also not be opened. -/
theorem scanValues_stopsAt {text : List Char} {fault : Fault}
    (h : (scanValues text).outcome = .error fault) : StopsAt scanValues text fault := by
  obtain ⟨gap, hgap, htext⟩ := exists_blanks_append_skipBlanks text
  have hopened (tail : List Char) : scanValues (gap ++ '(' :: tail) = scanItems true tail :=
    scanValues_of_open (skipBlanks_append_delimiter hgap rfl tail)
  rcases scanValues_eq_error h with ⟨hopen, rfl⟩ | ⟨inner, hopen, hitems⟩
  · refine ⟨by rw [scanValues_of_not_open hopen]; rfl, gap, htext, ⟨['(', ')'], ?_⟩, ?_⟩
    · exact ⟨[], [], (hopened [')']).trans (scanItems_of_blanks .nil []), rfl⟩
    · intro tail htail
      have hskip : skipBlanks (gap ++ tail) = tail := by
        rw [skipBlanks_append hgap, skipBlanks_eq_self]
        rw [htail]
        exact head?_skipBlanks text
      rw [scanValues_of_not_open (by rw [hskip, htail]; exact hopen), hskip]
      rfl
  · have hall : text = (gap ++ ['(']) ++ inner := by
      rw [htext, hopen]
      simp
    rw [hall]
    refine (scanItems_stopsAt hitems).lift (f := id) ?_
    intro tail
    rw [List.append_assoc, List.singleton_append, hopened, Scan.map_id]

/-! ### Readers -/

/-- A reader that scans for a list finds the values of the list that stands before it, and
is left behind its closing parenthesis. Where none stands, the reader is left at the place
that it blames: what it passed can be continued to a list, but no list goes on there with
the same character, or ends there if the text does. A cursor at the same place comes to the
same, and is left where the reader is left. -/
theorem scan_values_exact {r next : Reader} {outcome : Except Rejection (List String)}
    (hscan : r.scan scanValues = (outcome, next)) :
    (∀ values rest, HasList r.rest values rest ↔ outcome = .ok values ∧ next.rest = rest) ∧
      (∀ rejection, outcome = .error rejection →
        (∃ what, rejection = .form ⟨what, next.position⟩) ∧
          ∃ passed, r.rest = passed ++ next.rest ∧
            (∃ more values rest, HasList (passed ++ more) values rest) ∧
            ∀ tail, tail.head? = next.rest.head? →
              ∀ values rest, ¬ HasList (passed ++ tail) values rest) ∧
      (r.rest <:+ r.source → ∀ remembered,
        (Cursor.place r.source r.rest remembered).values =
          (outcome, .place r.source next.rest remembered)) ∧
      next.source = r.source ∧ next.remembered = r.remembered := by
  obtain ⟨rfl, rfl⟩ := Prod.mk.inj hscan
  refine ⟨?_, ?_, fun hplace _ => Cursor.values_place hplace, rfl, rfl⟩
  · intro values rest
    rw [← scanValues_eq_found_iff, Scan.eq_found_iff]
    cases (scanValues r.rest).outcome <;> simp [Except.mapError]
  · intro rejection hrejection
    cases houtcome : (scanValues r.rest).outcome with
    | ok found =>
      rw [houtcome] at hrejection
      cases hrejection
    | error fault =>
      rw [houtcome] at hrejection
      cases hrejection
      obtain ⟨hplace, before, htext, ⟨more, values, rest, hfound, -⟩, hstays⟩ :=
        scanValues_stopsAt houtcome
      have hcause : fault.cause.isOperatorFault = false := by
        have hmem := scanValues_cause_mem houtcome
        revert hmem
        cases fault.cause <;> simp [Cause.isOperatorFault]
      refine ⟨⟨fault.cause.what, ?_⟩, before, ?_, ⟨more, values, rest, ?_⟩, ?_⟩
      · rw [Fault.rejection, Cause.rejection, if_neg (by simp [hcause]), ← hplace]
        rfl
      · rw [hplace]
        exact htext
      · exact scanValues_eq_found_iff.mp hfound
      · intro tail htail values rest hlist
        rw [← scanValues_eq_found_iff, Scan.eq_found_iff, hstays tail (by rw [htail, hplace])]
          at hlist
        cases hlist.1

/-- After blanks behind an item only a comma or the closing parenthesis can stand. -/
theorem scan_values_exact_second_word :
    let r : Reader := ⟨"é ( a,, b c)".toList, " ( a,, b c)".toList, none⟩
    let next : Reader := ⟨"é ( a,, b c)".toList, "c)".toList, none⟩
    r.scan scanValues =
        (.error (.form ⟨"whitespace inside value list item", 11⟩), next) ∧
      next.position = 11 ∧
      (∃ passed, r.rest = passed ++ next.rest ∧
        (∃ more values rest, HasList (passed ++ more) values rest) ∧
        ∀ tail, tail.head? = some 'c' → ∀ values rest, ¬ HasList (passed ++ tail) values rest) ∧
      (⟨r.source, 2, some 0⟩ : Cursor).values =
        (.error (.form ⟨"whitespace inside value list item", 11⟩), ⟨r.source, 11, some 0⟩) := by
  intro r next
  have hscan : r.scan scanValues =
      (.error (.form ⟨"whitespace inside value list item", 11⟩), next) := by decide +kernel
  obtain ⟨-, herror, hcursor, -, -⟩ := scan_values_exact hscan
  exact ⟨hscan, rfl, (herror _ rfl).2, hcursor ⟨['é'], rfl⟩ (some 0)⟩

end LabelQuery.Source
