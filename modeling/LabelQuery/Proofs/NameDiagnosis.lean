/-
What is said of a name that breaks the rules.

`KeyDiagnosis` and `ValueDiagnosis` say which flaw a text has as a key and as a value, and
mention no check: the reasons are tried in one order, and of the characters that may not
stand where they stand the first one is named. The checks report exactly these
(`flaws_diagnosed`). A check goes through a text once, so for each loop the invariant is
that no character is out of place among those passed (`pinpoints_misplacedFrom`); where
segments are passed, the dot behind them may still turn out to be the last character
(`pinpoints_segmentFlaw?`).
-/

import LabelQuery.Proofs.NamingRules
import LabelQuery.Proofs.Words
import Mathlib.Order.Bounds.Basic

namespace LabelQuery.Naming

open LabelQuery.Text LabelQuery.Source

/-! ### Characters out of place -/

/-- Between `before` and `after` the character may not stand in a name or a value. -/
def MisplacedInName (symbols before : List Char) (c : Char) (after : List Char) : Prop :=
  isAlphanumeric c = false ∧ (before = [] ∨ after = [] ∨ c ∉ symbols)

/-- Between `before` and `after` the character may not stand in the prefix of a key. -/
def MisplacedInPrefix (before : List Char) (c : Char) (after : List Char) : Prop :=
  if c = '.' then before = [] ∨ after = [] ∨ before.getLast? = some '.'
  else isAlphanumeric c = false ∧ (before = [] ∨ after = [] ∨ before.getLast? = some '.' ∨
    after.head? = some '.' ∨ c ∉ ['-', '_'])

section Places

variable {P : List Char → Char → List Char → Prop}

/-- `P` holds of the character at `position`, between those before and those after it. -/
def HoldsAt (P : List Char → Char → List Char → Prop) (text : List Char) (position : Nat) :
    Prop :=
  ∃ c, text[position]? = some c ∧ P (text.take position) c (text.drop (position + 1))

/-- The first character of which `P` holds is `c`, at `position`. -/
structure FirstAt (P : List Char → Char → List Char → Prop) (text : List Char) (c : Char)
    (position : Nat) : Prop where
  least : IsLeast {place | HoldsAt P text place} position
  found : text[position]? = some c

/-- The outcome names the first character of which `P` holds, and its position if `shift`
others stand before the text. -/
inductive Pinpoints (P : List Char → Char → List Char → Prop) (text : List Char)
    (shift : Nat) : Option NameFlaw → Prop where
  | nothing (h : ∀ place, ¬ HoldsAt P text place) : Pinpoints P text shift none
  | first {c : Char} {position : Nat} (h : FirstAt P text c position) :
      Pinpoints P text shift (some (.misplaced c (shift + position)))

theorem FirstAt.pinpoints {text : List Char} {c : Char} {position : Nat}
    (h : FirstAt P text c position) : Pinpoints P text 0 (some (.misplaced c position)) := by
  have hfirst : Pinpoints P text 0 _ := .first h
  rwa [Nat.zero_add] at hfirst

theorem HoldsAt.lt_length {text : List Char} {position : Nat} (h : HoldsAt P text position) :
    position < text.length := by
  obtain ⟨c, hc, -⟩ := h
  exact (List.getElem?_eq_some_iff.mp hc).1

theorem holdsAt_append_cons {before after : List Char} {c : Char} :
    HoldsAt P (before ++ c :: after) before.length ↔ P before c after := by
  simp [HoldsAt]

theorem firstAt_of_clear {before after : List Char} {c : Char}
    (hclear : ∀ place < before.length, ¬ HoldsAt P (before ++ c :: after) place)
    (h : P before c after) : FirstAt P (before ++ c :: after) c before.length := by
  refine ⟨⟨holdsAt_append_cons.mpr h, ?_⟩, by simp⟩
  intro place hplace
  by_contra hlt
  exact hclear place (by omega) hplace

/-- Inside a text `P` holds of a piece what it holds there between the rest. -/
theorem holdsAt_append_iff {before piece after : List Char} {position : Nat}
    (h : position < piece.length) :
    HoldsAt P (before ++ (piece ++ after)) (before.length + position) ↔
      HoldsAt (fun start c rest => P (before ++ start) c (rest ++ after)) piece position := by
  have htake : (before ++ (piece ++ after)).take (before.length + position) =
      before ++ piece.take position := by
    rw [List.take_length_add_append, List.take_append_of_le_length h.le]
  have hdrop : (before ++ (piece ++ after)).drop (before.length + position + 1) =
      piece.drop (position + 1) ++ after := by
    rw [Nat.add_assoc, List.drop_length_add_append, List.drop_append_of_le_length h]
  have hget : (before ++ (piece ++ after))[before.length + position]? = piece[position]? := by
    rw [List.getElem?_append_right (Nat.le_add_right _ _), Nat.add_sub_cancel_left,
      List.getElem?_append_left h]
  rw [HoldsAt, htake, hdrop, hget]
  rfl

theorem Pinpoints.eq_some_iff {text : List Char} {shift : Nat} {outcome : Option NameFlaw}
    (h : Pinpoints P text shift outcome) {flaw : NameFlaw} :
    outcome = some flaw ↔
      ∃ c position, flaw = .misplaced c (shift + position) ∧ FirstAt P text c position := by
  cases h with
  | nothing hnone =>
    constructor
    · simp
    · rintro ⟨c, position, -, hfirst⟩
      exact absurd hfirst.least.1 (hnone position)
  | first hfirst =>
    constructor
    · rintro ⟨⟩
      exact ⟨_, _, rfl, hfirst⟩
    · rintro ⟨c', position', rfl, hfirst'⟩
      cases hfirst.least.unique hfirst'.least
      cases hfirst.found.symm.trans hfirst'.found
      rfl

end Places

/-! ### One name -/

theorem not_misplacedInName_iff {symbols before after : List Char} {c : Char} :
    ¬ MisplacedInName symbols before c after ↔
      (isAlphanumeric c || (!before.isEmpty && !after.isEmpty && symbols.contains c)) = true := by
  simp [MisplacedInName, or_iff_not_imp_left, and_assoc]

/-- Where no character of a name is out of place among those passed, the check finds the
first one that is. -/
theorem pinpoints_misplacedFrom {symbols : List Char} (passed rest : List Char) (shift : Nat)
    (hpassed : ∀ place < passed.length,
      ¬ HoldsAt (MisplacedInName symbols) (passed ++ rest) place) :
    Pinpoints (MisplacedInName symbols) (passed ++ rest) shift
      (misplacedFrom symbols (!passed.isEmpty) (shift + passed.length) rest) := by
  induction rest generalizing passed with
  | nil =>
    rw [List.append_nil] at hpassed ⊢
    exact .nothing fun place hplace => hpassed place hplace.lt_length hplace
  | cons c rest ih =>
    rw [misplacedFrom]
    split
    · rename_i hc
      have hnext : passed ++ c :: rest = (passed ++ [c]) ++ rest := by simp
      have hclear : ∀ place < (passed ++ [c]).length,
          ¬ HoldsAt (MisplacedInName symbols) ((passed ++ [c]) ++ rest) place := by
        intro place hplace
        rw [← hnext]
        rcases Nat.lt_succ_iff_lt_or_eq.mp (by simpa using hplace) with hlt | rfl
        · exact hpassed place hlt
        · rw [holdsAt_append_cons]
          exact not_misplacedInName_iff.mpr hc
      have hne : (passed ++ [c]).isEmpty = false := by simp
      have hrest := ih (passed ++ [c]) hclear
      rw [← hnext, hne, List.length_append, ← Nat.add_assoc] at hrest
      exact hrest
    · rename_i hc
      refine .first (firstAt_of_clear hpassed ?_)
      by_contra hplace
      exact hc (not_misplacedInName_iff.mp hplace)

/-- The check of a name finds the first character that is out of place in it. -/
theorem pinpoints_misplaced? (symbols name : List Char) (shift : Nat) :
    Pinpoints (MisplacedInName symbols) name shift (misplaced? symbols shift name) :=
  pinpoints_misplacedFrom [] name shift (by simp)

/-! ### Segments -/

/-- In a segment a character is out of place as in a name of its own. -/
theorem misplacedInPrefix_iff {passed start after rest : List Char} {c : Char}
    (hpassed : passed = [] ∨ passed.getLast? = some '.')
    (hrest : rest = [] ∨ rest.head? = some '.') (hc : c ≠ '.') (hstart : '.' ∉ start)
    (hafter : '.' ∉ after) :
    MisplacedInPrefix (passed ++ start) c (after ++ rest) ↔
      MisplacedInName segmentSymbols start c after := by
  have hfirst : passed ++ start = [] ∨ (passed ++ start).getLast? = some '.' ↔ start = [] := by
    constructor
    · rintro (h | h)
      · exact (List.append_eq_nil_iff.mp h).2
      · by_contra hne
        rw [List.getLast?_append_of_ne_nil _ hne] at h
        exact hstart (List.mem_of_getLast? h)
    · rintro rfl
      simpa using hpassed
  have hlast : after ++ rest = [] ∨ (after ++ rest).head? = some '.' ↔ after = [] := by
    constructor
    · rintro (h | h)
      · exact (List.append_eq_nil_iff.mp h).1
      · by_contra hne
        rw [List.head?_append_of_ne_nil _ hne] at h
        exact hafter (List.mem_of_head? h)
    · rintro rfl
      simpa using hrest
  rw [MisplacedInPrefix, if_neg hc, MisplacedInName, ← hfirst, ← hlast, segmentSymbols]
  simp only [or_assoc, or_left_comm]

/-- What is out of place in a segment is so in the whole prefix, where the segment stands
between dots or at an end. -/
theorem holdsAt_segment_iff {passed segment rest : List Char} {position : Nat}
    (hpassed : passed = [] ∨ passed.getLast? = some '.')
    (hrest : rest = [] ∨ rest.head? = some '.') (hdot : '.' ∉ segment)
    (h : position < segment.length) :
    HoldsAt MisplacedInPrefix (passed ++ (segment ++ rest)) (passed.length + position) ↔
      HoldsAt (MisplacedInName segmentSymbols) segment position := by
  rw [holdsAt_append_iff h]
  refine exists_congr fun c => and_congr_right fun hfound => ?_
  refine misplacedInPrefix_iff hpassed hrest ?_ ?_ ?_
  · rintro rfl
    exact hdot (List.mem_of_getElem? hfound)
  · exact fun hmem => hdot (List.mem_of_mem_take hmem)
  · exact fun hmem => hdot (List.mem_of_mem_drop hmem)

section Segments

variable {passed segment rest : List Char}

/-- The first character out of place in a segment is the first one in the prefix, if none
of those passed is out of place. -/
theorem firstAt_segment {c : Char} {position : Nat}
    (hpassed : passed = [] ∨ passed.getLast? = some '.')
    (hrest : rest = [] ∨ rest.head? = some '.') (hdot : '.' ∉ segment)
    (hclear : ∀ place < passed.length,
      ¬ HoldsAt MisplacedInPrefix (passed ++ (segment ++ rest)) place)
    (h : FirstAt (MisplacedInName segmentSymbols) segment c position) :
    FirstAt MisplacedInPrefix (passed ++ (segment ++ rest)) c (passed.length + position) := by
  have hlt : position < segment.length := h.least.1.lt_length
  refine ⟨⟨(holdsAt_segment_iff hpassed hrest hdot hlt).mpr h.least.1, ?_⟩, ?_⟩
  · intro place hplace
    by_contra hbefore
    by_cases hinside : place < passed.length
    · exact hclear place hinside hplace
    · obtain ⟨offset, rfl⟩ := Nat.exists_eq_add_of_le (Nat.not_lt.mp hinside)
      have hfirst := h.least.2 ((holdsAt_segment_iff hpassed hrest hdot (by omega)).mp hplace)
      omega
  · rw [List.getElem?_append_right (Nat.le_add_right _ _), Nat.add_sub_cancel_left,
      List.getElem?_append_left hlt]
    exact h.found

/-- With a segment that has none, no character is out of place up to its end. -/
theorem clear_segment (hpassed : passed = [] ∨ passed.getLast? = some '.')
    (hrest : rest = [] ∨ rest.head? = some '.') (hdot : '.' ∉ segment)
    (hclear : ∀ place < passed.length,
      ¬ HoldsAt MisplacedInPrefix (passed ++ (segment ++ rest)) place)
    (h : ∀ place, ¬ HoldsAt (MisplacedInName segmentSymbols) segment place) :
    ∀ place < passed.length + segment.length,
      ¬ HoldsAt MisplacedInPrefix (passed ++ (segment ++ rest)) place := by
  intro place hplace hholds
  by_cases hinside : place < passed.length
  · exact hclear place hinside hholds
  · obtain ⟨position, rfl⟩ := Nat.exists_eq_add_of_le (Nat.not_lt.mp hinside)
    exact h position ((holdsAt_segment_iff hpassed hrest hdot (by omega)).mp hholds)

/-- The dot behind a segment is out of place only as the last character. -/
theorem eq_nil_of_misplaced_dot (hne : segment ≠ []) (hdot : '.' ∉ segment)
    (h : MisplacedInPrefix (passed ++ segment) '.' rest) : rest = [] := by
  rw [MisplacedInPrefix, if_pos rfl] at h
  rcases h with h | h | h
  · exact absurd (List.append_eq_nil_iff.mp h).2 hne
  · exact h
  · rw [List.getLast?_append_of_ne_nil _ hne] at h
    exact absurd (List.mem_of_getLast? h) hdot

/-- A dot that stands behind a dot or in front of everything is out of place. -/
theorem misplaced_dot (hpassed : passed = [] ∨ passed.getLast? = some '.') :
    MisplacedInPrefix passed '.' rest := by
  rw [MisplacedInPrefix, if_pos rfl]
  rcases hpassed with h | h
  · exact Or.inl h
  · exact Or.inr (Or.inr h)

end Segments

theorem segmentFlaw?_cons {segment : List Char} (h : segment ≠ []) (position : Nat)
    (rest : List (List Char)) :
    segmentFlaw? position (segment :: rest) =
      (misplaced? segmentSymbols position segment).or
        (segmentFlaw? (position + segment.length + 1) rest) := by
  obtain ⟨c, segment, rfl⟩ := List.exists_cons_of_ne_nil h
  rw [segmentFlaw?]
  · simp
  · simp

/-- What stands behind the first of several segments. -/
theorem exists_intercalate_cons (segment : List Char) (segments : List (List Char)) :
    ∃ rest, ['.'].intercalate (segment :: segments) = segment ++ rest ∧
      (rest = [] ∨ rest.head? = some '.') ∧
      (segments = [] ∧ rest = [] ∨
        segments ≠ [] ∧ rest = '.' :: ['.'].intercalate segments) := by
  cases segments with
  | nil => exact ⟨[], by simp⟩
  | cons next segments =>
    exact ⟨'.' :: ['.'].intercalate (next :: segments), by simp [List.intercalate_cons_cons]⟩

/-- Where segments have been passed and the check goes on behind them, it finds the first
character of the prefix that is out of place. Of those passed none is, except perhaps the
dot behind the last segment, if nothing follows it. -/
theorem pinpoints_segmentFlaw? {segments : List (List Char)} (hne : segments ≠ [])
    (hdots : ∀ segment ∈ segments, '.' ∉ segment) (passed : List Char) {text : List Char}
    (htext : text = passed ++ ['.'].intercalate segments) (hempty : text ≠ [])
    (hpassed : passed = [] ∨ passed.getLast? = some '.')
    (hclear : ∀ place < passed.length,
      HoldsAt MisplacedInPrefix text place → place + 1 = text.length) :
    Pinpoints MisplacedInPrefix text 0 (segmentFlaw? passed.length segments) := by
  induction segments generalizing passed with
  | nil => exact absurd rfl hne
  | cons segment segments ih =>
    obtain ⟨hdot, hdots⟩ := List.forall_mem_cons.mp hdots
    have hclear' (hlt : passed.length < text.length) :
        ∀ place < passed.length, ¬ HoldsAt MisplacedInPrefix text place := by
      intro place hplace hholds
      have hlast := hclear place hplace hholds
      omega
    by_cases hsegment : segment = []
    · subst hsegment
      cases segments with
      | nil =>
        rw [List.intercalate_singleton, List.append_nil] at htext
        subst htext
        obtain ⟨before, rfl⟩ := List.getLast?_eq_some_iff.mp (hpassed.resolve_left hempty)
        have hfirst : FirstAt MisplacedInPrefix (before ++ ['.']) '.' before.length := by
          refine firstAt_of_clear ?_ (by simp [MisplacedInPrefix])
          intro place hplace hholds
          have hlast := hclear place (by simp; omega) hholds
          simp at hlast
          omega
        simpa [segmentFlaw?] using hfirst.pinpoints
      | cons next segments =>
        rw [List.intercalate_cons_cons, List.nil_append, List.singleton_append] at htext
        subst htext
        exact (firstAt_of_clear (hclear' (by simp)) (misplaced_dot hpassed)).pinpoints
    · obtain ⟨rest, hjoined, hrest, hsegments⟩ := exists_intercalate_cons segment segments
      rw [hjoined] at htext
      subst htext
      have hlength := List.length_pos_iff.mpr hsegment
      have hclear := hclear' (by simp; omega)
      have hname := pinpoints_misplaced? segmentSymbols segment passed.length
      rw [segmentFlaw?_cons hsegment]
      generalize misplaced? segmentSymbols passed.length segment = outcome at hname
      cases hname with
      | first h => exact (firstAt_segment hpassed hrest hdot hclear h).pinpoints
      | nothing h =>
        have hclear := clear_segment hpassed hrest hdot hclear h
        rcases hsegments with ⟨rfl, rfl⟩ | ⟨hne, rfl⟩
        · refine .nothing fun place hholds => hclear place ?_ hholds
          simpa using hholds.lt_length
        · have hpassed' : (passed ++ (segment ++ ['.'])).length =
              passed.length + segment.length + 1 := by simp [Nat.add_assoc]
          rw [Option.none_or, ← hpassed']
          refine ih hne hdots _ (by simp) (Or.inr (by simp)) ?_
          intro place hplace hholds
          rw [hpassed'] at hplace
          rcases Nat.lt_succ_iff_lt_or_eq.mp hplace with hlt | rfl
          · exact absurd hholds (hclear place hlt)
          · -- This is the dot behind the segment.
            rw [← List.append_assoc, ← List.length_append, holdsAt_append_cons] at hholds
            simp [eq_nil_of_misplaced_dot hsegment hdot hholds, Nat.add_assoc]

/-! ### Reasons in order -/

/-- What is wrong with a part of a key, which has `shift` characters of the key before it
and may neither be empty nor exceed `limit`. -/
inductive PartDiagnosis (P : List Char → Char → List Char → Prop) (limit : Nat)
    (ifEmpty : NameFlaw) (ifLong : Nat → Nat → NameFlaw) (shift : Nat) (text : List Char) :
    NameFlaw → Prop where
  | ofEmpty (h : text = []) : PartDiagnosis P limit ifEmpty ifLong shift text ifEmpty
  | ofLength (h : limit < text.length) :
      PartDiagnosis P limit ifEmpty ifLong shift text (ifLong text.length limit)
  | ofCharacter {c : Char} {position : Nat} (hlength : 1 ≤ text.length ∧ text.length ≤ limit)
      (h : FirstAt P text c position) :
      PartDiagnosis P limit ifEmpty ifLong shift text (.misplaced c (shift + position))

/-- What is wrong with the part of a key before the slash. -/
def PrefixDiagnosis : List Char → NameFlaw → Prop :=
  PartDiagnosis MisplacedInPrefix 253 .emptyPrefix .prefixTooLong 0

/-- What is wrong with the name of a key behind `shift` other characters. -/
def NameDiagnosis (shift : Nat) : List Char → NameFlaw → Prop :=
  PartDiagnosis (MisplacedInName ['-', '_', '.', '\\']) 63 .empty .tooLong shift

/-- What is wrong with a key of at most one slash. Of its name something is said only
where nothing is wrong with its prefix. -/
inductive KeyDiagnosis : List Char → NameFlaw → Prop where
  | name {name : List Char} {flaw : NameFlaw} (hname : '/' ∉ name)
      (h : NameDiagnosis 0 name flaw) : KeyDiagnosis name flaw
  | ofPrefix {before name : List Char} {flaw : NameFlaw} (hbefore : '/' ∉ before)
      (hname : '/' ∉ name) (h : PrefixDiagnosis before flaw) :
      KeyDiagnosis (before ++ '/' :: name) flaw
  | behindPrefix {before name : List Char} {flaw : NameFlaw} (hbefore : '/' ∉ before)
      (hname : '/' ∉ name) (hnone : ∀ flaw, ¬ PrefixDiagnosis before flaw)
      (h : NameDiagnosis (before.length + 1) name flaw) :
      KeyDiagnosis (before ++ '/' :: name) flaw

/-- What is wrong with a value. -/
inductive ValueDiagnosis (value : List Char) : NameFlaw → Prop where
  | ofLength (h : 63 < value.length) : ValueDiagnosis value (.tooLong value.length 63)
  | ofCharacter {c : Char} {position : Nat} (hlength : value.length ≤ 63)
      (h : FirstAt (MisplacedInName ['-', '_', '.']) value c position) :
      ValueDiagnosis value (.misplaced c position)

/-- A check that tries the length first and then looks for a character out of place. -/
theorem eq_some_iff_partDiagnosis {P : List Char → Char → List Char → Prop} {limit : Nat}
    {ifEmpty : NameFlaw} {ifLong : Nat → Nat → NameFlaw} {shift : Nat} {text : List Char}
    {outcome : Option NameFlaw} (houtcome : text ≠ [] → Pinpoints P text shift outcome)
    {flaw : NameFlaw} :
    (if text.length = 0 then some ifEmpty
      else if text.length > limit then some (ifLong text.length limit) else outcome) =
        some flaw ↔
      PartDiagnosis P limit ifEmpty ifLong shift text flaw := by
  by_cases hempty : text = []
  · subst hempty
    rw [if_pos List.length_nil]
    constructor
    · rintro ⟨⟩
      exact .ofEmpty rfl
    · rintro (_ | h | ⟨hlength, -⟩)
      · rfl
      · simp at h
      · simp at hlength
  · have hlength : 1 ≤ text.length := List.length_pos_iff.mpr hempty
    rw [if_neg (by omega)]
    split
    · rename_i hlimit
      constructor
      · rintro ⟨⟩
        exact .ofLength hlimit
      · rintro (h | _ | ⟨hlength, -⟩)
        · exact absurd h hempty
        · rfl
        · omega
    · rename_i hlimit
      rw [(houtcome hempty).eq_some_iff]
      constructor
      · rintro ⟨c, position, rfl, hfirst⟩
        exact .ofCharacter ⟨hlength, Nat.not_lt.mp hlimit⟩ hfirst
      · rintro (h | h | ⟨-, hfirst⟩)
        · exact absurd h hempty
        · exact absurd h hlimit
        · exact ⟨_, _, rfl, hfirst⟩

theorem keyNameFlaw?_eq_some_iff {shift : Nat} {name : List Char} {flaw : NameFlaw} :
    keyNameFlaw? shift name = some flaw ↔ NameDiagnosis shift name flaw :=
  eq_some_iff_partDiagnosis fun _ => pinpoints_misplaced? keyNameSymbols name shift

theorem prefixFlaw?_eq_some_iff {text : List Char} {flaw : NameFlaw} :
    prefixFlaw? text = some flaw ↔ PrefixDiagnosis text flaw := by
  apply eq_some_iff_partDiagnosis
  intro hempty
  have hdots : ∀ segment ∈ text.splitOn '.', '.' ∉ segment := by
    intro segment hsegment hdot
    exact (mem_splitOn_iff.mp ⟨segment, hsegment, hdot⟩).2 rfl
  exact pinpoints_segmentFlaw? (List.splitOn_ne_nil _ _) hdots []
    (List.intercalate_splitOn '.').symm hempty (Or.inl rfl) (by simp)

theorem keyFlaw?_eq_some_iff {key : String} {rejection : Rejection} :
    keyFlaw? key = some rejection ↔
      (∃ first second third, key.toList = first ++ '/' :: (second ++ '/' :: third) ∧
        '/' ∉ first ∧ '/' ∉ second ∧
        rejection = Cause.secondSlash.rejection (byteLength (first ++ '/' :: second))) ∨
      ∃ flaw, rejection = .naming key flaw ∧ KeyDiagnosis key.toList flaw := by
  constructor
  · intro h
    rcases slash_cases key.toList with hnone | ⟨before, name, hkey, hbefore, hname⟩ |
      ⟨first, second, third, hkey, hfirst, hsecond⟩
    · rw [keyFlaw?_of_no_slash hnone] at h
      obtain ⟨flaw, hflaw, rfl⟩ := Option.map_eq_some_iff.mp h
      exact Or.inr ⟨flaw, rfl, .name hnone (keyNameFlaw?_eq_some_iff.mp hflaw)⟩
    · rw [keyFlaw?_of_slash hkey hbefore hname] at h
      obtain ⟨flaw, hflaw, rfl⟩ := Option.map_eq_some_iff.mp h
      refine Or.inr ⟨flaw, rfl, ?_⟩
      rw [hkey]
      rcases Option.or_eq_some_iff.mp hflaw with hprefix | ⟨hnone, hflaw⟩
      · exact .ofPrefix hbefore hname (prefixFlaw?_eq_some_iff.mp hprefix)
      · refine .behindPrefix hbefore hname ?_ (keyNameFlaw?_eq_some_iff.mp hflaw)
        intro flaw' hflaw'
        rw [← prefixFlaw?_eq_some_iff, hnone] at hflaw'
        cases hflaw'
    · rw [keyFlaw?_of_two_slashes hkey hfirst hsecond] at h
      exact Or.inl ⟨first, second, third, hkey, hfirst, hsecond, (Option.some.inj h).symm⟩
  · rintro (⟨first, second, third, hkey, hfirst, hsecond, rfl⟩ | ⟨flaw, rfl, h⟩)
    · exact keyFlaw?_of_two_slashes hkey hfirst hsecond
    · generalize hkey : key.toList = text at h
      cases h with
      | name hname h =>
        subst hkey
        rw [keyFlaw?_of_no_slash hname, keyNameFlaw?_eq_some_iff.mpr h, Option.map_some]
      | ofPrefix hbefore hname h =>
        rw [keyFlaw?_of_slash hkey hbefore hname, prefixFlaw?_eq_some_iff.mpr h, Option.some_or,
          Option.map_some]
      | @behindPrefix before _ _ hbefore hname hnone h =>
        have hprefix : prefixFlaw? before = none := by
          rw [Option.eq_none_iff_forall_ne_some]
          exact fun flaw hflaw => hnone flaw (prefixFlaw?_eq_some_iff.mp hflaw)
        rw [keyFlaw?_of_slash hkey hbefore hname, hprefix, Option.none_or,
          keyNameFlaw?_eq_some_iff.mpr h, Option.map_some]

theorem valueFlaw?_eq_some_iff {value : String} {rejection : Rejection} :
    valueFlaw? value = some rejection ↔
      ∃ flaw, rejection = .naming value flaw ∧ ValueDiagnosis value.toList flaw := by
  have hname := pinpoints_misplaced? valueSymbols value.toList 0
  unfold valueFlaw? valueLimit
  constructor
  · intro h
    split at h
    · exact ⟨_, (Option.some.inj h).symm, .ofLength ‹_›⟩
    · obtain ⟨flaw, hflaw, rfl⟩ := Option.map_eq_some_iff.mp h
      obtain ⟨c, position, rfl, hfirst⟩ := hname.eq_some_iff.mp hflaw
      rw [Nat.zero_add]
      exact ⟨_, rfl, .ofCharacter (by omega) hfirst⟩
  · rintro ⟨flaw, rfl, h | ⟨hlength, h⟩⟩
    · rw [if_pos h]
    · rw [if_neg (by omega), hname.eq_some_iff.mpr ⟨_, _, by rw [Nat.zero_add], h⟩,
        Option.map_some]

/-! ### The character that is named -/

theorem KeyDiagnosis.getElem?_eq {key : List Char} {c : Char} {position : Nat}
    (h : KeyDiagnosis key (.misplaced c position)) : key[position]? = some c := by
  cases h with
  | name _ h =>
    cases h with
    | ofCharacter _ h =>
      rw [Nat.zero_add]
      exact h.found
  | ofPrefix _ _ h =>
    cases h with
    | ofCharacter _ h =>
      rw [Nat.zero_add, List.getElem?_append_left h.least.1.lt_length]
      exact h.found
  | behindPrefix _ _ _ h =>
    cases h with
    | ofCharacter _ h =>
      rw [List.getElem?_append_right (by omega), Nat.add_assoc, Nat.add_sub_cancel_left,
        Nat.add_comm, List.getElem?_cons_succ]
      exact h.found

theorem ValueDiagnosis.getElem?_eq {value : List Char} {c : Char} {position : Nat}
    (h : ValueDiagnosis value (.misplaced c position)) : value[position]? = some c := by
  cases h with
  | ofCharacter _ h => exact h.found

/-- A key with a second slash is rejected for the form, at the number of bytes before that
slash. Every other rejected key or value is rejected under its own name, for the first
reason that applies; and a character that is named stands at the position that is given. -/
theorem flaws_diagnosed (text : String) :
    (∀ rejection, keyFlaw? text = some rejection ↔
      (∃ first second third, text.toList = first ++ '/' :: (second ++ '/' :: third) ∧
        '/' ∉ first ∧ '/' ∉ second ∧
        rejection = .form ⟨Cause.secondSlash.what, byteLength (first ++ '/' :: second)⟩) ∨
      ∃ flaw, rejection = .naming text flaw ∧ KeyDiagnosis text.toList flaw) ∧
      (∀ rejection, valueFlaw? text = some rejection ↔
        ∃ flaw, rejection = .naming text flaw ∧ ValueDiagnosis text.toList flaw) ∧
      ∀ c position,
        KeyDiagnosis text.toList (.misplaced c position) ∨
          ValueDiagnosis text.toList (.misplaced c position) →
        text.toList[position]? = some c := by
  refine ⟨fun _ => keyFlaw?_eq_some_iff, fun _ => valueFlaw?_eq_some_iff, ?_⟩
  rintro c position (h | h)
  · exact h.getElem?_eq
  · exact h.getElem?_eq

/-- The dash is out of place by the dot behind it, and it comes before that dot, which is so
as the last character of the prefix. -/
theorem flaws_diagnosed_dash_before_dot :
    keyFlaw? "é.x-./_" = some (.naming "é.x-./_" (.misplaced '-' 3)) ∧
      KeyDiagnosis "é.x-./_".toList (.misplaced '-' 3) ∧ "é.x-./_".toList[3]? = some '-' := by
  have hflaw : keyFlaw? "é.x-./_" = some (.naming "é.x-./_" (.misplaced '-' 3)) := by
    decide +kernel
  obtain ⟨hkey, -, hfound⟩ := flaws_diagnosed "é.x-./_"
  have hdiagnosis : KeyDiagnosis "é.x-./_".toList (.misplaced '-' 3) := by
    rcases (hkey _).mp hflaw with ⟨_, _, _, -, -, -, hform⟩ | ⟨flaw, hnaming, h⟩
    · cases hform
    · cases hnaming
      exact h
  exact ⟨hflaw, hdiagnosis, hfound '-' 3 (Or.inl hdiagnosis)⟩

end LabelQuery.Naming
