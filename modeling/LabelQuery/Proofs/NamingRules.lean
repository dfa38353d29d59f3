/-
What the naming rules allow.

`IsKey` and `IsValue` say which texts may be keys and values, and mention no check: a
name has letters or digits at both ends and a few symbols between them, a prefix has
such names between its dots, and a key is a name that may have a prefix in front of a
slash. The checks find no flaw in exactly these (`names_without_flaw`). Where a key has
a second slash, that is its flaw, whatever else is wrong with it
(`keyFlaw?_of_two_slashes`).
-/

import LabelQuery.Naming
import Mathlib.Data.List.Basic

namespace LabelQuery.Naming

open LabelQuery.Text LabelQuery.Source

/-- A letter, a digit or one of the symbols. -/
def Permitted (symbols : List Char) (c : Char) : Prop :=
  isAlphanumeric c = true ∨ c ∈ symbols

/-- Letters or digits stand at both ends of a name, and between them these and the
symbols. -/
structure Framed (symbols : List Char) (name : List Char) : Prop where
  first : ∃ c, name.head? = some c ∧ isAlphanumeric c = true
  last : ∃ c, name.getLast? = some c ∧ isAlphanumeric c = true
  permitted : ∀ c ∈ name, Permitted symbols c

/-- The name of a key. -/
structure IsKeyName (name : List Char) : Prop where
  length : 1 ≤ name.length ∧ name.length ≤ 63
  framed : Framed ['-', '_', '.', '\\'] name

/-- What may stand before the slash of a key: segments, with a dot between each two. -/
structure IsKeyPrefix (text : List Char) : Prop where
  length : 1 ≤ text.length ∧ text.length ≤ 253
  segments : ∃ segments, segments ≠ [] ∧ text = ['.'].intercalate segments ∧
    ∀ segment ∈ segments, Framed ['-', '_'] segment

/-- A key: a name, or a prefix, a slash and a name. -/
inductive IsKey : List Char → Prop where
  | name {name : List Char} (hname : IsKeyName name) : IsKey name
  | prefixed {before name : List Char} (hbefore : IsKeyPrefix before) (hname : IsKeyName name) :
      IsKey (before ++ '/' :: name)

/-- A value, which may be empty. -/
inductive IsValue : List Char → Prop where
  | empty : IsValue []
  | name {name : List Char} (hlength : 1 ≤ name.length ∧ name.length ≤ 63)
      (hframed : Framed ['-', '_', '.'] name) : IsValue name

/-! ### One name -/

/-- No character is misplaced in a name whose characters are all permitted and whose
last one is a letter or a digit. So must be the first one, if none stands before it. -/
theorem misplacedFrom_eq_none_iff {symbols : List Char} {inside : Bool} {position : Nat}
    {name : List Char} :
    misplacedFrom symbols inside position name = none ↔
      (inside = false → ∀ c ∈ name.head?, isAlphanumeric c = true) ∧
        (∀ c ∈ name.getLast?, isAlphanumeric c = true) ∧
        ∀ c ∈ name, Permitted symbols c := by
  induction name generalizing inside position with
  | nil => simp [misplacedFrom]
  | cons c rest ih =>
    have hlast : (∀ d ∈ (c :: rest).getLast?, isAlphanumeric d = true) ↔
        (rest = [] → isAlphanumeric c = true) ∧ ∀ d ∈ rest.getLast?, isAlphanumeric d = true := by
      cases rest <;> simp
    have hpassed : (isAlphanumeric c || (inside && !rest.isEmpty && symbols.contains c)) = true ↔
        isAlphanumeric c = true ∨ inside = true ∧ rest ≠ [] ∧ c ∈ symbols := by
      simp [and_assoc]
    rw [misplacedFrom, hlast, List.head?_cons, List.forall_mem_cons]
    unfold Permitted at ih ⊢
    split
    · rename_i hc
      rw [hpassed] at hc
      rw [ih]
      grind
    · rename_i hc
      rw [hpassed] at hc
      grind

theorem misplaced?_eq_none_iff {symbols : List Char} {position : Nat} {name : List Char}
    (hne : name ≠ []) : misplaced? symbols position name = none ↔ Framed symbols name := by
  have hfirst := List.head?_eq_some_head hne
  have hlast := List.getLast?_eq_some_getLast hne
  rw [misplaced?, misplacedFrom_eq_none_iff]
  constructor
  · rintro ⟨hc, hd, hall⟩
    exact ⟨⟨_, hfirst, hc rfl _ hfirst⟩, ⟨_, hlast, hd _ hlast⟩, hall⟩
  · rintro ⟨⟨c, hc, hfirst⟩, ⟨d, hd, hlast⟩, hall⟩
    refine ⟨?_, ?_, hall⟩
    · intro _ c' hc'
      rwa [Option.some.inj (hc.symm.trans hc')] at hfirst
    · intro d' hd'
      rwa [Option.some.inj (hd.symm.trans hd')] at hlast

theorem Framed.ne_nil {symbols name : List Char} (h : Framed symbols name) : name ≠ [] := by
  rintro rfl
  obtain ⟨c, hc, -⟩ := h.first
  simp at hc

/-- A character that is neither a letter nor a digit nor one of the symbols does not
stand in the name. -/
theorem Framed.not_mem {symbols name : List Char} (h : Framed symbols name) {c : Char}
    (hc : isAlphanumeric c = false) (hsymbol : c ∉ symbols) : c ∉ name := by
  intro hmem
  rcases h.permitted c hmem with halphanumeric | hmem
  · simp [hc] at halphanumeric
  · exact hsymbol hmem

/-- Where a test finds a flaw, there is none only if the test fails. -/
theorem ite_some_eq_none_iff {p : Prop} [Decidable p] {flaw : NameFlaw}
    {others : Option NameFlaw} :
    (if p then some flaw else others) = none ↔ ¬ p ∧ others = none := by
  split <;> simp_all

theorem keyNameFlaw?_eq_none_iff {position : Nat} {name : List Char} :
    keyNameFlaw? position name = none ↔ IsKeyName name := by
  unfold keyNameFlaw? keyNameLimit
  rw [ite_some_eq_none_iff, ite_some_eq_none_iff]
  constructor
  · rintro ⟨hne, hlimit, h⟩
    have hframed := (misplaced?_eq_none_iff (by simpa using hne)).mp h
    exact ⟨by omega, hframed⟩
  · rintro ⟨hlength, hframed⟩
    exact ⟨by omega, by omega, (misplaced?_eq_none_iff hframed.ne_nil).mpr hframed⟩

/-! ### Prefixes -/

theorem segmentFlaw?_eq_none_iff {position : Nat} {segments : List (List Char)} :
    segmentFlaw? position segments = none ↔
      ∀ segment ∈ segments, Framed segmentSymbols segment := by
  fun_induction segmentFlaw? position segments with
  | case1 => simp
  | case2 position =>
    constructor
    · intro h
      simp at h
    · intro h
      exact absurd rfl (h [] (by simp)).ne_nil
  | case3 position rest =>
    constructor
    · intro h
      simp at h
    · intro h
      exact absurd rfl (h [] (by simp)).ne_nil
  | case4 position segment rest hlone hempty ih =>
    have hne : segment ≠ [] := by
      rintro rfl
      exact hempty rfl
    rw [Option.or_eq_none_iff, misplaced?_eq_none_iff hne, ih, List.forall_mem_cons]

/-- The segments of a text that a dot stands between each two of, if none has a dot. -/
theorem segments_iff {text : List Char} {P : List Char → Prop}
    (hdot : ∀ segment, P segment → '.' ∉ segment) :
    (∀ segment ∈ text.splitOn '.', P segment) ↔
      ∃ segments, segments ≠ [] ∧ text = ['.'].intercalate segments ∧
        ∀ segment ∈ segments, P segment := by
  constructor
  · intro h
    exact ⟨text.splitOn '.', List.splitOn_ne_nil _ _, (List.intercalate_splitOn '.').symm, h⟩
  · rintro ⟨segments, hne, rfl, h⟩
    rwa [List.splitOn_intercalate '.' (fun segment hsegment => hdot _ (h _ hsegment)) hne]

theorem prefixFlaw?_eq_none_iff {text : List Char} :
    prefixFlaw? text = none ↔ IsKeyPrefix text := by
  have hdot : ∀ segment, Framed segmentSymbols segment → '.' ∉ segment := by
    intro segment h
    exact h.not_mem (by decide +kernel) (by decide)
  unfold prefixFlaw? keyPrefixLimit
  rw [ite_some_eq_none_iff, ite_some_eq_none_iff, segmentFlaw?_eq_none_iff, segments_iff hdot]
  constructor
  · rintro ⟨hne, hlimit, hsegments⟩
    exact ⟨by omega, hsegments⟩
  · rintro ⟨hlength, hsegments⟩
    exact ⟨by omega, by omega, hsegments⟩

/-- Between the pieces of a joined text the separator stands, and nothing else. -/
theorem mem_of_mem_intercalate {separator c : Char} {pieces : List (List Char)}
    (h : c ∈ [separator].intercalate pieces) :
    c = separator ∨ ∃ piece ∈ pieces, c ∈ piece := by
  induction pieces with
  | nil => simp at h
  | cons piece rest ih =>
    cases rest with
    | nil => exact Or.inr ⟨piece, by simp, by simpa using h⟩
    | cons next rest =>
      simp only [List.intercalate_cons_cons, List.mem_append, List.mem_singleton] at h
      rcases h with (hpiece | hseparator) | hrest
      · exact Or.inr ⟨piece, by simp, hpiece⟩
      · exact Or.inl hseparator
      · rcases ih hrest with hseparator | ⟨found, hfound, hc⟩
        · exact Or.inl hseparator
        · exact Or.inr ⟨found, List.mem_cons_of_mem _ hfound, hc⟩

/-- A prefix holds dots and what its segments hold. -/
theorem IsKeyPrefix.permitted {text : List Char} (h : IsKeyPrefix text) :
    ∀ c ∈ text, c = '.' ∨ Permitted ['-', '_'] c := by
  obtain ⟨segments, -, rfl, hsegments⟩ := h.segments
  intro c hc
  rcases mem_of_mem_intercalate hc with hdot | ⟨segment, hsegment, hc⟩
  · exact Or.inl hdot
  · exact Or.inr ((hsegments segment hsegment).permitted c hc)

/-! ### Slashes -/

/-- A key has no slash, or one, or a second one after the first. -/
theorem slash_cases (key : List Char) :
    '/' ∉ key ∨
      (∃ before name, key = before ++ '/' :: name ∧ '/' ∉ before ∧ '/' ∉ name) ∨
      ∃ first second rest, key = first ++ '/' :: (second ++ '/' :: rest) ∧
        '/' ∉ first ∧ '/' ∉ second := by
  by_cases hkey : '/' ∈ key
  · obtain ⟨first, rest, rfl, hfirst⟩ := List.eq_append_cons_of_mem hkey
    by_cases hrest : '/' ∈ rest
    · obtain ⟨second, rest, rfl, hsecond⟩ := List.eq_append_cons_of_mem hrest
      exact Or.inr (Or.inr ⟨first, second, rest, rfl, hfirst, hsecond⟩)
    · exact Or.inr (Or.inl ⟨first, rest, rfl, hfirst, hrest⟩)
  · exact Or.inl hkey

theorem keyFlaw?_of_no_slash {key : String} (h : '/' ∉ key.toList) :
    keyFlaw? key = (keyNameFlaw? 0 key.toList).map (.naming key) := by
  unfold keyFlaw?
  rw [List.splitOn_eq_singleton h]

theorem keyFlaw?_of_slash {key : String} {before name : List Char}
    (hkey : key.toList = before ++ '/' :: name) (hbefore : '/' ∉ before) (hname : '/' ∉ name) :
    keyFlaw? key =
      ((prefixFlaw? before).or (keyNameFlaw? (before.length + 1) name)).map (.naming key) := by
  unfold keyFlaw?
  rw [hkey, List.splitOn_append_cons_self_of_not_mem hbefore, List.splitOn_eq_singleton hname]

/-- A second slash is the flaw of a key, at the number of bytes before it. -/
theorem keyFlaw?_of_two_slashes {key : String} {first second rest : List Char}
    (hkey : key.toList = first ++ '/' :: (second ++ '/' :: rest)) (hfirst : '/' ∉ first)
    (hsecond : '/' ∉ second) :
    keyFlaw? key = some (Cause.secondSlash.rejection (byteLength (first ++ '/' :: second))) := by
  obtain ⟨third, others, hrest⟩ := List.exists_cons_of_ne_nil (List.splitOn_ne_nil '/' rest)
  unfold keyFlaw?
  rw [hkey, List.splitOn_append_cons_self_of_not_mem hfirst,
    List.splitOn_append_cons_self_of_not_mem hsecond, hrest, byteLength_append, byteLength_cons,
    ← Nat.add_assoc]

/-! ### Keys and values -/

theorem IsKeyName.slash_not_mem {name : List Char} (h : IsKeyName name) : '/' ∉ name :=
  h.framed.not_mem (by decide +kernel) (by decide)

theorem IsKeyPrefix.slash_not_mem {text : List Char} (h : IsKeyPrefix text) : '/' ∉ text := by
  intro hmem
  have hslash : isAlphanumeric '/' = false := by decide +kernel
  rcases h.permitted _ hmem with hdot | halphanumeric | hsymbol
  · simp at hdot
  · simp [hslash] at halphanumeric
  · simp at hsymbol

theorem keyFlaw?_eq_none_iff {key : String} : keyFlaw? key = none ↔ IsKey key.toList := by
  constructor
  · intro h
    rcases slash_cases key.toList with hnone | ⟨before, name, hkey, hbefore, hname⟩ |
      ⟨first, second, rest, hkey, hfirst, hsecond⟩
    · rw [keyFlaw?_of_no_slash hnone, Option.map_eq_none_iff] at h
      exact .name (keyNameFlaw?_eq_none_iff.mp h)
    · rw [keyFlaw?_of_slash hkey hbefore hname, Option.map_eq_none_iff,
        Option.or_eq_none_iff] at h
      rw [hkey]
      exact .prefixed (prefixFlaw?_eq_none_iff.mp h.1) (keyNameFlaw?_eq_none_iff.mp h.2)
    · rw [keyFlaw?_of_two_slashes hkey hfirst hsecond] at h
      simp at h
  · intro h
    generalize hkey : key.toList = text at h
    cases h with
    | name hname =>
      subst hkey
      rw [keyFlaw?_of_no_slash hname.slash_not_mem, keyNameFlaw?_eq_none_iff.mpr hname]
      rfl
    | prefixed hbefore hname =>
      rw [keyFlaw?_of_slash hkey hbefore.slash_not_mem hname.slash_not_mem,
        prefixFlaw?_eq_none_iff.mpr hbefore, keyNameFlaw?_eq_none_iff.mpr hname]
      rfl

theorem valueFlaw?_eq_none_iff {value : String} :
    valueFlaw? value = none ↔ IsValue value.toList := by
  unfold valueFlaw? valueLimit
  generalize value.toList = text
  by_cases hempty : text = []
  · subst hempty
    exact ⟨fun _ => .empty, fun _ => rfl⟩
  · have hpos : 1 ≤ text.length := List.length_pos_iff.mpr hempty
    constructor
    · intro h
      split at h
      · simp at h
      · rw [Option.map_eq_none_iff, misplaced?_eq_none_iff hempty] at h
        exact .name (by omega) h
    · intro h
      cases h with
      | empty => exact absurd rfl hempty
      | name hlength hframed =>
        rw [if_neg (by omega), Option.map_eq_none_iff]
        exact (misplaced?_eq_none_iff hempty).mpr hframed

/-- A text has no flaw as a key exactly if it is a key, and none as a value exactly if it
is a value. The symbols of both are neither letters nor digits. -/
theorem names_without_flaw (text : String) :
    (keyFlaw? text = none ↔ IsKey text.toList) ∧
      (valueFlaw? text = none ↔ IsValue text.toList) ∧
      ∀ c ∈ ['/', '.', '-', '_', '\\'], isAlphanumeric c = false := by
  have hsymbols : ['/', '.', '-', '_', '\\'].all (fun c => !isAlphanumeric c) = true := by
    decide +kernel
  refine ⟨keyFlaw?_eq_none_iff, valueFlaw?_eq_none_iff, ?_⟩
  intro c hc
  simpa using List.all_eq_true.mp hsymbols c hc

/-- The backslash and the slash belong to keys only, and no symbol stands at an end. -/
theorem names_without_flaw_backslash :
    IsKey "x.a-b/é\\_9".toList ∧ ¬ IsValue "é\\_9".toList ∧ ¬ IsKey "x.-b/é".toList ∧
      isAlphanumeric '\\' = false :=
  ⟨(names_without_flaw _).1.mp (by decide +kernel),
    mt (names_without_flaw _).2.1.mpr (by decide +kernel),
    mt (names_without_flaw _).1.mpr (by decide +kernel),
    (names_without_flaw "").2.2 '\\' (by decide)⟩

end LabelQuery.Naming
