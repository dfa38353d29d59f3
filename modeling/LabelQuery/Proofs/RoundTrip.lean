/-
From a selector to its text and back.

The text of a selector without a flaw and without empty joins parses, to the flat
selector of the rereadings of its clauses (`parse_render`). So a round trip gives back
the selector itself exactly for those that some text spells, which `Canonical`
describes (`parsed_tfae`); it flattens a nested selector and keeps what it selects;
and what a list of only the empty value costs is said label by label.
-/

import LabelQuery.Proofs.GrammarSound
import LabelQuery.Proofs.Rendering
import LabelQuery.Wire
import Mathlib.Tactic.TFAE

namespace LabelQuery

open Source

/-- A selector that travels arrives as the selector that its text spells. -/
theorem Wire.decode_encode_eq_ok_iff {s s' : Selector} :
    (Wire.encode s).decode = .ok s' ↔ Selector.parse s.render = .ok s' := by
  unfold Wire.encode Wire.decode
  dsimp only
  cases Selector.parse s.render with
  | ok arrived =>
    change Except.ok arrived = Except.ok s' ↔ _
    rw [Except.ok.injEq, Except.ok.injEq]
  | error rejection =>
    change Except.error (WireError.rejected rejection) = Except.ok s' ↔ _
    simp only [reduceCtorEq]

namespace Selector

/-! ### The round trip -/

/-- The text of a selector is parsed to the flat selector of its clauses, each reread. -/
theorem parse_render {s : Selector} (hflaw : s.flaw? = none) (hjoins : s.NoEmptyJoin) :
    parse s.render = .ok (.collect ((s.clauses.map Clause.reread).map .clause)) := by
  have htext := clausesText_render hjoins.clauses_ne_nil (flaw?_eq_none_iff.mp hflaw)
  rw [← hjoins.render_eq] at htext
  exact htext.parse_eq_ok

/-- The same, where rereading changes no clause. -/
theorem parse_render_of_listsOnlyEmpty_eq_false {s : Selector} (hflaw : s.flaw? = none)
    (hjoins : s.NoEmptyJoin) (hlists : ∀ c ∈ s.clauses, c.condition.listsOnlyEmpty = false) :
    parse s.render = .ok (.collect (s.clauses.map .clause)) := by
  rw [parse_render hflaw hjoins, Clause.map_reread_eq_self hlists]

/-! ### Selectors that some text spells -/

/-- A single clause, or a join of several clauses. -/
def IsFlat (s : Selector) : Prop :=
  (∃ c, s = .clause c) ∨ ∃ cs : List Clause, 2 ≤ cs.length ∧ s = .all (cs.map .clause)

/-- The selector is one that some text spells. -/
structure Canonical (s : Selector) : Prop where
  flawless : s.flaw? = none
  flat : s.IsFlat
  lists : ∀ c ∈ s.clauses, c.condition.listsOnlyEmpty = false

/-- A collection of clauses is flat, unless there is none. -/
theorem isFlat_collect {cs : List Clause} (h : cs ≠ []) : IsFlat (.collect (cs.map .clause)) := by
  match cs with
  | [c] => exact Or.inl ⟨c, rfl⟩
  | first :: second :: rest =>
    exact Or.inr ⟨first :: second :: rest, by simp, collect_clauses (by simp)⟩

theorem noEmptyJoin_all_clauses {cs : List Clause} (h : cs ≠ []) :
    NoEmptyJoin (.all (cs.map .clause)) := by
  refine .all (by simpa using h) ?_
  intro s hs
  obtain ⟨c, -, rfl⟩ := List.mem_map.mp hs
  exact .clause c

theorem IsFlat.noEmptyJoin {s : Selector} (h : s.IsFlat) : s.NoEmptyJoin := by
  rcases h with ⟨c, rfl⟩ | ⟨cs, hcs, rfl⟩
  · exact .clause c
  · exact noEmptyJoin_all_clauses (List.ne_nil_of_length_pos (by omega))

/-- A flat selector is the collection of its clauses. -/
theorem IsFlat.collect_clauses_eq {s : Selector} (h : s.IsFlat) :
    collect (s.clauses.map .clause) = s := by
  rcases h with ⟨c, rfl⟩ | ⟨cs, hcs, rfl⟩
  · rfl
  · rw [clauses, clausesOfAll_map_clause, collect_clauses hcs]

theorem Canonical.parse_render {s : Selector} (h : s.Canonical) : parse s.render = .ok s := by
  rw [parse_render_of_listsOnlyEmpty_eq_false h.flawless h.flat.noEmptyJoin h.lists,
    h.flat.collect_clauses_eq]

theorem canonical_of_parse {text : String} {s : Selector} (h : parse text = .ok s) :
    s.Canonical := by
  obtain ⟨cs, hcs, rfl⟩ := clausesText_of_parse h
  refine ⟨(parse_eq_ok_iff.mp h).2, isFlat_collect hcs.ne_nil, ?_⟩
  rw [clauses_collect]
  exact hcs.listsOnlyEmpty_eq_false

/-- Some text is parsed to the selector exactly when its own text is, which is exactly
when it arrives unchanged where it travels, and exactly when it is flat, without a flaw
and without a list of only the empty value. So the text of a selector that was parsed
is parsed to the same selector. -/
theorem parsed_tfae (s : Selector) :
    List.TFAE [∃ text, parse text = .ok s, parse s.render = .ok s,
        (Wire.encode s).decode = .ok s, s.Canonical] ∧
      ∀ text, parse text = .ok s → parse s.render = .ok s := by
  have hround {text : String} (h : parse text = .ok s) : parse s.render = .ok s :=
    (canonical_of_parse h).parse_render
  refine ⟨?_, fun _ => hround⟩
  tfae_have 1 → 2 := fun ⟨_, h⟩ => hround h
  tfae_have 2 ↔ 3 := Wire.decode_encode_eq_ok_iff.symm
  tfae_have 2 → 4 := canonical_of_parse
  tfae_have 4 → 2 := Canonical.parse_render
  tfae_have 2 → 1 := fun h => ⟨_, h⟩
  tfae_finish

theorem parse_render_among_empties :
    Canonical (.all [.clause ⟨"k", .among ["", ""]⟩, .clause ⟨"a/k", .outside []⟩]) ∧
      parse "k in (, ), a/k notin ()" =
        .ok (.all [.clause ⟨"k", .among ["", ""]⟩, .clause ⟨"a/k", .outside []⟩]) := by
  have hcanonical :
      Canonical (.all [.clause ⟨"k", .among ["", ""]⟩, .clause ⟨"a/k", .outside []⟩]) :=
    ⟨by decide,
      Or.inr ⟨[⟨"k", .among ["", ""]⟩, ⟨"a/k", .outside []⟩], by simp, rfl⟩,
      by decide⟩
  have hround := (parsed_tfae
    (.all [.clause ⟨"k", .among ["", ""]⟩, .clause ⟨"a/k", .outside []⟩])).1.out 1 3
  exact ⟨hcanonical, hround.mpr hcanonical⟩

/-! ### Nested selectors -/

/-- The text of a nested selector is parsed to the flat collection of its clauses, which
selects the same labels. -/
theorem parse_render_nested {s : Selector} (hflaw : s.flaw? = none) (hjoins : s.NoEmptyJoin)
    (hlists : ∀ c ∈ s.clauses, c.condition.listsOnlyEmpty = false) :
    parse s.render = .ok (.collect (s.clauses.map .clause)) ∧
      ((∃ c, s.clauses = [c] ∧ collect (s.clauses.map .clause) = .clause c) ∨
        (2 ≤ s.clauses.length ∧
          collect (s.clauses.map .clause) = .all (s.clauses.map .clause))) ∧
      ∀ {μ : Type} [LabelMap μ] (labels : μ),
        (collect (s.clauses.map .clause)).selects labels = s.selects labels := by
  refine ⟨parse_render_of_listsOnlyEmpty_eq_false hflaw hjoins hlists, ?_, ?_⟩
  · have hne := hjoins.clauses_ne_nil
    match hcs : s.clauses with
    | [] => exact absurd hcs hne
    | [c] => exact Or.inl ⟨c, rfl, rfl⟩
    | first :: second :: rest => exact Or.inr ⟨by simp, collect_clauses (by simp)⟩
  · intro μ _ labels
    rw [selects_eq_all_clauses, selects_eq_all_clauses, clauses_collect]

theorem parse_render_nested_twice :
    flaw? (.all [.all [.clause ⟨"a", .present⟩], .clause ⟨"b", .among ["x", ""]⟩]) = none ∧
      NoEmptyJoin (.all [.all [.clause ⟨"a", .present⟩], .clause ⟨"b", .among ["x", ""]⟩]) ∧
      parse "a, b in (x, )" =
        .ok (.all [.clause ⟨"a", .present⟩, .clause ⟨"b", .among ["x", ""]⟩]) := by
  have hflaw :
      flaw? (.all [.all [.clause ⟨"a", .present⟩], .clause ⟨"b", .among ["x", ""]⟩]) = none := by
    decide
  have hjoins :
      NoEmptyJoin (.all [.all [.clause ⟨"a", .present⟩], .clause ⟨"b", .among ["x", ""]⟩]) := by
    refine .all (by simp) ?_
    intro s hs
    simp only [List.mem_cons, List.not_mem_nil, or_false] at hs
    rcases hs with rfl | rfl
    · have hne : [(⟨"a", .present⟩ : Clause)] ≠ [] := by simp
      exact noEmptyJoin_all_clauses hne
    · exact .clause _
  exact ⟨hflaw, hjoins, (parse_render_nested hflaw hjoins (by decide)).1⟩

/-! ### What a list of only the empty value costs -/

/-- Tried on labels, the clauses and their rereadings come to the same unless all other
clauses hold and, of those that are reread differently, some fails although none asks
for a label or all hold although one does. -/
theorem all_holds_eq_reread_iff (cs : List Clause) (lookup : String → Option String) :
    cs.all (·.holds lookup) = (cs.map Clause.reread).all (·.holds lookup) ↔
      ((∀ c ∈ cs, c.condition.listsOnlyEmpty = false → c.holds lookup = true) →
        ((∀ c ∈ cs, c.condition.listsOnlyEmpty = true → c.holds lookup = true) ↔
          ∀ c ∈ cs, c.condition ≠ .among [""])) := by
  have hsplit (P : Clause → Prop) : (∀ c ∈ cs, P c) ↔
      (∀ c ∈ cs, c.condition.listsOnlyEmpty = false → P c) ∧
        ∀ c ∈ cs, c.condition.listsOnlyEmpty = true → P c := by
    constructor
    · intro h
      exact ⟨fun c hc _ => h c hc, fun c hc _ => h c hc⟩
    · rintro ⟨hfalse, htrue⟩ c hc
      cases hlists : c.condition.listsOnlyEmpty with
      | false => exact hfalse c hc hlists
      | true => exact htrue c hc hlists
  have hsame : (∀ c ∈ cs, c.condition.listsOnlyEmpty = false → c.reread.holds lookup = true) ↔
      ∀ c ∈ cs, c.condition.listsOnlyEmpty = false → c.holds lookup = true := by
    refine forall₂_congr fun c _ => forall_congr' fun hlists => ?_
    rw [Clause.reread_eq_self_iff.mpr hlists]
  have hchanged : (∀ c ∈ cs, c.condition.listsOnlyEmpty = true → c.reread.holds lookup = true) ↔
      ∀ c ∈ cs, c.condition ≠ .among [""] := by
    refine forall₂_congr fun c _ => ?_
    constructor
    · intro h hamong
      have hlists := Condition.listsOnlyEmpty_iff.mpr (Or.inl hamong)
      exact (Condition.holds_reread_of_listsOnlyEmpty hlists _).mp (h hlists) hamong
    · intro h hlists
      exact (Condition.holds_reread_of_listsOnlyEmpty hlists _).mpr h
  rw [Bool.eq_iff_iff, List.all_eq_true, List.all_eq_true, List.forall_mem_map,
    hsplit (fun c => c.reread.holds lookup = true), hsplit (fun c => c.holds lookup = true),
    hsame, hchanged, and_congr_right_iff]

/-- A clause whose list is only the empty value is told from its rereading by a label
that is empty. -/
theorem holds_ne_reread_of_listsOnlyEmpty {c : Clause}
    (h : c.condition.listsOnlyEmpty = true) :
    c.holds (fun _ => some "") ≠ c.reread.holds (fun _ => some "") := by
  obtain ⟨key, condition⟩ := c
  rcases Condition.listsOnlyEmpty_iff.mp h with rfl | rfl <;>
    simp [Clause.holds, Clause.reread, Condition.reread, Condition.holds]

/-- The text of a selector without a flaw is parsed and travels, and the selector that
arrives selects the same labels, whatever they are, unless a list of the first holds
only the empty value. A single clause with such a list never survives the trip; for a
join the last part says on which labels the two selectors come to the same. A flat
selector with at least one clause has no empty join. -/
theorem parse_render_selects_iff {s : Selector} (hflaw : s.flaw? = none)
    (hjoins : s.NoEmptyJoin) :
    ∃ arrived, parse s.render = .ok arrived ∧ (Wire.encode s).decode = .ok arrived ∧
      ((∀ c ∈ s.clauses, c.condition.listsOnlyEmpty = false) →
        ∀ {μ : Type} [LabelMap μ] (labels : μ), arrived.selects labels = s.selects labels) ∧
      (∀ c, s.clauses = [c] →
        ((∀ {μ : Type} [LabelMap μ] (labels : μ), arrived.selects labels = s.selects labels) ↔
          c.condition.listsOnlyEmpty = false)) ∧
      ∀ {μ : Type} [LabelMap μ] (labels : μ),
        (arrived.selects labels = s.selects labels ↔
          ((∀ c ∈ s.clauses, c.condition.listsOnlyEmpty = false →
              c.holds (label? labels) = true) →
            ((∀ c ∈ s.clauses, c.condition.listsOnlyEmpty = true →
                c.holds (label? labels) = true) ↔
              ∀ c ∈ s.clauses, c.condition ≠ .among [""]))) := by
  have hparse := parse_render hflaw hjoins
  have hiff {μ : Type} [LabelMap μ] (labels : μ) :
      (collect ((s.clauses.map Clause.reread).map .clause)).selects labels = s.selects labels ↔
        s.clauses.all (·.holds (label? labels)) =
          (s.clauses.map Clause.reread).all (·.holds (label? labels)) := by
    rw [selects_eq_all_clauses, selects_eq_all_clauses, clauses_collect]
    exact eq_comm
  have hsame (hlists : ∀ c ∈ s.clauses, c.condition.listsOnlyEmpty = false) {μ : Type}
      [LabelMap μ] (labels : μ) :
      (collect ((s.clauses.map Clause.reread).map .clause)).selects labels = s.selects labels := by
    rw [hiff labels, Clause.map_reread_eq_self hlists]
  refine ⟨_, hparse, Wire.decode_encode_eq_ok_iff.mpr hparse, hsame, ?_, ?_⟩
  · intro c hc
    constructor
    · intro h
      -- An empty label under every key tells the two apart.
      rw [Bool.eq_false_iff]
      intro hlists
      have hempty := (hiff fun (_ : String) => some "").mp (h _)
      simp only [hc, List.map_cons, List.map_nil, List.all_cons, List.all_nil,
        Bool.and_true] at hempty
      exact holds_ne_reread_of_listsOnlyEmpty hlists hempty
    · intro hlists
      exact hsame (by simpa [hc] using hlists)
  · intro μ _ labels
    rw [hiff labels]
    exact all_holds_eq_reread_iff _ _

theorem parse_render_selects_iff_outside :
    flaw? (.all [.clause ⟨"k", .outside [""]⟩]) = none ∧
      NoEmptyJoin (.all [.clause ⟨"k", .outside [""]⟩]) ∧
      ∃ arrived, parse "k notin ()" = .ok arrived ∧
        (Wire.text "k notin ()").decode = .ok arrived := by
  have hflaw : flaw? (.all [.clause ⟨"k", .outside [""]⟩]) = none := by decide
  have hne : [(⟨"k", .outside [""]⟩ : Clause)] ≠ [] := by simp
  have hjoins : NoEmptyJoin (.all [.clause ⟨"k", .outside [""]⟩]) := noEmptyJoin_all_clauses hne
  obtain ⟨arrived, hparse, hdecode, -⟩ := parse_render_selects_iff hflaw hjoins
  exact ⟨hflaw, hjoins, arrived, hparse, hdecode⟩

/-- A clause that asks for the empty label arrives as one that no label meets. -/
theorem selects_changed_by_round_trip :
    flaw? (.clause ⟨"k", .among [""]⟩) = none ∧
      parse (render (.clause ⟨"k", .among [""]⟩)) = .ok (.clause ⟨"k", .among []⟩) ∧
      holds (fun _ => some "") (.clause ⟨"k", .among [""]⟩) = true ∧
      holds (fun _ => some "") (.clause ⟨"k", .among []⟩) = false := by
  have hflaw : flaw? (.clause ⟨"k", .among [""]⟩) = none := by decide
  exact ⟨hflaw, parse_render hflaw (.clause _), rfl, rfl⟩

end Selector

end LabelQuery
