/-
The grammar of selector texts.

`Spells text s` says that a text derives a selector, and mentions no reader: blanks
may stand around every clause and every comma, a last comma may be left hanging, and
each clause is one of six phrases over keys and values that follow the naming rules.

  text    := blanks clause (blanks `,` blanks clause)* (blanks `,`)? blanks
  clause  := key | `!` blanks key
           | key blanks (`=` | `==`) blanks value | key blanks `!=` blanks value
           | key blank+ `in` blanks list | key blank+ `notin` blanks list
  list    := `(` blanks `)` | `(` item (`,` item)* `)`
  item    := blanks value blanks

A value may be empty, so a list whose one item is the empty value would be spelled
like the list without values; the second form of a list leaves it out.
-/

import LabelQuery.Proofs.NameCharacters
import LabelQuery.Proofs.SelectorClauses

namespace LabelQuery.Source

open LabelQuery.Naming

/-- The items of a list, between commas. -/
inductive ItemsText : List Char → List String → Prop where
  | last {before after : List Char} {value : String} (hbefore : Blanks before)
      (hvalue : valueFlaw? value = none) (hafter : Blanks after) :
      ItemsText (before ++ (value.toList ++ after)) [value]
  | cons {before after rest : List Char} {value : String} {values : List String}
      (hbefore : Blanks before) (hvalue : valueFlaw? value = none) (hafter : Blanks after)
      (hrest : ItemsText rest values) :
      ItemsText (before ++ (value.toList ++ (after ++ ',' :: rest))) (value :: values)

/-- A list of values between its parentheses. -/
inductive ListText : List Char → List String → Prop where
  | empty {inner : List Char} (hinner : Blanks inner) : ListText ('(' :: (inner ++ [')'])) []
  | items {items : List Char} {values : List String} (hitems : ItemsText items values)
      (hvalues : values ≠ [""]) : ListText ('(' :: (items ++ [')'])) values

/-- A clause. The sign of an equation may be doubled. -/
inductive ClauseText : List Char → Clause → Prop where
  | present {key : String} (hkey : keyFlaw? key = none) :
      ClauseText key.toList ⟨key, .present⟩
  | absent {gap : List Char} {key : String} (hgap : Blanks gap) (hkey : keyFlaw? key = none) :
      ClauseText ('!' :: (gap ++ key.toList)) ⟨key, .absent⟩
  | equal {before sign after : List Char} {key value : String} (hkey : keyFlaw? key = none)
      (hbefore : Blanks before) (hsign : sign = ['='] ∨ sign = ['=', '=']) (hafter : Blanks after)
      (hvalue : valueFlaw? value = none) :
      ClauseText (key.toList ++ (before ++ (sign ++ (after ++ value.toList))))
        ⟨key, .equal value⟩
  | unequal {before after : List Char} {key value : String} (hkey : keyFlaw? key = none)
      (hbefore : Blanks before) (hafter : Blanks after) (hvalue : valueFlaw? value = none) :
      ClauseText (key.toList ++ (before ++ (['!', '='] ++ (after ++ value.toList))))
        ⟨key, .unequal value⟩
  | among {before after list : List Char} {key : String} {values : List String}
      (hkey : keyFlaw? key = none) (hbefore : Blanks before) (hne : before ≠ [])
      (hafter : Blanks after) (hlist : ListText list values) :
      ClauseText (key.toList ++ (before ++ (['i', 'n'] ++ (after ++ list))))
        ⟨key, .among values⟩
  | outside {before after list : List Char} {key : String} {values : List String}
      (hkey : keyFlaw? key = none) (hbefore : Blanks before) (hne : before ≠ [])
      (hafter : Blanks after) (hlist : ListText list values) :
      ClauseText (key.toList ++ (before ++ (['n', 'o', 't', 'i', 'n'] ++ (after ++ list))))
        ⟨key, .outside values⟩

/-- The clauses after the first, each behind a comma. -/
inductive MoreText : List Char → List Clause → Prop where
  | nil : MoreText [] []
  | cons {before after clause rest : List Char} {c : Clause} {cs : List Clause}
      (hbefore : Blanks before) (hafter : Blanks after) (hclause : ClauseText clause c)
      (hrest : MoreText rest cs) :
      MoreText (before ++ ',' :: (after ++ (clause ++ rest))) (c :: cs)

/-- Nothing, or a comma that no clause follows. -/
inductive HangingComma : List Char → Prop where
  | nothing : HangingComma []
  | comma {before : List Char} (hbefore : Blanks before) : HangingComma (before ++ [','])

/-- A text as a list of clauses, of which there is at least one. -/
inductive ClausesText : List Char → List Clause → Prop where
  | text {before first more comma after : List Char} {c : Clause} {cs : List Clause}
      (hbefore : Blanks before) (hfirst : ClauseText first c) (hmore : MoreText more cs)
      (hcomma : HangingComma comma) (hafter : Blanks after) :
      ClausesText (before ++ (first ++ (more ++ (comma ++ after)))) (c :: cs)

/-- The text derives the selector: its only clause, or else the join of its clauses. -/
inductive Spells : List Char → Selector → Prop where
  | single {text : List Char} {c : Clause} (h : ClausesText text [c]) : Spells text (.clause c)
  | several {text : List Char} {cs : List Clause} (h : ClausesText text cs)
      (hcs : 2 ≤ cs.length) : Spells text (.all (cs.map .clause))

theorem spells_iff {text : List Char} {s : Selector} :
    Spells text s ↔ ∃ cs, ClausesText text cs ∧ s = .collect (cs.map .clause) := by
  constructor
  · intro h
    cases h with
    | single h => exact ⟨_, h, rfl⟩
    | several h hcs => exact ⟨_, h, (Selector.collect_clauses hcs).symm⟩
  · rintro ⟨cs, h, rfl⟩
    match cs, h with
    | [c], h => exact .single h
    | first :: second :: rest, h =>
      rw [Selector.collect_clauses (by simp)]
      exact .several h (by simp)

/-! ### Longer texts -/

/-- Blanks before the items change nothing. -/
theorem ItemsText.blanks_append {run text : List Char} {values : List String}
    (h : ItemsText text values) (hrun : Blanks run) : ItemsText (run ++ text) values := by
  cases h with
  | last hbefore hvalue hafter =>
    rw [← List.append_assoc]
    exact .last (hrun.append hbefore) hvalue hafter
  | cons hbefore hvalue hafter hrest =>
    rw [← List.append_assoc]
    exact .cons (hrun.append hbefore) hvalue hafter hrest

/-- Blanks before a text change nothing. -/
theorem ClausesText.blanks_append {run text : List Char} {cs : List Clause}
    (h : ClausesText text cs) (hrun : Blanks run) : ClausesText (run ++ text) cs := by
  cases h with
  | text hbefore hfirst hmore hcomma hafter =>
    rw [← List.append_assoc]
    exact .text (hrun.append hbefore) hfirst hmore hcomma hafter

/-- A clause and a comma before a text add the clause. -/
theorem ClausesText.cons {before clause gap rest : List Char} {c : Clause} {cs : List Clause}
    (hbefore : Blanks before) (hclause : ClauseText clause c) (hgap : Blanks gap)
    (hrest : ClausesText rest cs) :
    ClausesText (before ++ (clause ++ (gap ++ ',' :: rest))) (c :: cs) := by
  cases hrest with
  | text hbefore' hfirst hmore hcomma hafter =>
    have hall := ClausesText.text hbefore hclause (.cons hgap hbefore' hfirst hmore) hcomma hafter
    simpa only [List.append_assoc, List.cons_append] using hall

/-! ### What the phrases spell is without a flaw -/

theorem ItemsText.valueFlaw?_eq_none {text : List Char} {values : List String}
    (h : ItemsText text values) : ∀ value ∈ values, valueFlaw? value = none := by
  induction h with
  | last _ hvalue _ => simpa using hvalue
  | cons _ hvalue _ _ ih => simpa using ⟨hvalue, ih⟩

theorem ListText.valueFlaw?_eq_none {text : List Char} {values : List String}
    (h : ListText text values) : ∀ value ∈ values, valueFlaw? value = none := by
  cases h with
  | empty => simp
  | items hitems => exact hitems.valueFlaw?_eq_none

theorem clauseFlaw?_eq_none_iff {c : Clause} :
    c.flaw? = none ↔
      keyFlaw? c.key = none ∧ ∀ value ∈ c.condition.values, valueFlaw? value = none := by
  rw [Clause.flaw?, Option.or_eq_none_iff, List.findSome?_eq_none_iff]

theorem ClauseText.flaw?_eq_none {text : List Char} {c : Clause} (h : ClauseText text c) :
    c.flaw? = none := by
  refine clauseFlaw?_eq_none_iff.mpr ?_
  cases h with
  | present hkey => exact ⟨hkey, by simp [Condition.values]⟩
  | absent _ hkey => exact ⟨hkey, by simp [Condition.values]⟩
  | equal hkey _ _ _ hvalue => exact ⟨hkey, by simpa [Condition.values] using hvalue⟩
  | unequal hkey _ _ hvalue => exact ⟨hkey, by simpa [Condition.values] using hvalue⟩
  | among hkey _ _ _ hlist => exact ⟨hkey, hlist.valueFlaw?_eq_none⟩
  | outside hkey _ _ _ hlist => exact ⟨hkey, hlist.valueFlaw?_eq_none⟩

theorem MoreText.flaw?_eq_none {text : List Char} {cs : List Clause} (h : MoreText text cs) :
    ∀ c ∈ cs, c.flaw? = none := by
  induction h with
  | nil => simp
  | cons _ _ hclause _ ih => simpa using ⟨hclause.flaw?_eq_none, ih⟩

theorem ClausesText.flaw?_eq_none {text : List Char} {cs : List Clause}
    (h : ClausesText text cs) : ∀ c ∈ cs, c.flaw? = none := by
  cases h with
  | text _ hfirst hmore => simpa using ⟨hfirst.flaw?_eq_none, hmore.flaw?_eq_none⟩

/-! ### What the phrases never spell -/

theorem ListText.ne_lone_empty {text : List Char} {values : List String}
    (h : ListText text values) : values ≠ [""] := by
  cases h with
  | empty => simp
  | items _ hvalues => exact hvalues

theorem ClausesText.ne_nil {text : List Char} {cs : List Clause} (h : ClausesText text cs) :
    cs ≠ [] := by
  cases h
  simp

end LabelQuery.Source
