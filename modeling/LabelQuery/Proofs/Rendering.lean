/-
What is rendered is spelled.

The text of a clause without a flaw is a phrase of the grammar, with one reservation:
a list that holds the empty value and nothing else is written like the list without
values, and is the phrase of that list. `Clause.reread` names the clause that a
clause's text is the phrase of; it differs from the clause in that case only
(`Clause.reread_eq_self_iff`), and `Condition.holds_reread_of_listsOnlyEmpty` says what
such a list comes back as.
-/

import LabelQuery.Proofs.Grammar

namespace LabelQuery

/-! ### Lists of only the empty value -/

namespace Condition

/-- The list of the condition holds the empty value and nothing else. -/
def listsOnlyEmpty : Condition → Bool
  | .among values | .outside values => values = [""]
  | _ => false

/-- The condition that the text of a condition stands for. -/
def reread : Condition → Condition
  | .among values => .among (if values = [""] then [] else values)
  | .outside values => .outside (if values = [""] then [] else values)
  | condition => condition

theorem listsOnlyEmpty_iff {condition : Condition} :
    condition.listsOnlyEmpty = true ↔ condition = .among [""] ∨ condition = .outside [""] := by
  cases condition <;> simp [listsOnlyEmpty]

theorem reread_eq_self_iff {condition : Condition} :
    condition.reread = condition ↔ condition.listsOnlyEmpty = false := by
  cases condition with
  | among values => by_cases h : values = [""] <;> simp [reread, listsOnlyEmpty, h]
  | outside values => by_cases h : values = [""] <;> simp [reread, listsOnlyEmpty, h]
  | _ => simp [reread, listsOnlyEmpty]

@[simp] theorem listsOnlyEmpty_reread (condition : Condition) :
    condition.reread.listsOnlyEmpty = false := by
  cases condition with
  | among values => by_cases h : values = [""] <;> simp [reread, listsOnlyEmpty, h]
  | outside values => by_cases h : values = [""] <;> simp [reread, listsOnlyEmpty, h]
  | _ => rfl

/-- Rereading mentions no new value. -/
theorem mem_values_of_reread {condition : Condition} {value : String}
    (h : value ∈ condition.reread.values) : value ∈ condition.values := by
  cases condition with
  | among values =>
    by_cases hlone : values = [""]
    · simp [reread, Condition.values, hlone] at h
    · simpa [reread, hlone] using h
  | outside values =>
    by_cases hlone : values = [""]
    · simp [reread, Condition.values, hlone] at h
    · simpa [reread, hlone] using h
  | _ => exact h

/-- Where a condition lists only the empty value, its rereading admits no label or
rules none out. -/
theorem holds_reread_of_listsOnlyEmpty {condition : Condition}
    (h : condition.listsOnlyEmpty = true) (label : Option String) :
    condition.reread.holds label = true ↔ condition ≠ .among [""] := by
  rcases listsOnlyEmpty_iff.mp h with rfl | rfl <;> cases label <;> simp [reread, holds]

end Condition

namespace Clause

/-- The clause that the text of a clause stands for. -/
def reread (c : Clause) : Clause :=
  ⟨c.key, c.condition.reread⟩

theorem reread_eq_self_iff {c : Clause} :
    c.reread = c ↔ c.condition.listsOnlyEmpty = false := by
  rw [← Condition.reread_eq_self_iff]
  obtain ⟨key, condition⟩ := c
  simp [reread]

theorem map_reread_eq_self {cs : List Clause}
    (h : ∀ c ∈ cs, c.condition.listsOnlyEmpty = false) : cs.map reread = cs := by
  rw [List.map_congr_left fun c hc => reread_eq_self_iff.mpr (h c hc)]
  exact List.map_id' cs

/-- A clause and its rereading have the same text. -/
theorem render_reread (c : Clause) : c.reread.render = c.render := by
  obtain ⟨key, condition⟩ := c
  cases condition with
  | among values =>
    by_cases h : values = [""] <;> simp [reread, Condition.reread, render, renderList, h]
  | outside values =>
    by_cases h : values = [""] <;> simp [reread, Condition.reread, render, renderList, h]
  | _ => rfl

theorem flaw?_reread {c : Clause} (h : c.flaw? = none) : c.reread.flaw? = none := by
  obtain ⟨hkey, hvalues⟩ := Source.clauseFlaw?_eq_none_iff.mp h
  exact Source.clauseFlaw?_eq_none_iff.mpr
    ⟨hkey, fun value hvalue => hvalues value (Condition.mem_values_of_reread hvalue)⟩

end Clause

namespace Source

open Naming

/-! ### Texts of clauses -/

/-- Values between commas are items. -/
theorem itemsText_intercalate {values : List String} (hne : values ≠ [])
    (hvalues : ∀ value ∈ values, valueFlaw? value = none) :
    ItemsText (", ".intercalate values).toList values := by
  induction values with
  | nil => exact absurd rfl hne
  | cons value rest ih =>
    have hvalue := hvalues value (by simp)
    cases rest with
    | nil =>
      have hlast := ItemsText.last Blanks.nil hvalue Blanks.nil
      simpa using hlast
    | cons next rest =>
      have hrest := ih (by simp) fun v hv => hvalues v (List.mem_cons_of_mem _ hv)
      have hspace : Blanks [' '] := by decide
      have hcons := ItemsText.cons Blanks.nil hvalue Blanks.nil (hrest.blanks_append hspace)
      rw [String.intercalate_cons_cons, String.toList_append, String.toList_append]
      rw [List.append_assoc]
      exact hcons

/-- Values between parentheses are a list. -/
theorem listText_renderList {values : List String} (hne : values ≠ [""])
    (hvalues : ∀ value ∈ values, valueFlaw? value = none) :
    ListText (Clause.renderList values).toList values := by
  by_cases hempty : values = []
  · subst hempty
    exact .empty Blanks.nil
  · have hitems := ListText.items (itemsText_intercalate hempty hvalues) hne
    rw [Clause.renderList, String.toList_append, String.toList_append]
    exact hitems

/-- The text of a clause is a phrase for it, unless its list is only the empty value. -/
theorem clauseText_render {c : Clause} (hflaw : c.flaw? = none)
    (hlists : c.condition.listsOnlyEmpty = false) : ClauseText c.render.toList c := by
  obtain ⟨hkey, hvalues⟩ := clauseFlaw?_eq_none_iff.mp hflaw
  have hspace : Blanks [' '] := by decide
  obtain ⟨key, condition⟩ := c
  cases condition with
  | present => exact .present hkey
  | absent =>
    have habsent := ClauseText.absent Blanks.nil hkey
    simp only [Clause.render, String.toList_append]
    exact habsent
  | equal value =>
    have hequal := ClauseText.equal hkey Blanks.nil (Or.inl rfl) Blanks.nil
      (hvalues value (by simp [Condition.values]))
    simp only [Clause.render, String.toList_append, List.append_assoc]
    exact hequal
  | unequal value =>
    have hunequal := ClauseText.unequal hkey Blanks.nil Blanks.nil
      (hvalues value (by simp [Condition.values]))
    simp only [Clause.render, String.toList_append, List.append_assoc]
    exact hunequal
  | among values =>
    have hne : values ≠ [""] := by simpa [Condition.listsOnlyEmpty] using hlists
    have hamong := ClauseText.among hkey hspace (by simp) hspace (listText_renderList hne hvalues)
    simp only [Clause.render, String.toList_append, List.append_assoc]
    exact hamong
  | outside values =>
    have hne : values ≠ [""] := by simpa [Condition.listsOnlyEmpty] using hlists
    have houtside :=
      ClauseText.outside hkey hspace (by simp) hspace (listText_renderList hne hvalues)
    simp only [Clause.render, String.toList_append, List.append_assoc]
    exact houtside

/-- The texts of clauses between commas are a text of their rereadings. -/
theorem clausesText_render {cs : List Clause} (hne : cs ≠ [])
    (hflaws : ∀ c ∈ cs, c.flaw? = none) :
    ClausesText (", ".intercalate (cs.map Clause.render)).toList (cs.map Clause.reread) := by
  induction cs with
  | nil => exact absurd rfl hne
  | cons c rest ih =>
    have hclause : ClauseText c.render.toList c.reread := by
      rw [← c.render_reread]
      exact clauseText_render (Clause.flaw?_reread (hflaws c (by simp)))
        c.condition.listsOnlyEmpty_reread
    cases rest with
    | nil =>
      have hsingle := ClausesText.text Blanks.nil hclause .nil .nothing Blanks.nil
      simpa using hsingle
    | cons next rest =>
      have hrest := ih (by simp) fun d hd => hflaws d (List.mem_cons_of_mem _ hd)
      have hspace : Blanks [' '] := by decide
      have hcons :=
        ClausesText.cons Blanks.nil hclause Blanks.nil (hrest.blanks_append hspace)
      rw [List.map_cons, List.map_cons, String.intercalate_cons_cons, String.toList_append,
        String.toList_append]
      rw [List.append_assoc]
      exact hcons

/-! ### Lists in phrases -/

/-- No phrase spells a list of only the empty value. -/
theorem ClauseText.listsOnlyEmpty_eq_false {text : List Char} {c : Clause}
    (h : ClauseText text c) : c.condition.listsOnlyEmpty = false := by
  cases h with
  | among _ _ _ _ hlist => simpa [Condition.listsOnlyEmpty] using hlist.ne_lone_empty
  | outside _ _ _ _ hlist => simpa [Condition.listsOnlyEmpty] using hlist.ne_lone_empty
  | _ => rfl

theorem MoreText.listsOnlyEmpty_eq_false {text : List Char} {cs : List Clause}
    (h : MoreText text cs) : ∀ c ∈ cs, c.condition.listsOnlyEmpty = false := by
  induction h with
  | nil => simp
  | cons _ _ hclause _ ih => simpa using ⟨hclause.listsOnlyEmpty_eq_false, ih⟩

theorem ClausesText.listsOnlyEmpty_eq_false {text : List Char} {cs : List Clause}
    (h : ClausesText text cs) : ∀ c ∈ cs, c.condition.listsOnlyEmpty = false := by
  cases h with
  | text _ hfirst hmore =>
    simpa using ⟨hfirst.listsOnlyEmpty_eq_false, hmore.listsOnlyEmpty_eq_false⟩

end Source

end LabelQuery
