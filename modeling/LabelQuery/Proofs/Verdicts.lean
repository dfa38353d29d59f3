/-
Which verdict a text gets.

Of several things that are wrong with a text one is reported: that it is blank, else
where its form is at fault, else the first flaw of a name, in the order in which the
names stand in the text (`parse_verdict`). `Selector.names` lists the names of a
selector, and `InOrder` says that pieces stand in a text one behind the other; the names
of a selector do so in every text of its form, so a name that is blamed is a piece of
the text.
-/

import LabelQuery.Proofs.Faults

namespace LabelQuery

/-! ### Names -/

/-- A name that a clause mentions, with the part that it plays. -/
inductive Name where
  | key (text : String)
  | value (text : String)
deriving DecidableEq, Repr

namespace Name

/-- The name itself. -/
def text : Name → String
  | .key text | .value text => text

/-- The first flaw of a name in its part. -/
def flaw? : Name → Option Rejection
  | .key text => Naming.keyFlaw? text
  | .value text => Naming.valueFlaw? text

/-- Where a name breaks the rules, it is that name that is reported. -/
theorem text_eq_of_flaw? {n : Name} {name : String} {flaw : NameFlaw}
    (h : n.flaw? = some (.naming name flaw)) : name = n.text := by
  cases n with
  | key text =>
    rcases Naming.keyFlaw?_eq_some h with ⟨found, heq⟩ | ⟨position, heq⟩
    · cases heq
      rfl
    · exact absurd heq.symm (Cause.rejection_ne_naming _ _ _ _)
  | value text =>
    obtain ⟨found, heq⟩ := Naming.valueFlaw?_eq_some h
    cases heq
    rfl

end Name

/-- The names of a clause: its key, and then its values in order. -/
def Clause.names (c : Clause) : List Name :=
  .key c.key :: c.condition.values.map .value

theorem Clause.flaw?_eq_findSome?_names (c : Clause) :
    c.flaw? = c.names.findSome? Name.flaw? := by
  unfold Clause.flaw? Clause.names
  rw [List.findSome?_cons, List.findSome?_map]
  cases h : Naming.keyFlaw? c.key with
  | none => simp [Name.flaw?, h, Function.comp_def]
  | some rejection => simp [Name.flaw?, h]

theorem Clause.text_names (c : Clause) :
    c.names.map Name.text = c.key :: c.condition.values := by
  simp [Clause.names, Name.text, Function.comp_def]

namespace Selector

/-- The names of a selector, clause by clause. -/
def names (s : Selector) : List Name :=
  s.clauses.flatMap Clause.names

/-- The first flaw of a selector is that of the first of its names that has one. -/
theorem flaw?_eq_findSome?_names (s : Selector) :
    s.flaw? = s.names.findSome? Name.flaw? := by
  rw [flaw?_eq_findSome?_clauses, names]
  induction s.clauses with
  | nil => rfl
  | cons c rest ih =>
    rw [List.flatMap_cons, List.findSome?_append, List.findSome?_cons, ← ih,
      c.flaw?_eq_findSome?_names]
    cases c.names.findSome? Name.flaw? <;> rfl

end Selector

namespace Source

/-! ### Pieces of a text -/

/-- The pieces stand in the text one behind the other, in this order. -/
inductive InOrder : List String → List Char → Prop where
  | nil {text : List Char} : InOrder [] text
  | cons {gap rest : List Char} {piece : String} {pieces : List String}
      (h : InOrder pieces rest) : InOrder (piece :: pieces) (gap ++ (piece.toList ++ rest))

theorem InOrder.prepend {pieces : List String} {text : List Char} (h : InOrder pieces text)
    (before : List Char) : InOrder pieces (before ++ text) := by
  cases h with
  | nil => exact .nil
  | cons h =>
    rw [← List.append_assoc]
    exact .cons h

/-- Each of the pieces is a piece of the text. -/
theorem InOrder.isInfix {pieces : List String} {text : List Char} (h : InOrder pieces text)
    {piece : String} (hpiece : piece ∈ pieces) : piece.toList <:+: text := by
  induction h with
  | nil => simp at hpiece
  | @cons gap rest first pieces _ ih =>
    rcases List.mem_cons.mp hpiece with rfl | hpiece
    · exact ⟨gap, rest, by simp⟩
    · exact (ih hpiece).trans ((List.suffix_append _ _).trans (List.suffix_append _ _)).isInfix

/-- A word that was taken stands in front of the pieces of what remains. -/
theorem InOrder.takeWord {text : List Char} {pieces : List String}
    (h : InOrder pieces (takeWord text).2) :
    InOrder (String.ofList (takeWord text).1 :: pieces) text := by
  obtain ⟨gap, -, htext⟩ := exists_blanks_append_takeWord text
  have hcons : InOrder (String.ofList (Source.takeWord text).1 :: pieces)
      (gap ++ ((String.ofList (Source.takeWord text).1).toList ++ (Source.takeWord text).2)) :=
    .cons h
  rwa [String.toList_ofList, ← htext] at hcons

theorem InOrder.of_suffix {pieces : List String} {text rest : List Char}
    (h : InOrder pieces rest) (hrest : rest <:+ text) : InOrder pieces text := by
  obtain ⟨before, rfl⟩ := hrest
  exact h.prepend before

/-! ### The names of what was read

Each statement takes the pieces of the text that remains behind what was read. -/

theorem inOrder_of_scanItems {first : Bool} {text rest : List Char} {values : List String}
    (h : scanItems first text = .found values rest) {pieces : List String}
    (hpieces : InOrder pieces rest) : InOrder (values ++ pieces) text := by
  fun_induction scanItems first text generalizing values rest with
  | case1 => simp at h
  | case2 first text word after =>
    rename_i rest' hskip
    obtain ⟨rfl, rfl⟩ := Scan.found_inj.mp h
    have hafter : InOrder pieces after := by
      refine (hpieces.prepend [')']).of_suffix ?_
      rw [List.singleton_append, ← hskip]
      exact skipBlanks_suffix after
    split
    · exact hafter.of_suffix (takeWord_suffix text)
    · exact hafter.takeWord
  | case3 first text word after rest' =>
    rename_i hskip ih
    obtain ⟨others, hothers, rfl⟩ := Scan.map_eq_found_iff.mp h
    have hafter : InOrder (others ++ pieces) after := by
      refine ((ih hothers hpieces).prepend [',']).of_suffix ?_
      rw [List.singleton_append, ← hskip]
      exact skipBlanks_suffix after
    exact hafter.takeWord
  | case4 => simp at h

theorem inOrder_of_scanValues {text rest : List Char} {values : List String}
    (h : scanValues text = .found values rest) {pieces : List String}
    (hpieces : InOrder pieces rest) : InOrder (values ++ pieces) text := by
  obtain ⟨inner, hopen, hitems⟩ := scanValues_eq_found h
  refine ((inOrder_of_scanItems hitems hpieces).prepend ['(']).of_suffix ?_
  rw [List.singleton_append, ← hopen]
  exact skipBlanks_suffix text

theorem inOrder_of_scanValue {text rest : List Char} {value : String}
    (h : scanValue text = .found value rest) {pieces : List String}
    (hpieces : InOrder pieces rest) : InOrder (value :: pieces) text := by
  obtain ⟨rfl, rfl⟩ := scanValue_eq_found h
  exact (hpieces.of_suffix (skipBlanks_suffix _)).takeWord

theorem inOrder_of_scanOperand {operand rest : List Char} {operator : Operator}
    {condition : Condition} (h : scanOperand operand operator = .found condition rest)
    {pieces : List String} (hpieces : InOrder pieces rest) :
    InOrder (condition.values ++ pieces) operand := by
  cases operator with
  | equal =>
    obtain ⟨value, hvalue, rfl⟩ := Scan.map_eq_found_iff.mp h
    exact inOrder_of_scanValue hvalue hpieces
  | doubleEqual =>
    obtain ⟨value, hvalue, rfl⟩ := Scan.map_eq_found_iff.mp h
    exact inOrder_of_scanValue hvalue hpieces
  | unequal =>
    obtain ⟨value, hvalue, rfl⟩ := Scan.map_eq_found_iff.mp h
    exact inOrder_of_scanValue hvalue hpieces
  | within =>
    obtain ⟨values, hvalues, rfl⟩ := Scan.map_eq_found_iff.mp h
    exact inOrder_of_scanValues hvalues hpieces
  | without =>
    obtain ⟨values, hvalues, rfl⟩ := Scan.map_eq_found_iff.mp h
    exact inOrder_of_scanValues hvalues hpieces

theorem inOrder_of_scanClause {text rest : List Char} {c : Clause}
    (h : scanClause text = .found c rest) {pieces : List String}
    (hpieces : InOrder pieces rest) : InOrder (c.names.map Name.text ++ pieces) text := by
  rw [c.text_names]
  rcases scanClause_eq_found h with ⟨after, hbang, rfl, rfl⟩ | ⟨hkey, hcondition⟩
  · refine (hpieces.takeWord.prepend ['!']).of_suffix ?_
    rw [List.singleton_append, ← hbang]
    exact skipBlanks_suffix text
  · rw [hkey, List.cons_append]
    refine InOrder.takeWord ?_
    rcases scanCondition_eq_found hcondition with
      ⟨hpresent, rfl⟩ | ⟨operator, operand, hspelling, hoperand⟩
    · simpa [hpresent, Condition.values] using hpieces
    · refine ((inOrder_of_scanOperand hoperand hpieces).prepend operator.spelling).of_suffix ?_
      rw [← hspelling]
      exact skipBlanks_suffix _

/-- The names of the clauses that were read stand in the text in their order. -/
theorem inOrder_of_readClauses (text : List Char) :
    InOrder (((readClauses text).clauses.map Prod.fst).flatMap
      fun c => c.names.map Name.text) text := by
  fun_induction readClauses text with
  | case1 => exact .nil
  | case2 text clause c hfound fault hafter =>
    have hscan := Scan.eq_found_of_outcome hfound
    simpa using inOrder_of_scanClause hscan .nil
  | case3 text clause c hfound hafter =>
    have hscan := Scan.eq_found_of_outcome hfound
    simpa using inOrder_of_scanClause hscan .nil
  | case4 text clause c hfound next hafter others ih =>
    have hscan := Scan.eq_found_of_outcome hfound
    exact inOrder_of_scanClause hscan (ih.of_suffix (suffix_of_afterComma? hafter))

/-- The names of a selector stand in order in every text of its form. -/
theorem inOrder_of_form {text : List Char} {s : Selector} (h : form text = .ok s) :
    InOrder (s.names.map Name.text) text := by
  obtain ⟨-, -, rfl⟩ := form_eq_ok_iff.mp h
  rw [Selector.names, Selector.clauses_collect, List.map_flatMap]
  exact inOrder_of_readClauses text

end Source

namespace Selector

open Source

/-! ### Verdicts -/

/-- A text of good form is accepted if no name in it has a flaw. -/
theorem parse_eq_ok_of_names {text : String} {s : Selector} (hform : form text.toList = .ok s)
    (hnames : ∀ name ∈ s.names, name.flaw? = none) : parse text = .ok s := by
  refine parse_eq_ok_iff.mpr ⟨hform, ?_⟩
  rw [flaw?_eq_findSome?_names, List.findSome?_eq_none_iff]
  exact hnames

/-- A text of good form is rejected for the first name in it that has a flaw. -/
theorem parse_eq_error_of_names {text : String} {s : Selector} {passed later : List Name}
    {name : Name} {rejection : Rejection} (hform : form text.toList = .ok s)
    (hnames : s.names = passed ++ name :: later) (hpassed : ∀ n ∈ passed, n.flaw? = none)
    (hname : name.flaw? = some rejection) : parse text = .error rejection := by
  refine parse_eq_error_iff.mpr (Or.inr ⟨s, hform, ?_⟩)
  rw [flaw?_eq_findSome?_names, List.findSome?_eq_some_iff]
  exact ⟨passed, name, later, hnames, hname, hpassed⟩

/-- The name that a text is rejected for is a piece of the text. -/
theorem infix_of_parse_eq_error {text name : String} {flaw : NameFlaw}
    (h : parse text = .error (.naming name flaw)) : name.toList <:+: text.toList := by
  obtain ⟨s, hform, hflaw⟩ := (parse_eq_error_name_iff (Or.inl ⟨name, flaw, rfl⟩)).mp h
  rw [flaw?_eq_findSome?_names] at hflaw
  obtain ⟨n, hn, hfound⟩ := List.exists_of_findSome?_eq_some hflaw
  rw [Name.text_eq_of_flaw? hfound]
  exact (inOrder_of_form hform).isInfix (List.mem_map_of_mem hn)

/-- The verdict of a text. It is blank, or its form is at fault and that is reported,
whatever its names are, or it has the form of a selector. The names of that selector
stand in the text in their order, and the verdict is the first flaw of the first name
that has one; a name that is blamed is a piece of the text. -/
theorem parse_verdict (text : String) :
    (parse text = .error .blank ↔ Blanks text.toList) ∧
      (∀ rejection, ¬ Blanks text.toList → form text.toList = .error rejection →
        parse text = .error rejection ∧
          (∃ (cause : Cause) (position : Nat), rejection = cause.rejection position) ∧
          (∀ name flaw, rejection ≠ .naming name flaw) ∧
          ∀ position, rejection ≠ Cause.secondSlash.rejection position) ∧
      ∀ s, form text.toList = .ok s →
        InOrder (s.names.map Name.text) text.toList ∧
          ((∀ name ∈ s.names, name.flaw? = none) → parse text = .ok s) ∧
          (∀ passed name later rejection, s.names = passed ++ name :: later →
            (∀ n ∈ passed, n.flaw? = none) → name.flaw? = some rejection →
              parse text = .error rejection) ∧
          ∀ name flaw, parse text = .error (.naming name flaw) →
            name.toList <:+: text.toList := by
  refine ⟨?_, ?_, ?_⟩
  · rw [parse_eq_error_blank_iff]
    constructor
    · intro hskip
      exact blanks_of_skipBlanks_eq_nil hskip
    · intro hblanks
      exact skipBlanks_eq_nil hblanks
  · intro rejection hblanks hform
    refine ⟨parse_eq_error_iff.mpr (Or.inl hform), ?_⟩
    rcases form_eq_error_iff.mp hform with ⟨hskip, -⟩ | ⟨-, fault, hfault, rfl⟩
    · exact absurd (blanks_of_skipBlanks_eq_nil hskip) hblanks
    · refine ⟨⟨fault.cause, _, rfl⟩, ?_, ?_⟩
      · intro name flaw
        exact Cause.rejection_ne_naming _ _ _ _
      · intro position heq
        exact readClauses_cause_ne hfault (Cause.rejection_eq_iff.mp heq).1
  · intro s hform
    refine ⟨inOrder_of_form hform, parse_eq_ok_of_names hform, ?_, ?_⟩
    · intro passed name later rejection hnames hpassed hname
      exact parse_eq_error_of_names hform hnames hpassed hname
    · intro name flaw hparse
      exact infix_of_parse_eq_error hparse

/-- A fault of form is reported before the name in front of it, and the first bad name
before a second slash. -/
theorem parse_verdict_mixed :
    parse "_bad, x<a" = .error (Cause.unknownOperator.rejection 7) ∧
      parse "ok in (v, _w), a/b/c" = .error (.naming "_w" (.misplaced '_' 0)) ∧
      "_w".toList <:+: "ok in (v, _w), a/b/c".toList := by
  have hblanks : ¬ Blanks "_bad, x<a".toList := by decide
  have hfault : form "_bad, x<a".toList = .error (Cause.unknownOperator.rejection 7) :=
    form_eq_error_iff.mpr
      (Or.inr ⟨by decide, ⟨.unknownOperator, ['<', 'a']⟩, by decide +kernel, by decide⟩)
  have hform : form "ok in (v, _w), a/b/c".toList =
      .ok (.all [.clause ⟨"ok", .among ["v", "_w"]⟩, .clause ⟨"a/b/c", .present⟩]) :=
    form_eq_ok_iff.mpr ⟨by decide, by decide +kernel, by decide +kernel⟩
  obtain ⟨-, -, hnames⟩ := parse_verdict "ok in (v, _w), a/b/c"
  obtain ⟨-, -, hfirst, hpiece⟩ := hnames _ hform
  have hparse := hfirst [.key "ok", .value "v"] (.value "_w") [.key "a/b/c"]
    (.naming "_w" (.misplaced '_' 0)) rfl (by decide +kernel) (by decide +kernel)
  exact ⟨((parse_verdict _).2.1 _ hblanks hfault).1, hparse, hpiece _ _ hparse⟩

end Selector

end LabelQuery
