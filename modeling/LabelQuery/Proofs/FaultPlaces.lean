/-
The places that are reported.

A remark on the form of a text counts the bytes from the start of the text, and its place
falls between two characters. A remark on a second slash counts from the start of the key
instead, since the key is all that the naming rules see. It gives the place of the slash
in the text only if the key is what the text starts with (`fault_places`).
-/

import LabelQuery.Proofs.ClausePlaces
import LabelQuery.Proofs.NamingRules
import LabelQuery.Proofs.Viability
import Mathlib.Data.List.Infix

namespace LabelQuery

/-- A remark that rejects a text. -/
def Rejection.remark? : Rejection → Option Remark
  | .operator remark | .form remark => some remark
  | .blank | .naming _ _ => none

theorem Cause.remark?_rejection (cause : Cause) (position : Nat) :
    (cause.rejection position).remark? = some ⟨cause.what, position⟩ := by
  unfold Cause.rejection
  split <;> rfl

namespace Naming

open Source

/-- A second slash is reported where it stands in the key. -/
theorem keyFlaw?_eq_secondSlash_iff {key : String} {position : Nat} :
    keyFlaw? key = some (Cause.secondSlash.rejection position) ↔
      ∃ first second third, key.toList = first ++ '/' :: (second ++ '/' :: third) ∧
        '/' ∉ first ∧ '/' ∉ second ∧ position = byteLength (first ++ '/' :: second) := by
  rw [keyFlaw?_eq_some_iff]
  constructor
  · rintro (⟨first, second, third, hkey, hfirst, hsecond, heq⟩ | ⟨flaw, heq, -⟩)
    · have hposition := (Cause.rejection_eq_iff.mp heq).2
      exact ⟨first, second, third, hkey, hfirst, hsecond, hposition⟩
    · exact absurd heq (Cause.rejection_ne_naming _ _ _ _)
  · rintro ⟨first, second, third, hkey, hfirst, hsecond, rfl⟩
    exact Or.inl ⟨first, second, third, hkey, hfirst, hsecond, rfl⟩

end Naming

namespace Source

open LabelQuery.Text

/-! ### Keys in a text -/

/-- What may stand in a clause before its key: blanks, perhaps with a denial. -/
inductive BeforeKey : List Char → Prop where
  | blanks {gap : List Char} (hgap : Blanks gap) : BeforeKey gap
  | denial {gap gap' : List Char} (hgap : Blanks gap) (hgap' : Blanks gap') :
      BeforeKey (gap ++ '!' :: gap')

/-- The text has the key of `c` between `before` and `after`, where a clause is read
behind the clauses `earlier`. -/
inductive HasKey (earlier : List Clause) (c : Clause) :
    List Char → List Char → List Char → Prop where
  | place {passed gap after rest : List Char} (hgap : BeforeKey gap)
      (hstart : StartsClause (passed ++ (gap ++ (c.key.toList ++ after))) earlier
        (gap ++ (c.key.toList ++ after)))
      (hclause : scanClause (gap ++ (c.key.toList ++ after)) = .found c rest) :
      HasKey earlier c (passed ++ (gap ++ (c.key.toList ++ after))) (passed ++ gap) after

theorem exists_beforeKey_of_scanClause {text rest : List Char} {c : Clause}
    (h : scanClause text = .found c rest) :
    ∃ gap after, BeforeKey gap ∧ text = gap ++ (c.key.toList ++ after) := by
  rcases scanClause_eq_found h with ⟨inner, hbang, rfl, -⟩ | ⟨hkey, -⟩
  · obtain ⟨gap, hgap, htext⟩ := exists_blanks_append_skipBlanks text
    obtain ⟨gap', hgap', hinner⟩ := exists_blanks_append_takeWord inner
    refine ⟨gap ++ '!' :: gap', (takeWord inner).2, .denial hgap hgap', ?_⟩
    rw [hbang, hinner] at htext
    rw [htext]
    simp
  · obtain ⟨gap, hgap, htext⟩ := exists_blanks_append_takeWord text
    refine ⟨gap, (takeWord text).2, .blanks hgap, ?_⟩
    rw [hkey, String.toList_ofList]
    exact htext

theorem CompletesClause.exists_hasKey {text rest : List Char} {earlier : List Clause}
    {c : Clause} (h : CompletesClause text earlier c rest) :
    ∃ before after, HasKey earlier c text before after := by
  obtain ⟨start, hstart, hclause⟩ := h
  obtain ⟨passed, rfl⟩ := hstart.suffix
  obtain ⟨gap, after, hgap, rfl⟩ := exists_beforeKey_of_scanClause hclause
  exact ⟨passed ++ gap, after, .place hgap hstart hclause⟩

theorem HasKey.text_eq {earlier : List Clause} {c : Clause} {text before after : List Char}
    (h : HasKey earlier c text before after) : text = before ++ (c.key.toList ++ after) := by
  cases h
  rw [List.append_assoc]

end Source

namespace Selector

open Source

/-- The first flaw of a selector is a second slash where the key of some clause has one
and the clauses before it have no flaw. -/
theorem flaw?_eq_secondSlash {s : Selector} {position : Nat}
    (h : s.flaw? = some (Cause.secondSlash.rejection position)) :
    ∃ earlier c later, s.clauses = earlier ++ c :: later ∧
      (∀ d ∈ earlier, d.flaw? = none) ∧
      Naming.keyFlaw? c.key = some (Cause.secondSlash.rejection position) := by
  rw [flaw?_eq_findSome?_clauses, List.findSome?_eq_some_iff] at h
  obtain ⟨earlier, c, later, hclauses, hflaw, hearlier⟩ := h
  refine ⟨earlier, c, later, hclauses, hearlier, ?_⟩
  rcases Option.or_eq_some_iff.mp hflaw with hkey | ⟨-, hvalues⟩
  · exact hkey
  · obtain ⟨value, -, hvalue⟩ := List.exists_of_findSome?_eq_some hvalues
    obtain ⟨flaw, heq⟩ := Naming.valueFlaw?_eq_some hvalue
    exact absurd heq (Cause.rejection_ne_naming _ _ _ _)

/-- A clause of the selector that a text spells has its key in the text. -/
theorem exists_hasKey_of_form {text : List Char} {s : Selector} (h : form text = .ok s)
    {earlier later : List Clause} {c : Clause} (hclauses : s.clauses = earlier ++ c :: later) :
    ∃ before after, HasKey earlier c text before after := by
  obtain ⟨hskip, -, rfl⟩ := form_eq_ok_iff.mp h
  rw [clauses_collect] at hclauses
  obtain ⟨passed, others, hread, rfl, hothers⟩ := List.map_eq_append_iff.mp hclauses
  obtain ⟨⟨c, rest⟩, later, rfl, rfl, -⟩ := List.map_eq_cons_iff.mp hothers
  exact (completesClause_of_readClauses hskip hread).exists_hasKey

/-! ### What is reported -/

/-- A remark on the form of a text gives a place of the text. -/
theorem place_of_form_eq_error {text : List Char} {rejection : Rejection} {remark : Remark}
    (h : form text = .error rejection) (hremark : rejection.remark? = some remark) :
    remark.what ≠ Cause.secondSlash.what ∧
      ∃ before place, text = before ++ place ∧ remark.position = byteLength before := by
  rcases form_eq_error_iff.mp h with ⟨-, rfl⟩ | ⟨-, fault, hfault, rfl⟩
  · simp [Rejection.remark?] at hremark
  · rw [Fault.rejection, Cause.remark?_rejection] at hremark
    cases hremark
    obtain ⟨before, htext, -⟩ := (divides_of_readClauses hfault).viable
    refine ⟨?_, before, fault.place, htext, ?_⟩
    · intro hwhat
      exact readClauses_cause_ne hfault (Cause.eq_of_what_eq hwhat)
    · rw [htext, offset_append]

/-- A remark on a name is one on a second slash, and gives its place in the key. -/
theorem place_of_flaw? {text : List Char} {s : Selector} {rejection : Rejection}
    {remark : Remark} (hform : form text = .ok s) (hflaw : s.flaw? = some rejection)
    (hremark : rejection.remark? = some remark) :
    remark.what = Cause.secondSlash.what ∧
      ∃ earlier c before after first second third, HasKey earlier c text before after ∧
        (∀ d ∈ earlier, d.flaw? = none) ∧
        c.key.toList = first ++ '/' :: (second ++ '/' :: third) ∧
        '/' ∉ first ∧ '/' ∉ second ∧
        remark.position = byteLength (first ++ '/' :: second) := by
  rcases flaw?_eq_some hflaw with ⟨name, flaw, rfl⟩ | ⟨position, rfl⟩
  · simp [Rejection.remark?] at hremark
  · rw [Cause.remark?_rejection] at hremark
    cases hremark
    obtain ⟨earlier, c, later, hclauses, hearlier, hfound⟩ := flaw?_eq_secondSlash hflaw
    obtain ⟨first, second, third, hkey, hfirst, hsecond, rfl⟩ :=
      Naming.keyFlaw?_eq_secondSlash_iff.mp hfound
    obtain ⟨before, after, hhas⟩ := exists_hasKey_of_form hform hclauses
    exact ⟨rfl, earlier, c, before, after, first, second, third, hhas, hearlier, hkey, hfirst,
      hsecond, rfl⟩

/-- The position of a remark on an operator or on the form of a text is never behind the
end of the text. It is the number of bytes before some place of the text, except for a
second slash in a key. That is the first key that breaks the naming rules, and the
position is the number of bytes between the start of the key and the slash. So it is the
number of bytes before the slash only where nothing stands before the key. -/
theorem fault_places {text : String} {rejection : Rejection} {remark : Remark}
    (h : parse text = .error rejection) (hremark : rejection.remark? = some remark) :
    remark.position ≤ text.utf8ByteSize ∧
      (remark.what ≠ Cause.secondSlash.what →
        ∃ before place, text.toList = before ++ place ∧ remark.position = byteLength before) ∧
      (remark.what = Cause.secondSlash.what →
        ∃ earlier c before after first second third,
          HasKey earlier c text.toList before after ∧ (∀ d ∈ earlier, d.flaw? = none) ∧
          c.key.toList = first ++ '/' :: (second ++ '/' :: third) ∧
          '/' ∉ first ∧ '/' ∉ second ∧
          text.toList = (before ++ (first ++ '/' :: second)) ++ '/' :: (third ++ after) ∧
          remark.position = byteLength (first ++ '/' :: second) ∧
          (remark.position = byteLength (before ++ (first ++ '/' :: second)) ↔ before = [])) := by
  rw [← byteLength_toList]
  rcases parse_eq_error_iff.mp h with hform | ⟨s, hform, hflaw⟩
  · obtain ⟨hwhat, before, place, htext, hposition⟩ := place_of_form_eq_error hform hremark
    refine ⟨?_, fun _ => ⟨before, place, htext, hposition⟩, fun hslash => absurd hslash hwhat⟩
    rw [htext, hposition, byteLength_append]
    exact Nat.le_add_right _ _
  · obtain ⟨hwhat, earlier, c, before, after, first, second, third, hhas, hearlier, hkey, hfirst,
      hsecond, hposition⟩ := place_of_flaw? hform hflaw hremark
    have htext : text.toList = (before ++ (first ++ '/' :: second)) ++ '/' :: (third ++ after) := by
      rw [hhas.text_eq, hkey]
      simp
    refine ⟨?_, fun hslash => absurd hwhat hslash, fun _ => ?_⟩
    · rw [htext, hposition, byteLength_append (before ++ _), byteLength_append before]
      omega
    · refine ⟨earlier, c, before, after, first, second, third, hhas, hearlier, hkey, hfirst,
        hsecond, htext, hposition, ?_⟩
      rw [hposition, byteLength_append before]
      constructor
      · intro hlength
        by_contra hne
        have hpos := byteLength_pos hne
        omega
      · rintro rfl
        simp

/-- The reported position falls inside a character, and the slash stands elsewhere. -/
theorem second_slash_misplaced :
    parse "éé, a/b/c" = .error (Cause.secondSlash.rejection 3) ∧
      (∀ before place, "éé, a/b/c".toList = before ++ place → byteLength before ≠ 3) ∧
      "éé, a/b/c".toList = "éé, a/b".toList ++ "/c".toList ∧
      byteLength "éé, a/b".toList = 9 := by
  refine ⟨by decide +kernel, ?_, rfl, rfl⟩
  intro before place htext
  have hcuts : ∀ before ∈ "éé, a/b/c".toList.inits, byteLength before ≠ 3 := by decide
  exact hcuts before ((List.mem_inits _ _).mpr ⟨place, htext.symm⟩)

/-- The three bytes that are reported are those of the key, behind another clause. -/
theorem fault_places_second_clause :
    parse "k, a/b/c" = .error (Cause.secondSlash.rejection 3) ∧
      3 ≤ "k, a/b/c".utf8ByteSize ∧
      ∃ before first second rest : List Char,
        "k, a/b/c".toList = (before ++ (first ++ '/' :: second)) ++ '/' :: rest ∧
        3 = byteLength (first ++ '/' :: second) := by
  have hparse : parse "k, a/b/c" = .error (Cause.secondSlash.rejection 3) := by decide +kernel
  obtain ⟨hsize, -, hslash⟩ := fault_places hparse (Cause.remark?_rejection _ _)
  obtain ⟨_, _, before, after, first, second, third, -, -, -, -, -, htext, hposition, -⟩ :=
    hslash rfl
  exact ⟨hparse, hsize, before, first, second, third ++ after, htext, hposition⟩

end Selector

end LabelQuery
