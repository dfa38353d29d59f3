/-
What a parse puts on record.

The journal of a parse holds one entry for every clause that was completed, in the order
of the text and with the number of bytes up to the end of the clause, and then one for
the verdict. Where the text is accepted these clauses are those of the selector, and the
text up to any of the places on record spells the clauses up to there
(`journal_records`).
-/

import LabelQuery.Journal
import LabelQuery.Proofs.ClausePlaces
import LabelQuery.Proofs.RoundTrip

namespace LabelQuery

open Source

/-! ### Completed clauses -/

/-- The clauses that reading a text completes, each with the number of bytes up to its
end. -/
def completions (text : List Char) : List (Clause × Nat) :=
  (readMore text).clauses.map fun entry => (entry.1, offset text entry.2)

theorem clauseEvents_eq (text : List Char) :
    clauseEvents text = (completions text).map fun entry => .completed entry.1 entry.2 := by
  unfold clauseEvents completions read? readMore
  by_cases hskip : skipBlanks text = []
  · simp [hskip]
  · simp [hskip]

theorem map_fst_completions (text : List Char) :
    (completions text).map Prod.fst = (readMore text).clauses.map Prod.fst := by
  simp [completions]

/-- What is on record is what was completed, each clause behind those on record before it
and with the number of bytes that stand before what remained. -/
theorem completions_iff {text : List Char} {earlier : List Clause} {c : Clause}
    {position : Nat} :
    (∃ passed later, completions text = passed ++ (c, position) :: later ∧
        passed.map Prod.fst = earlier) ↔
      ∃ before rest, text = before ++ rest ∧ position = byteLength before ∧
        CompletesClause text earlier c rest := by
  constructor
  · rintro ⟨passed, later, hrecord, rfl⟩
    obtain ⟨passed, others, hread, rfl, hothers⟩ := List.map_eq_append_iff.mp hrecord
    obtain ⟨⟨c, rest⟩, later, rfl, hentry, rfl⟩ := List.map_eq_cons_iff.mp hothers
    cases hentry
    have hcompletes := clauses_readMore_iff.mp ⟨passed, later, hread, rfl⟩
    obtain ⟨before, rfl⟩ := hcompletes.suffix
    refine ⟨before, rest, rfl, offset_append before rest, ?_⟩
    rw [List.map_map]
    exact hcompletes
  · rintro ⟨before, rest, rfl, rfl, hcompletes⟩
    obtain ⟨passed, later, hread, rfl⟩ := clauses_readMore_iff.mpr hcompletes
    rw [completions, hread, List.map_append, List.map_cons, offset_append]
    exact ⟨_, _, rfl, by simp⟩

/-- The places on record lie one behind the other. -/
theorem pairwise_completions (text : List Char) :
    (completions text).Pairwise fun d e => d.2 < e.2 := by
  unfold completions
  rw [List.pairwise_map]
  by_cases hskip : skipBlanks text = []
  · rw [readMore_of_blanks hskip]
    exact .nil
  · rw [readMore_of_ne_nil hskip]
    refine (pairwise_readClauses text).imp_of_mem ?_
    rintro ⟨c, rest⟩ ⟨c', rest'⟩ hmem - hlt
    obtain ⟨passed, later, hread⟩ := List.append_of_mem hmem
    have hrest := byteLength_le_of_suffix (completesClause_of_readClauses hskip hread).suffix
    simp only [offset] at hlt ⊢
    omega

namespace Selector

/-! ### Accepted texts -/

/-- An accepted text is the collection of what was completed in it. -/
theorem eq_collect_of_parse {text : String} {s : Selector} (h : parse text = .ok s) :
    s = .collect (((completions text.toList).map Prod.fst).map .clause) := by
  obtain ⟨hskip, -, hs⟩ := form_eq_ok_iff.mp (parse_eq_ok_iff.mp h).1
  rw [map_fst_completions, readMore_of_ne_nil hskip]
  exact hs

/-- Its text is that of what was completed, between commas. -/
theorem render_of_parse {text : String} {s : Selector} (h : parse text = .ok s) :
    s.render = ", ".intercalate ((completions text.toList).map fun e => e.1.render) := by
  rw [(canonical_of_parse h).flat.noEmptyJoin.render_eq, eq_collect_of_parse h, clauses_collect,
    List.map_map]
  rfl

/-- An accepted text that is cut off behind a clause is accepted. -/
theorem parse_cut {text : String} {s : Selector} (h : parse text = .ok s)
    {before rest : List Char} {earlier : List Clause} {c : Clause}
    (htext : text.toList = before ++ rest)
    (hcompletes : CompletesClause text.toList earlier c rest) :
    parse (String.ofList before) = .ok (.collect ((earlier ++ [c]).map .clause)) := by
  have hflaws : ∀ d ∈ earlier ++ [c], d.flaw? = none := by
    obtain ⟨passed, later, hrecord, rfl⟩ :=
      completions_iff.mpr ⟨before, rest, htext, rfl, hcompletes⟩
    have hclauses : s.clauses = (passed.map Prod.fst ++ [c]) ++ later.map Prod.fst := by
      rw [eq_collect_of_parse h, clauses_collect, hrecord]
      simp
    intro d hd
    refine flaw?_eq_none_iff.mp (parse_eq_ok_iff.mp h).2 d ?_
    rw [hclauses]
    exact List.mem_append_left _ hd
  have hkey : c.key ≠ "" := by
    intro hempty
    have hflaw := (clauseFlaw?_eq_none_iff.mp (hflaws c (by simp))).1
    rw [hempty] at hflaw
    exact absurd rfl (Naming.isWord_of_keyFlaw?_eq_none hflaw).1
  rw [htext] at hcompletes
  refine parse_eq_ok_iff.mpr ⟨?_, ?_⟩
  · rw [String.toList_ofList]
    exact hcompletes.form_cut hkey
  · rwa [flaw?_eq_none_iff, clauses_collect]

end Selector

/-! ### The journal -/

theorem verdict_eq_accepted_iff {text : String} {s : Selector} :
    verdict text = .accepted s ↔ Selector.parse text = .ok s := by
  unfold verdict
  cases Selector.parse text <;> simp

theorem verdict_eq_rejected_iff {text : String} {rejection : Rejection} :
    verdict text = .rejected text rejection ↔ Selector.parse text = .error rejection := by
  unfold verdict
  cases Selector.parse text <;> simp

theorem level_verdict (text : String) : (verdict text).level = .debug := by
  unfold verdict
  cases Selector.parse text <;> rfl

/-- The journal in words: every clause that was completed, then the verdict. -/
theorem written_journal (text : String) :
    (journal text).map (fun e => (e.level, e.message)) =
      (completions text.toList).map (fun e => (.trace,
        "parsed clause `" ++ e.1.render ++ "` ending at byte " ++ toString e.2)) ++
      [(.debug, (verdict text).message)] := by
  rw [journal, clauseEvents_eq, List.map_append, List.map_map, List.map_singleton, level_verdict]
  simp only [Function.comp_def, Event.message_completed, Event.level]

/-- The journal of a parse: an entry for every clause that was completed, each at the
number of bytes up to its end, in the order of the text, and then one for the verdict. In
words, an entry gives its clause and that number, and the verdict gives the text of the
selector, or the text that was turned down and why.

Where the text is accepted, the selector is the collection of the clauses on record, its
text is theirs between commas, and the text up to a place on record is accepted as the
collection of the clauses up to there. -/
theorem journal_records (text : String) :
    ∃ entries : List (Clause × Nat),
      journal text = entries.map (fun e => .completed e.1 e.2) ++ [verdict text] ∧
      (journal text).map Event.level = List.replicate entries.length .trace ++ [.debug] ∧
      (journal text).map (fun e => (e.level, e.message)) =
        entries.map (fun e => (.trace,
          "parsed clause `" ++ e.1.render ++ "` ending at byte " ++ toString e.2)) ++
        [(.debug, (verdict text).message)] ∧
      (∀ s, verdict text = .accepted s ↔ Selector.parse text = .ok s) ∧
      (∀ rejection, verdict text = .rejected text rejection ↔
        Selector.parse text = .error rejection) ∧
      (∀ rejection, Selector.parse text = .error rejection → (verdict text).message =
        "rejected selector " ++ Text.quote text ++ ": " ++ rejection.message) ∧
      entries.Pairwise (fun d e => d.2 < e.2) ∧
      (∀ earlier c position,
        (∃ passed later, entries = passed ++ (c, position) :: later ∧
            passed.map Prod.fst = earlier) ↔
          ∃ before rest, text.toList = before ++ rest ∧ position = byteLength before ∧
            CompletesClause text.toList earlier c rest) ∧
      ∀ s, Selector.parse text = .ok s →
        s = .collect ((entries.map Prod.fst).map .clause) ∧
          s.render = ", ".intercalate (entries.map fun e => e.1.render) ∧
          (verdict text).message = "accepted selector `" ++
            ", ".intercalate (entries.map fun e => e.1.render) ++ "`" ∧
          ∀ passed c before rest later, entries = passed ++ (c, byteLength before) :: later →
            text.toList = before ++ rest →
              Selector.parse (String.ofList before) =
                .ok (.collect ((passed.map Prod.fst ++ [c]).map .clause)) := by
  refine ⟨completions text.toList, ?_, ?_, written_journal text, fun _ => verdict_eq_accepted_iff,
    fun _ => verdict_eq_rejected_iff, ?_, pairwise_completions _, fun _ _ _ => completions_iff, ?_⟩
  · rw [journal, clauseEvents_eq]
  · calc (journal text).map Event.level
        = ((journal text).map fun e => (e.level, e.message)).map Prod.fst := by
          rw [List.map_map]
          rfl
      _ = (completions text.toList).map (fun _ => .trace) ++ [.debug] := by
          rw [written_journal, List.map_append, List.map_map]
          rfl
      _ = List.replicate (completions text.toList).length .trace ++ [.debug] := by
          rw [List.map_const']
  · intro rejection hparse
    rw [verdict_eq_rejected_iff.mpr hparse, Event.message_rejected]
  · intro s hparse
    have hrender := Selector.render_of_parse hparse
    refine ⟨Selector.eq_collect_of_parse hparse, hrender, ?_, ?_⟩
    · rw [verdict_eq_accepted_iff.mpr hparse, Event.message_accepted, hrender]
    · intro passed c before rest later hrecord htext
      obtain ⟨before', rest', htext', hlength, hcompletes⟩ :=
        completions_iff.mp ⟨passed, later, hrecord, rfl⟩
      -- The text is cut in one way only behind the bytes on record.
      obtain ⟨rfl, rfl⟩ := append_inj_of_byteLength_eq (htext.symm.trans htext') hlength
      exact Selector.parse_cut hparse htext hcompletes

/-- A key ends where its blanks begin, and a value where its blanks end. -/
theorem journal_records_blanks :
    journal "é ,b = x " =
        [.completed ⟨"é", .present⟩ 2, .completed ⟨"b", .equal "x"⟩ 10,
          .accepted (.all [.clause ⟨"é", .present⟩, .clause ⟨"b", .equal "x"⟩])] ∧
      (journal "é ,b = x ").map (fun e => (e.level, e.message)) =
        [(.trace, "parsed clause `é` ending at byte 2"),
          (.trace, "parsed clause `b=x` ending at byte 10"),
          (.debug, "accepted selector `é, b=x`")] ∧
      Selector.parse "é" = .ok (.clause ⟨"é", .present⟩) := by
  obtain ⟨entries, -, -, -, -, -, -, -, hcompletes, haccepted⟩ := journal_records "é ,b = x "
  refine ⟨by decide +kernel, by decide +kernel, ?_⟩
  have hparse : Selector.parse "é ,b = x " =
      .ok (.all [.clause ⟨"é", .present⟩, .clause ⟨"b", .equal "x"⟩]) := by decide +kernel
  have hfirst : CompletesClause "é ,b = x ".toList [] ⟨"é", .present⟩ " ,b = x ".toList :=
    ⟨_, .first (by decide), rfl⟩
  obtain ⟨passed, later, hentries, hpassed⟩ :=
    (hcompletes [] ⟨"é", .present⟩ 2).mpr ⟨['é'], _, rfl, by decide, hfirst⟩
  have hcut := (haccepted _ hparse).2.2.2 passed _ ['é'] " ,b = x ".toList later hentries rfl
  rwa [hpassed] at hcut

end LabelQuery
