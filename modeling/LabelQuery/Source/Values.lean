/-
Lists of values. A list stands between parentheses, with commas between its items;
an item is a word or nothing, and blanks may stand around it. `scanValues` reads
one, and on a fault it stops at the place that it blames.
-/

import LabelQuery.Source.Scan
import LabelQuery.Source.Word

namespace LabelQuery.Source

open LabelQuery.Text

/-- The items of a list up to and including its closing parenthesis; `first` says
that none has been read. A list with nothing but blanks between its parentheses
has no items. -/
def scanItems (first : Bool) (text : List Char) : Scan (List String) :=
  let word := (takeWord text).1
  let after := (takeWord text).2
  match _h : skipBlanks after with
  | [] => .stopped .listNotClosed []
  | ')' :: rest =>
    .found (if first && word.isEmpty then [] else [String.ofList word]) rest
  | ',' :: rest => (scanItems false rest).map (String.ofList word :: ·)
  | place =>
    .stopped (if after.head?.any isBlank then .blankInItem else .symbolInList) place
termination_by text.length
decreasing_by
  have hs := (skipBlanks_takeWord_suffix text).length_le
  simp only [show skipBlanks (takeWord text).2 = _ from _h, List.length_cons] at hs
  omega

/-- Reads a list after the blanks at the start of a text. -/
def scanValues (text : List Char) : Scan (List String) :=
  match skipBlanks text with
  | '(' :: rest => scanItems true rest
  | place => .stopped .listNotOpened place

theorem scanItems_suffix (first : Bool) (text : List Char) :
    (scanItems first text).rest <:+ text := by
  fun_induction scanItems first text with
  | case1 => simp [Scan.stopped]
  | case2 first text word after rest h =>
    exact (List.suffix_cons _ _).trans (h ▸ skipBlanks_takeWord_suffix text)
  | case3 first text word after rest h ih =>
    exact ih.trans ((List.suffix_cons _ _).trans (h ▸ skipBlanks_takeWord_suffix text))
  | case4 first text word after place h =>
    exact skipBlanks_takeWord_suffix text

theorem scanValues_suffix (text : List Char) : (scanValues text).rest <:+ text := by
  have hs := skipBlanks_suffix text
  unfold scanValues
  split
  · rename_i rest h
    exact (scanItems_suffix true rest).trans ((List.suffix_cons _ _).trans (h ▸ hs))
  · exact hs

end LabelQuery.Source
