/-
What a message tells.

A message holds everything about a rejection: no two rejections have the same one
(`message_tells_rejection`), whatever characters are quoted by their number. Names and
remarks stand in a message as they are and may hold any text, also one that looks like the
rest of a message. So a message is taken apart from its end, where a number stands behind
its last space, or a flaw behind the last backquote that a colon follows.
-/

import LabelQuery.Rejection
import Mathlib.Data.List.Infix
import Std.Data.String.ToNat

namespace LabelQuery

/-! ### Texts with a separator -/

/-- A text is cut in one way only at the last place where the separator stands. -/
theorem append_inj_of_last_separator {α : Type} {separator before before' after after' : List α}
    (hafter : ¬ separator <:+: separator.tail ++ after)
    (hafter' : ¬ separator <:+: separator.tail ++ after')
    (h : before ++ (separator ++ after) = before' ++ (separator ++ after')) :
    before = before' ∧ after = after' := by
  have hno_more {more after after' : List α} (hafter : ¬ separator <:+: separator.tail ++ after)
      (h : separator ++ after = more ++ (separator ++ after')) : more = [] := by
    by_contra hmore
    obtain ⟨c, more, rfl⟩ := List.exists_cons_of_ne_nil hmore
    have hseparator : separator ≠ [] := by
      rintro rfl
      exact hafter List.nil_infix
    have htail := congrArg List.tail h
    rw [List.tail_append_of_ne_nil hseparator, List.cons_append, List.tail_cons] at htail
    exact hafter (htail ▸ ⟨more, after', by rw [List.append_assoc]⟩)
  rcases List.append_eq_append_iff.mp h with ⟨more, rfl, hmore⟩ | ⟨more, rfl, hmore⟩
  · obtain rfl := hno_more hafter hmore
    exact ⟨by simp, List.append_cancel_left hmore⟩
  · obtain rfl := hno_more hafter' hmore
    exact ⟨by simp, (List.append_cancel_left hmore).symm⟩

theorem not_mem_toDigits {c : Char} (hc : c.isDigit = false) (n : Nat) :
    c ∉ Nat.toDigits 10 n := by
  intro hmem
  have hdigit := Nat.isDigit_of_mem_toDigits (by decide) (by decide) hmem
  simp [hc] at hdigit

/-- A text that ends in a number behind a space ends in no other number. -/
theorem append_number_inj (lead : String) {text text' : String} {n n' : Nat}
    (hlead : lead.toList.getLast? = some ' ')
    (h : text ++ lead ++ toString n = text' ++ lead ++ toString n') : text = text' ∧ n = n' := by
  obtain ⟨front, hfront⟩ := List.getLast?_eq_some_iff.mp hlead
  have hdigits (n : Nat) : ¬ [' '] <:+: [' '].tail ++ Nat.toDigits 10 n := by
    rw [List.tail_cons, List.nil_append, List.singleton_infix_iff]
    exact not_mem_toDigits rfl n
  have hlists : (text.toList ++ front) ++ ([' '] ++ Nat.toDigits 10 n) =
      (text'.toList ++ front) ++ ([' '] ++ Nat.toDigits 10 n') := by
    simpa only [String.toList_append, hfront, List.append_assoc, Nat.toString_eq_repr,
      Nat.toList_repr] using congrArg String.toList h
  obtain ⟨htext, hnumber⟩ := append_inj_of_last_separator (hdigits n) (hdigits n') hlists
  rw [← Nat.toList_repr, ← Nat.toList_repr] at hnumber
  refine ⟨String.toList_injective (List.append_cancel_right htext), ?_⟩
  exact Nat.repr_injective (String.toList_injective hnumber)

/-- A text that ends in a number ends in a digit. -/
theorem getLast?_append_number (text : String) (n : Nat) :
    (text ++ toString n).toList.getLast?.any Char.isDigit = true := by
  have hne : Nat.toDigits 10 n ≠ [] := Nat.toDigits_ne_nil
  rw [String.toList_append, Nat.toString_eq_repr, Nat.toList_repr,
    List.getLast?_append_of_ne_nil _ hne, List.getLast?_eq_some_getLast hne, Option.any_some]
  exact Nat.isDigit_of_mem_toDigits (by decide) (by decide) (List.getLast_mem hne)

/-! ### Quoted characters -/

namespace Text

theorem hexadecimal_eq (n : Nat) :
    hexadecimal n =
      if n < 16 then [n.digitChar] else hexadecimal (n / 16) ++ [(n % 16).digitChar] :=
  Nat.toDigits_eq_if (by decide)

/-- A number is known by its hexadecimal digits. -/
theorem hexadecimal_inj {m n : Nat} (h : hexadecimal m = hexadecimal n) : m = n := by
  have hdigit : ∀ m < 16, ∀ n < 16, m.digitChar = n.digitChar → m = n := by decide
  have hlength (n : Nat) : (hexadecimal n).length ≤ 1 ↔ n < 16 :=
    Nat.length_toDigits_le_iff (by decide) (by decide)
  induction m using Nat.strongRecOn generalizing n with
  | ind m ih =>
    have hshort : m < 16 ↔ n < 16 := by rw [← hlength, h, hlength]
    rw [hexadecimal_eq m, hexadecimal_eq n] at h
    by_cases hm : m < 16
    · have hn := hshort.mp hm
      rw [if_pos hm, if_pos hn] at h
      exact hdigit m hm n hn (List.singleton_inj.mp h)
    · rw [if_neg hm, if_neg (hshort.not.mp hm)] at h
      obtain ⟨hfirst, hlast⟩ := List.append_inj' h rfl
      have hdiv := ih (m / 16) (by omega) hfirst
      have hmod := hdigit _ (by omega) _ (by omega) (List.singleton_inj.mp hlast)
      omega

theorem exists_digitChar_of_mem_hexadecimal {n : Nat} {c : Char} (h : c ∈ hexadecimal n) :
    ∃ d : Nat, c = d.digitChar := by
  induction n using Nat.strongRecOn with
  | ind n ih =>
    rw [hexadecimal_eq] at h
    split at h
    · exact ⟨n, List.mem_singleton.mp h⟩
    · rcases List.mem_append.mp h with h | h
      · exact ih (n / 16) (by omega) h
      · exact ⟨n % 16, List.mem_singleton.mp h⟩

/-- The characters that have a shorthand between single quotes, each with what stands
behind the backslash. -/
def shorthands : List (Char × Char) :=
  [('\'', '\''), ('\\', '\\'), ('\x00', '0'), ('\t', 't'), ('\r', 'r'), ('\n', 'n')]

/-- A quoted character is written by its shorthand, by its number, or as itself. -/
theorem quotedChar_cases (numbered : Char → Bool) (c : Char) :
    (∃ letter, (c, letter) ∈ shorthands ∧ quotedChar numbered '\'' c = ['\\', letter]) ∨
      quotedChar numbered '\'' c = '\\' :: 'u' :: '\x7b' :: (hexadecimal c.toNat ++ ['\x7d']) ∨
      quotedChar numbered '\'' c = [c] := by
  unfold quotedChar
  split_ifs with hself hzero htab hreturn hline hnumbered
  · refine Or.inl ⟨c, ?_, rfl⟩
    rcases hself with rfl | rfl <;> simp [shorthands]
  · exact Or.inl ⟨'0', by simp [shorthands, hzero], rfl⟩
  · exact Or.inl ⟨'t', by simp [shorthands, htab], rfl⟩
  · exact Or.inl ⟨'r', by simp [shorthands, hreturn], rfl⟩
  · exact Or.inl ⟨'n', by simp [shorthands, hline], rfl⟩
  · exact Or.inr (Or.inl rfl)
  · exact Or.inr (Or.inr rfl)

/-- A character is known by its quotation. -/
theorem quoteChar_inj {numbered : Char → Bool} {c c' : Char}
    (h : quoteChar numbered c = quoteChar numbered c') : c = c' := by
  have hletter : ∀ entry ∈ shorthands, ∀ entry' ∈ shorthands,
      entry.2 = entry'.2 → entry.1 = entry'.1 := by decide
  have hquoted : quotedChar numbered '\'' c = quotedChar numbered '\'' c' :=
    List.append_cancel_right (List.cons.inj (String.ofList_injective h)).2
  rcases quotedChar_cases numbered c with ⟨letter, hmem, hc⟩ | hc | hc <;>
    rcases quotedChar_cases numbered c' with ⟨letter', hmem', hc'⟩ | hc' | hc' <;>
    rw [hc, hc'] at hquoted
  · exact hletter _ hmem _ hmem' (by simpa using hquoted)
  · simp at hquoted
  · simp at hquoted
  · simp at hquoted
  · exact Char.toNat_inj.mp (hexadecimal_inj (by simpa using hquoted))
  · simp at hquoted
  · simp at hquoted
  · simp at hquoted
  · simpa using hquoted

/-- A quotation holds a backquote only where that is the character. -/
theorem backquote_of_mem_quotedChar {numbered : Char → Bool} {c : Char}
    (h : '`' ∈ quotedChar numbered '\'' c) : quotedChar numbered '\'' c = ['`'] := by
  have hletter : ∀ entry ∈ shorthands, entry.2 ≠ '`' := by decide
  rcases quotedChar_cases numbered c with ⟨letter, hmem, hc⟩ | hc | hc <;> rw [hc] at h ⊢
  · have hquote : letter = '`' := by simpa [eq_comm] using h
    exact absurd hquote (hletter _ hmem)
  · have hdigit : '`' ∈ hexadecimal c.toNat := by simpa using h
    obtain ⟨d, hd⟩ := exists_digitChar_of_mem_hexadecimal hdigit
    exact absurd hd.symm (Nat.digitChar_ne '`' rfl)
  · rw [List.mem_singleton.mp h]

end Text

/-! ### Remarks and flaws -/

/-- A remark is known by its message. -/
theorem Remark.message_inj {r r' : Remark} (h : r.message = r'.message) : r = r' := by
  have hnumber := (String.append_left_inj " (zero-based)").mp h
  obtain ⟨hwhat, hposition⟩ := append_number_inj " at byte " (by simp) hnumber
  cases r
  cases r'
  simp_all

namespace NameFlaw

variable {numbered : Char → Bool}

/-- The first letter of the wording of a flaw, and whether it ends in a number. -/
def outline : NameFlaw → Char × Bool
  | .empty => ('n', false)
  | .emptyPrefix => ('k', false)
  | .tooLong _ _ => ('n', true)
  | .prefixTooLong _ _ => ('k', true)
  | .misplaced _ _ => ('i', true)

theorem head?_wording (flaw : NameFlaw) :
    (flaw.wording numbered).toList.head? = some flaw.outline.1 := by
  cases flaw with
  | empty =>
    show "name is empty".toList.head? = some 'n'
    simp
  | emptyPrefix =>
    show "key prefix is empty".toList.head? = some 'k'
    simp
  | tooLong length limit =>
    show ("name is " ++ _ ++ _ ++ _).toList.head? = some 'n'
    simp
  | prefixTooLong length limit =>
    show ("key prefix is " ++ _ ++ _ ++ _).toList.head? = some 'k'
    simp
  | misplaced character position =>
    show ("invalid character " ++ _ ++ _ ++ _).toList.head? = some 'i'
    simp

theorem getLast?_wording (flaw : NameFlaw) :
    (flaw.wording numbered).toList.getLast?.any Char.isDigit = flaw.outline.2 := by
  cases flaw with
  | empty =>
    show "name is empty".toList.getLast?.any Char.isDigit = false
    simp
  | emptyPrefix =>
    show "key prefix is empty".toList.getLast?.any Char.isDigit = false
    simp
  | tooLong length limit => exact getLast?_append_number _ limit
  | prefixTooLong length limit => exact getLast?_append_number _ limit
  | misplaced character position => exact getLast?_append_number _ position

/-- A flaw is known by its wording. -/
theorem wording_inj {flaw flaw' : NameFlaw} (h : flaw.wording numbered = flaw'.wording numbered) :
    flaw = flaw' := by
  have houtline : flaw.outline = flaw'.outline := by
    apply Prod.ext
    · exact Option.some.inj (by rw [← head?_wording, ← head?_wording, h])
    · rw [← getLast?_wording, ← getLast?_wording, h]
  cases flaw <;> cases flaw' <;> simp [outline] at houtline
  case empty.empty => rfl
  case emptyPrefix.emptyPrefix => rfl
  case tooLong.tooLong length limit length' limit' =>
    obtain ⟨hlength, rfl⟩ :=
      append_number_inj " characters long; the limit is " (by simp) h
    rw [Nat.repr_injective ((String.append_right_inj "name is ").mp hlength)]
  case prefixTooLong.prefixTooLong length limit length' limit' =>
    obtain ⟨hlength, rfl⟩ :=
      append_number_inj " characters long; the limit is " (by simp) h
    rw [Nat.repr_injective ((String.append_right_inj "key prefix is ").mp hlength)]
  case misplaced.misplaced character position character' position' =>
    obtain ⟨hquoted, rfl⟩ := append_number_inj " at position " (by simp) h
    rw [Text.quoteChar_inj ((String.append_right_inj "invalid character ").mp hquoted)]

/-- No colon follows a backquote in the wording of a flaw. -/
theorem colon_not_behind_backquote (flaw : NameFlaw) :
    ¬ ['`', ':'] <:+: (flaw.wording numbered).toList := by
  have hnumber (n : Nat) : '`' ∉ Nat.toDigits 10 n := not_mem_toDigits rfl n
  have habsent {text : List Char} (h : '`' ∉ text) : ¬ ['`', ':'] <:+: text :=
    fun hpair => h (hpair.subset (by simp))
  cases flaw with
  | empty =>
    show ¬ ['`', ':'] <:+: "name is empty".toList
    exact habsent (by simp)
  | emptyPrefix =>
    show ¬ ['`', ':'] <:+: "key prefix is empty".toList
    exact habsent (by simp)
  | tooLong length limit =>
    show ¬ _ <:+: ("name is " ++ toString length ++ _ ++ toString limit).toList
    exact habsent (by simp [hnumber])
  | prefixTooLong length limit =>
    show ¬ _ <:+: ("key prefix is " ++ toString length ++ _ ++ toString limit).toList
    exact habsent (by simp [hnumber])
  | misplaced character position =>
    show ¬ _ <:+: ("invalid character " ++ Text.quoteChar numbered character ++
      " at position " ++ toString position).toList
    by_cases hmem : '`' ∈ Text.quotedChar numbered '\'' character
    · -- The only backquote is the character itself, and a single quote follows it.
      have htext : ("invalid character " ++ Text.quoteChar numbered character ++
          " at position " ++ toString position).toList =
            "invalid character '".toList ++
              '`' :: '\'' :: (" at position ".toList ++ (toString position).toList) := by
        simp [Text.quoteChar, Text.backquote_of_mem_quotedChar hmem]
      rintro ⟨before, after, hpair⟩
      rw [htext, List.append_assoc] at hpair
      have hcut := (List.append_cons_inj_of_notMem (by simp) (by simp [hnumber])).mp hpair.symm
      simp at hcut
    · exact habsent (by simp [Text.quoteChar, hmem, hnumber])

end NameFlaw

/-! ### Rejections -/

namespace Rejection

variable {numbered : Char → Bool}

/-- The ninth character of the wording of a rejection. -/
def outline : Rejection → Char
  | .blank => ' '
  | .operator _ => 'o'
  | .form _ => 's'
  | .naming _ _ => 'n'

theorem getElem?_wording (rejection : Rejection) :
    (rejection.wording numbered).toList[8]? = some rejection.outline := by
  cases rejection with
  | blank =>
    show "selector is empty".toList[8]? = some ' '
    simp
  | operator remark =>
    show ("invalid operator: " ++ _).toList[8]? = some 'o'
    simp
  | form remark =>
    show ("invalid selector: " ++ _).toList[8]? = some 's'
    simp
  | naming name flaw =>
    show ("invalid name `" ++ _ ++ _ ++ _).toList[8]? = some 'n'
    simp

/-- A name ends where the last backquote stands that a colon follows. -/
theorem naming_inj {name name' : String} {flaw flaw' : NameFlaw}
    (h : (naming name flaw).wording numbered = (naming name' flaw').wording numbered) :
    name = name' ∧ flaw = flaw' := by
  have hflaw (flaw : NameFlaw) :
      ¬ ['`', ':'] <:+: ['`', ':'].tail ++ ' ' :: (flaw.wording numbered).toList := by
    simpa [List.infix_cons_iff] using flaw.colon_not_behind_backquote
  have htext : "invalid name `" ++ name ++ "`: " ++ flaw.wording numbered =
      "invalid name `" ++ name' ++ "`: " ++ flaw'.wording numbered := h
  have hlists : name.toList ++ (['`', ':'] ++ ' ' :: (flaw.wording numbered).toList) =
      name'.toList ++ (['`', ':'] ++ ' ' :: (flaw'.wording numbered).toList) := by
    simpa using congrArg String.toList htext
  obtain ⟨hname, hwording⟩ := append_inj_of_last_separator (hflaw flaw) (hflaw flaw') hlists
  have hwording := String.toList_injective (List.cons.inj hwording).2
  exact ⟨String.toList_injective hname, NameFlaw.wording_inj hwording⟩

/-- A rejection is known by its wording. -/
theorem wording_inj {a b : Rejection} (h : a.wording numbered = b.wording numbered) :
    a = b := by
  have houtline : a.outline = b.outline :=
    Option.some.inj (by rw [← getElem?_wording, ← getElem?_wording, h])
  cases a <;> cases b <;> simp [outline] at houtline
  case blank.blank => rfl
  case operator.operator remark remark' =>
    rw [Remark.message_inj ((String.append_right_inj "invalid operator: ").mp h)]
  case form.form remark remark' =>
    rw [Remark.message_inj ((String.append_right_inj "invalid selector: ").mp h)]
  case naming.naming name flaw name' flaw' =>
    obtain ⟨rfl, rfl⟩ := naming_inj h
    rfl

/-- No two rejections have the same message, whatever they are about and whichever
characters are quoted by their number. -/
theorem message_tells_rejection (numbered : Char → Bool) (a b : Rejection) :
    (a.wording numbered = b.wording numbered ↔ a = b) ∧ (a.message = b.message ↔ a = b) := by
  have hwording (numbered : Char → Bool) : a.wording numbered = b.wording numbered ↔ a = b :=
    ⟨wording_inj, fun h => h ▸ rfl⟩
  exact ⟨hwording numbered, hwording Text.isEscaped⟩

end Rejection

end LabelQuery
