/-
Quoted characters and texts, as diagnostics show them. A quotation stands between
two quote characters; inside it that quote character and the backslash are written
after a backslash, four control characters have a letter or digit of their own, and
of the remaining characters some are written by their number. Which ones depends on the
tables of characters in use; for this library they are those of `isEscaped`.
-/

import LabelQuery.Text.Escaped

namespace LabelQuery.Text

/-- A number in lower-case hexadecimal digits, without leading zeros. -/
def hexadecimal (n : Nat) : List Char :=
  Nat.toDigits 16 n

/-- How a character is written inside a quotation that ends at `quote`, where
`numbered` says which characters are written by their number. -/
def quotedChar (numbered : Char → Bool) (quote c : Char) : List Char :=
  if c = quote ∨ c = '\\' then ['\\', c]
  else if c = '\x00' then ['\\', '0']
  else if c = '\t' then ['\\', 't']
  else if c = '\r' then ['\\', 'r']
  else if c = '\n' then ['\\', 'n']
  else if numbered c then '\\' :: 'u' :: '\x7b' :: hexadecimal c.toNat ++ ['\x7d']
  else [c]

/-- A single character between single quotes. -/
def quoteChar (numbered : Char → Bool) (c : Char) : String :=
  String.ofList ('\'' :: quotedChar numbered '\'' c ++ ['\''])

/-- A text between double quotes. -/
def quote (text : String) : String :=
  String.ofList ('"' :: text.toList.flatMap (quotedChar isEscaped '"') ++ ['"'])

end LabelQuery.Text
