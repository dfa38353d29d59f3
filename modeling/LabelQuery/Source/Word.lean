/-
Words. A selector text is made of words, delimiters and blanks. `skipBlanks` passes
the blanks at the start of a text, and `takeWord` passes them and then takes the
longest word; both leave a suffix of the text.
-/

import LabelQuery.Text.Blank

namespace LabelQuery.Source

open LabelQuery.Text

/-- A character that ends a word and has a meaning of its own. The angle brackets
spell no operator; they are delimiters so that no word swallows them. -/
def isDelimiter (c : Char) : Bool :=
  c = '=' || c = '!' || c = '(' || c = ')' || c = ',' || c = '<' || c = '>'

/-- A delimiter that reads as part of an operator, known or not. -/
def isOperatorSign (c : Char) : Bool :=
  c = '=' || c = '!' || c = '<' || c = '>'

/-- A character of a word: neither a blank nor a delimiter. -/
def isInWord (c : Char) : Bool :=
  !isBlank c && !isDelimiter c

/-- The text after the blanks at its start. -/
def skipBlanks (text : List Char) : List Char :=
  text.dropWhile isBlank

/-- The longest word after the blanks at the start of a text, and the text after
that word. -/
def takeWord (text : List Char) : List Char × List Char :=
  ((skipBlanks text).takeWhile isInWord, (skipBlanks text).dropWhile isInWord)

theorem skipBlanks_suffix (text : List Char) : skipBlanks text <:+ text :=
  List.dropWhile_suffix _

theorem takeWord_suffix (text : List Char) : (takeWord text).2 <:+ text :=
  (List.dropWhile_suffix _).trans (skipBlanks_suffix text)

/-- A word and the text after it make up the text from the word on. -/
theorem takeWord_append (text : List Char) :
    (takeWord text).1 ++ (takeWord text).2 = skipBlanks text :=
  List.takeWhile_append_dropWhile

/-- What follows the blanks after the first word of a text is a suffix of it. -/
theorem skipBlanks_takeWord_suffix (text : List Char) :
    skipBlanks (takeWord text).2 <:+ text :=
  (skipBlanks_suffix _).trans (takeWord_suffix text)

end LabelQuery.Source
