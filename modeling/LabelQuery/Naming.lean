/-
The naming rules for keys and values. A key is a name, or a prefix, a slash and a
name; a prefix is a sequence of segments between dots. Names, segments and values
follow one rule: the first and the last character is a letter or a digit, and those
between may also be one of a few symbols. A value may be empty. `keyFlaw?` and
`valueFlaw?` give the first flaw, and `none` for what the rules allow.
-/

import LabelQuery.Rejection
import LabelQuery.Source.Place
import LabelQuery.Text.Alphanumeric

namespace LabelQuery.Naming

open LabelQuery.Text LabelQuery.Source

/-- The most characters the name part of a key may have. -/
def keyNameLimit : Nat := 63

/-- The most characters a value may have. -/
def valueLimit : Nat := 63

/-- The most characters the prefix of a key may have. -/
def keyPrefixLimit : Nat := 253

/-- The symbols allowed inside the name part of a key. -/
def keyNameSymbols : List Char := ['-', '_', '.', '\\']

/-- The symbols allowed inside a value. -/
def valueSymbols : List Char := ['-', '_', '.']

/-- The symbols allowed inside a segment of a prefix. -/
def segmentSymbols : List Char := ['-', '_']

/-- The first misplaced character of a name of which some characters may have been
passed already: `inside` says whether any was, and `position` counts them and
whatever stands before the name. -/
def misplacedFrom (symbols : List Char) :
    (inside : Bool) → (position : Nat) → (name : List Char) → Option NameFlaw
  | _, _, [] => none
  | inside, position, c :: rest =>
    if isAlphanumeric c || (inside && !rest.isEmpty && symbols.contains c) then
      misplacedFrom symbols true (position + 1) rest
    else
      some (.misplaced c position)

/-- The first misplaced character of a name that starts at `position`. -/
def misplaced? (symbols : List Char) (position : Nat) (name : List Char) :
    Option NameFlaw :=
  misplacedFrom symbols false position name

/-- The first misplaced character among segments between dots, of which the first
starts at `position`. An empty segment is blamed on the dot after it, or, when it is
the last, on the dot before it. -/
def segmentFlaw? (position : Nat) : (segments : List (List Char)) → Option NameFlaw
  | [] => none
  | [[]] => some (.misplaced '.' (position - 1))
  | [] :: _ => some (.misplaced '.' position)
  | segment :: rest =>
    (misplaced? segmentSymbols position segment).or
      (segmentFlaw? (position + segment.length + 1) rest)

/-- The first flaw of the part of a key before the slash. -/
def prefixFlaw? (text : List Char) : Option NameFlaw :=
  if text.length = 0 then some .emptyPrefix
  else if text.length > keyPrefixLimit then some (.prefixTooLong text.length keyPrefixLimit)
  else segmentFlaw? 0 (text.splitOn '.')

/-- The first flaw of the name part of a key, which starts at `position`. -/
def keyNameFlaw? (position : Nat) (name : List Char) : Option NameFlaw :=
  if name.length = 0 then some .empty
  else if name.length > keyNameLimit then some (.tooLong name.length keyNameLimit)
  else misplaced? keyNameSymbols position name

/-- The first flaw of a key. -/
def keyFlaw? (key : String) : Option Rejection :=
  match key.toList.splitOn '/' with
  | first :: second :: _ :: _ =>
    some (Cause.secondSlash.rejection (byteLength first + '/'.utf8Size + byteLength second))
  | [before, name] =>
    ((prefixFlaw? before).or (keyNameFlaw? (before.length + 1) name)).map (.naming key)
  | _ => (keyNameFlaw? 0 key.toList).map (.naming key)

/-- The first flaw of a value. -/
def valueFlaw? (value : String) : Option Rejection :=
  if value.toList.length > valueLimit then
    some (.naming value (.tooLong value.toList.length valueLimit))
  else
    (misplaced? valueSymbols 0 value.toList).map (.naming value)

end LabelQuery.Naming
