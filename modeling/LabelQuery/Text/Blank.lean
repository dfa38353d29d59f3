/-
Blank characters of every script: those that separate words and carry no other
meaning. `isBlank` looks them up.
-/

import LabelQuery.Text.Ranges

namespace LabelQuery.Text

/-- The code points with the white space property. -/
def blankRanges : Ranges :=
  [(0x9, 0xD), (0x20, 0x20), (0x85, 0x85), (0xA0, 0xA0), (0x1680, 0x1680), (0x2000, 0x200A),
   (0x2028, 0x2029), (0x202F, 0x202F), (0x205F, 0x205F), (0x3000, 0x3000)]

/-- A blank: white space of some script. -/
def isBlank (c : Char) : Bool :=
  blankRanges.covers c

end LabelQuery.Text
