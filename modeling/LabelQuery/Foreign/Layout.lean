/-
Layouts of decimal numbers, for the names of foreign values. A `Layout` says between
which exponents a number is written without one; `Layout.write` follows it, and
`Decimal.floating` is the layout of floating point numbers in diagnostics.
-/

import LabelQuery.Foreign.Shortest

namespace LabelQuery.Decimal

/-- How decimal numbers are laid out. The exponent of a number is that of its first
digit. -/
structure Layout where
  /-- The least exponent that is not written. -/
  least : Int
  /-- The greatest exponent that is not written. -/
  greatest : Int
deriving DecidableEq, Repr

/-- Floating point numbers in diagnostics have an exponent below a hundred
thousandth, and from the sixteenth power of ten on. -/
def floating : Layout := ⟨-5, 15⟩

/-- An exponent with its sign. -/
def exponentText (exponent : Int) : String :=
  "e" ++ (if exponent < 0 then "-" else "+") ++ toString exponent.natAbs

/-- Digits with a point after the first `whole` of them; zeros fill what is missing
on either side of the point. -/
def pointed (digits : List Char) (whole : Int) : String :=
  if whole ≤ 0 then "0." ++ String.ofList (List.replicate (-whole).toNat '0' ++ digits)
  else
    let padded := digits ++ List.replicate (whole.toNat - digits.length) '0'
    let fraction := padded.drop whole.toNat
    String.ofList (padded.take whole.toNat) ++ "." ++
      (if fraction.isEmpty then "0" else String.ofList fraction)

/-- Digits with a point after the first one, unless it is the only one. -/
def leading : (digits : List Char) → String
  | first :: second :: rest => String.ofList (first :: '.' :: second :: rest)
  | digits => String.ofList digits

/-- A decimal number in a layout. -/
def Layout.write (layout : Layout) (d : Decimal) : String :=
  let digits := (toString d.digits).toList
  let exponent := d.exponent + digits.length - 1
  if d.digits = 0 then "0.0"
  else if layout.least ≤ exponent ∧ exponent ≤ layout.greatest then
    pointed digits (exponent + 1)
  else leading digits ++ exponentText exponent

/-- A finite floating point number in a layout, with its sign if it is negative. -/
def Layout.writeFloat (layout : Layout) (x : Float) : String :=
  (if x.toBits.toNat < Nat.pow 2 63 then "" else "-") ++ layout.write (shortest x)

end LabelQuery.Decimal
