/-
Numerals of documents, as foreign values. A numeral is read as an integer where it is one
of 64 bits, and as a floating point number otherwise. The floating point number is a best
effort: as many leading digits as fit into 64 bits are taken for a whole number, which is
then multiplied or divided once by a power of ten.
-/

namespace LabelQuery

/-- A numeral: its sign, the digits before and after its point, and its exponent. -/
structure Numeral where
  negative : Bool
  whole : List Nat
  fraction : List Nat
  exponent : Option Int
deriving DecidableEq, Repr

namespace Numeral

/-- The number with further digits, as many as keep it within 64 bits, and the
digits that are left over. -/
def extend (number : Nat) : (digits : List Nat) → Nat × List Nat
  | [] => (number, [])
  | digit :: digits =>
    if 10 * number + digit < Nat.pow 2 64 then extend (10 * number + digit) digits
    else (number, digit :: digits)

/-- The integer of a numeral that has neither a fraction nor an exponent and fits into
64 bits, signed if it is negative. Zero has no negative. -/
def integer? (n : Numeral) : Option Int :=
  let (number, excess) := extend 0 n.whole
  if ¬ n.fraction.isEmpty ∨ n.exponent.isSome ∨ ¬ excess.isEmpty then none
  else if ¬ n.negative then some number
  else if 0 < number ∧ number ≤ Nat.pow 2 63 then some (-number)
  else none

/-- The digits of a numeral that count, and the exponent of the last of them. -/
def scientific (n : Numeral) : Nat × Int :=
  let (number, excess) := extend 0 n.whole
  let (number, ignored) := extend number n.fraction
  (number, excess.length - (n.fraction.length - ignored.length) + n.exponent.getD 0)

/-- The greatest exponent of a power of ten that is a floating point number. -/
def greatestPower : Nat := 308

/-- A power of ten. -/
def power (exponent : Nat) : Float :=
  Float.ofScientific 1 false exponent

/-- A number divided by a power of ten, in several steps if the power is too great. -/
def divide (x : Float) (exponent : Nat) : Float :=
  if exponent ≤ greatestPower then x / power exponent
  else if x == 0 then x
  else divide (x / power greatestPower) (exponent - greatestPower)
termination_by exponent
decreasing_by
  have : greatestPower = 308 := rfl
  omega

/-- A number multiplied by a power of ten. Nothing but zero stays finite where the
power is too great. -/
def multiply (x : Float) (exponent : Nat) : Float :=
  if exponent ≤ greatestPower then x * power exponent
  else if x == 0 then x
  else 1 / 0

/-- The floating point number that a numeral is read as. -/
def float (n : Numeral) : Float :=
  let (number, exponent) := n.scientific
  let x := number.toUInt64.toFloat
  let magnitude := if exponent < 0 then divide x exponent.natAbs else multiply x exponent.natAbs
  if n.negative then -magnitude else magnitude

end Numeral

end LabelQuery
