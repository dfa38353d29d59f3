/-
Shortest decimals, for the names of foreign values. Among the decimal numbers that round
to a given binary number, `Decimal.shortest` picks one with the fewest digits and, of
those, the nearest. A binary number is taken apart into `mantissa * 2 ^ exponent`, and
everything after that is exact arithmetic on natural numbers.
-/

namespace LabelQuery

/-- The number `digits * 10 ^ exponent`. -/
structure Decimal where
  digits : Nat
  exponent : Int
deriving DecidableEq, Repr

namespace Decimal

/-- The number `mantissa * 2 ^ exponent`. The next smaller binary number is half as
far away as the next larger one where `narrow` says so. -/
structure Binary where
  mantissa : Nat
  exponent : Int
  narrow : Bool
deriving DecidableEq, Repr

/-- The magnitude of a finite floating point number of 64 bits. -/
def Binary.ofFloat (x : Float) : Binary :=
  let bits : Nat := x.toBits.toNat
  let fraction : Nat := bits % Nat.pow 2 52
  let biased : Nat := bits / Nat.pow 2 52 % Nat.pow 2 11
  if biased = 0 then ⟨fraction, -1074, false⟩
  else ⟨Nat.pow 2 52 + fraction, (biased : Int) - 1075, fraction = 0 ∧ 1 < biased⟩

/-- An interval of numbers around `value`, all over one denominator; the ends belong
to it where `closed` says so. -/
structure Interval where
  low : Nat
  value : Nat
  high : Nat
  denominator : Nat
  closed : Bool
deriving DecidableEq, Repr

/-- The numbers that round to a binary number. A number halfway between two of them
rounds to the one whose mantissa is even. -/
def Binary.interval (b : Binary) : Interval :=
  let scale := Nat.pow 2 (b.exponent - 2).toNat
  { low := (4 * b.mantissa - if b.narrow then 1 else 2) * scale
    value := 4 * b.mantissa * scale
    high := (4 * b.mantissa + 2) * scale
    denominator := Nat.pow 2 (2 - b.exponent).toNat
    closed := b.mantissa % 2 = 0 }

/-- The interval holds the number with this numerator, over its own denominator. -/
def Interval.holds (i : Interval) (numerator : Nat) : Bool :=
  if i.closed then i.low ≤ numerator ∧ numerator ≤ i.high
  else i.low < numerator ∧ numerator < i.high

/-- The interval measured in units of `10 ^ exponent`. -/
def Interval.inUnits (i : Interval) (exponent : Int) : Interval :=
  let up := Nat.pow 10 (-exponent).toNat
  { i with
    low := i.low * up
    value := i.value * up
    high := i.high * up
    denominator := i.denominator * Nat.pow 10 exponent.toNat }

/-- The whole number nearest to the value, among those in the interval; the even one
of two that are as near. -/
def Interval.nearest? (i : Interval) : Option Nat :=
  let below := i.value / i.denominator
  let left := i.value - below * i.denominator
  let right := (below + 1) * i.denominator - i.value
  match i.holds (below * i.denominator), i.holds ((below + 1) * i.denominator) with
  | true, true =>
    some (if left < right ∨ left = right ∧ below % 2 = 0 then below else below + 1)
  | true, false => some below
  | false, true => some (below + 1)
  | false, false => none

/-- The first decimal in the interval, trying units that are ten times smaller each
time. -/
def Interval.firstDecimal (i : Interval) : (tries : Nat) → (exponent : Int) → Decimal
  | 0, exponent => ⟨0, exponent⟩
  | tries + 1, exponent =>
    match (i.inUnits exponent).nearest? with
    | some digits => ⟨digits, exponent⟩
    | none => i.firstDecimal tries (exponent - 1)

/-- The shortest decimal that rounds to the magnitude of a finite floating point
number of 64 bits. Every such number is less than ten of the first unit, and any two
of them are further apart than the last. -/
def shortest (x : Float) : Decimal :=
  (Binary.ofFloat x).interval.firstDecimal 650 309

end Decimal

end LabelQuery
