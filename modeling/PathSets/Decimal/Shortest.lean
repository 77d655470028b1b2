import PathSets.Decimal.Binary

/-!
# The fewest digits that read back

A decimal with the fewest digits among those that round to a given magnitude, and of these the
nearest.  All comparisons are made on whole numbers.
-/

namespace PathSets

/-- A positive decimal `digits · 10 ^ exponent`. -/
structure Decimal where
  /-- The digits, read as one number. -/
  digits : Nat
  /-- The exponent of ten. -/
  exponent : Int
deriving DecidableEq, Repr, Inhabited

namespace Decimal

/-- The digits of a number in base ten, most significant first. -/
def digitList (number : Nat) : List Char :=
  Nat.toDigits 10 number

/-- The decimal of the same value whose last digit is no zero, or one with no digit at all. -/
def trim : Nat → Decimal → Decimal
  | 0, decimal => decimal
  | steps + 1, decimal =>
      if decimal.digits % 10 = 0 then trim steps ⟨decimal.digits / 10, decimal.exponent + 1⟩
      else decimal

end Decimal

namespace Magnitude

/-- A magnitude seen on the grid of the multiples of `10 ^ place`: multiples of the grid's unit
and quarters of the last binary place are both counted in a common measure. -/
structure Grid where
  /-- The exponent of ten of the grid. -/
  place : Int
  /-- The grid's unit in the common measure. -/
  unit : Nat
  /-- A quarter of the last binary place in the common measure. -/
  quarter : Nat

/-- The grid of the multiples of `10 ^ place`, for a magnitude. -/
def grid (magnitude : Magnitude) (place : Int) : Grid where
  place := place
  unit := Nat.pow 10 place.toNat * Nat.pow 2 (2 - magnitude.exponent).toNat
  quarter := Nat.pow 10 (-place).toNat * Nat.pow 2 (magnitude.exponent - 2).toNat

/-- The exponent of ten of the leading digit. -/
def leadingPlace (magnitude : Magnitude) : Int :=
  let scaled := magnitude.mantissa * Nat.pow 2 magnitude.exponent.toNat * Nat.pow 10 330
    / Nat.pow 2 (-magnitude.exponent).toNat
  ((Decimal.digitList scaled).length : Int) - 331

/-- Whether a multiple of the grid's unit rounds to the magnitude. -/
def roundsTo (magnitude : Magnitude) (grid : Grid) (multiple : Nat) : Bool :=
  let offered := multiple * grid.unit
  let low := (4 * magnitude.mantissa - if magnitude.closeBelow then 1 else 2) * grid.quarter
  let high := (4 * magnitude.mantissa + 2) * grid.quarter
  if magnitude.mantissa % 2 = 0 then low ≤ offered && offered ≤ high
  else low < offered && offered < high

/-- The multiple of the grid's unit that rounds to the magnitude and is nearest to it, if one does;
of two at the same distance the even one. -/
def onGrid? (magnitude : Magnitude) (grid : Grid) : Option Nat :=
  let exact := 4 * magnitude.mantissa * grid.quarter
  let below := exact / grid.unit
  let above := below + 1
  let gapBelow := exact - below * grid.unit
  let gapAbove := above * grid.unit - exact
  match magnitude.roundsTo grid below, magnitude.roundsTo grid above with
  | true, true =>
      if gapBelow < gapAbove then some below
      else if gapAbove < gapBelow then some above
      else some (if below % 2 = 0 then below else above)
  | true, false => some below
  | false, true => some above
  | false, false => none

/-- The first hit on finer and finer grids; seventeen digits always suffice. -/
def search (magnitude : Magnitude) : Nat → Int → Decimal
  | 0, place => ⟨4 * magnitude.mantissa * (magnitude.grid place).quarter
      / (magnitude.grid place).unit, place⟩
  | further + 1, place =>
      match magnitude.onGrid? (magnitude.grid place) with
      | some multiple => ⟨multiple, place⟩
      | none => search magnitude further (place - 1)

/-- The decimal with the fewest digits that rounds to the magnitude. -/
def shortest (magnitude : Magnitude) : Decimal :=
  Decimal.trim 20 (magnitude.search 17 magnitude.leadingPlace)

end Magnitude
end PathSets
