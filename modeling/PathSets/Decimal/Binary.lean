/-!
# Floating-point numbers as exact magnitudes

A double is given by its bits.  A finite one is a sign and a magnitude `mantissa · 2 ^ exponent`.
The reals that round to it form an interval around the magnitude, whose ends belong to it exactly
when the mantissa is even.
-/

namespace PathSets

/-- A floating-point number of double precision, as its bits. -/
structure Double where
  /-- The sign, the exponent and the fraction. -/
  bits : UInt64
deriving DecidableEq, Repr, Inhabited

/-- A magnitude of a double that is neither zero nor infinite. -/
structure Magnitude where
  /-- The factor in front. -/
  mantissa : Nat
  /-- The exponent of two. -/
  exponent : Int
  /-- Whether the next smaller double lies at half the usual distance. -/
  closeBelow : Bool
deriving DecidableEq, Repr, Inhabited

/-- What a double holds, its sign aside. -/
inductive DoubleClass where
  | zero
  | finite (magnitude : Magnitude)
  | infinite
  | notANumber
deriving DecidableEq, Repr, Inhabited

/-- The whole number that a magnitude is, if it is one. -/
def Magnitude.whole? (magnitude : Magnitude) : Option Nat :=
  let shift := Nat.pow 2 (-magnitude.exponent).toNat
  if magnitude.mantissa % shift = 0 then
    some (magnitude.mantissa / shift * Nat.pow 2 magnitude.exponent.toNat)
  else none

namespace Double

/-- Whether the sign bit is set. -/
def isNegative (number : Double) : Bool :=
  number.bits.toNat / Nat.pow 2 63 == 1

/-- What a double holds, its sign aside. -/
def classify (number : Double) : DoubleClass :=
  let field : Nat := number.bits.toNat / Nat.pow 2 52 % Nat.pow 2 11
  let fraction := number.bits.toNat % Nat.pow 2 52
  if field = 2047 then (if fraction = 0 then .infinite else .notANumber)
  else if field = 0 then (if fraction = 0 then .zero else .finite ⟨fraction, -1074, false⟩)
  else .finite ⟨Nat.pow 2 52 + fraction, (field : Int) - 1075, fraction = 0 ∧ 1 < field⟩

/-- The integer that a double is, if it is one; both zeros are zero. -/
def whole? (number : Double) : Option Int :=
  match number.classify with
  | .zero => some 0
  | .finite magnitude =>
      magnitude.whole?.map fun whole => if number.isNegative then -(whole : Int) else whole
  | .infinite | .notANumber => none

end Double
end PathSets
