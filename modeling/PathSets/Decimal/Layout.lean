import PathSets.Decimal.Shortest

/-!
# Decimals as text

How a number with a fraction is laid out: where positional notation ends, how an exponent is
written, and the texts of the values that are no numbers.
-/

namespace PathSets

/-- The decisions of one way to write numbers. -/
structure DecimalLayout where
  /-- The least exponent of the leading digit that is written positionally. -/
  leastPositional : Int
  /-- The least exponent beyond it that is written with an exponent. -/
  firstScientific : Int
  /-- The least number of digits of an exponent. -/
  exponentWidth : Nat
  /-- The text of infinity. -/
  infinity : String
  /-- The text of what is not a number. -/
  notANumber : String
deriving DecidableEq, Repr, Inhabited

namespace DecimalLayout

/-- Numbers from a ten-thousandth up to ten to the sixteenth are written positionally, and an
exponent has a sign and two digits. -/
def standard : DecimalLayout where
  leastPositional := -4
  firstScientific := 16
  exponentWidth := 2
  infinity := "inf"
  notANumber := "nan"

/-- Digits with a point before the place `point`, at least one digit on either side of it. -/
def positional (digits : List Char) (point : Int) : List Char :=
  if point ≤ 0 then '0' :: '.' :: List.replicate (-point).toNat '0' ++ digits
  else
    let whole := digits.take point.toNat ++ List.replicate (point.toNat - digits.length) '0'
    let fraction := digits.drop point.toNat
    whole ++ '.' :: if fraction.isEmpty then ['0'] else fraction

/-- Digits with the point after the first of them, left out if nothing follows, and an exponent. -/
def scientific (layout : DecimalLayout) (digits : List Char) (exponent : Int) : List Char :=
  let fraction := digits.drop 1
  let written := Decimal.digitList exponent.natAbs
  digits.take 1 ++ (if fraction.isEmpty then [] else '.' :: fraction)
    ++ 'e' :: (if exponent < 0 then '-' else '+')
    :: List.replicate (layout.exponentWidth - written.length) '0' ++ written

/-- A positive decimal as text. -/
def decimal (layout : DecimalLayout) (decimal : Decimal) : List Char :=
  let digits := Decimal.digitList decimal.digits
  let leading := decimal.exponent + digits.length - 1
  if layout.leastPositional ≤ leading ∧ leading < layout.firstScientific then
    positional digits (leading + 1)
  else layout.scientific digits leading

/-- A double as text. -/
def double (layout : DecimalLayout) (number : Double) : String :=
  let sign := if number.isNegative then "-" else ""
  match number.classify with
  | .zero => sign ++ "0.0"
  | .finite magnitude => sign ++ String.ofList (layout.decimal magnitude.shortest)
  | .infinite => sign ++ layout.infinity
  | .notANumber => layout.notANumber

end DecimalLayout
end PathSets
