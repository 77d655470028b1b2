import PathSets.Decimal.Binary
import PathSets.Kind
import PathSets.Log.Level

/-!
# Data

Values that hold no other values.  Two data are equal if they have the same `Essence`, so an
integer equals the float of its value, and bytes equal bytes that can be changed; only what is not
a number equals nothing, not even itself.
-/

namespace PathSets

/-- A value that holds no other values. -/
inductive Datum where
  | none
  | bool (truth : Bool)
  | int (number : Int)
  | float (number : Double)
  | text (content : String)
  | level (named : Level)
  | bytes (data : List UInt8)
  /-- Bytes that can be changed. -/
  | byteArray (data : List UInt8)
  /-- The integers from zero up to, not including, a bound. -/
  | range (bound : Int)
deriving DecidableEq, Repr, Inhabited

/-- What equal data have in common. -/
inductive Essence where
  | none
  /-- What counts as this integer. -/
  | whole (number : Int)
  /-- A number that is no integer. -/
  | fractional (bits : UInt64)
  | notANumber
  | text (content : String)
  | bytes (data : List UInt8)
  /-- This many integers from zero on. -/
  | range (count : Nat)
deriving DecidableEq, Hashable, Repr, Inhabited

/-- What equal floats have in common. -/
def Double.essence (number : Double) : Essence :=
  match number.whole?, number.classify with
  | some whole, _ => .whole whole
  | none, .notANumber => .notANumber
  | none, _ => .fractional number.bits

namespace Datum

/-- The kind of a datum. -/
def kind : Datum → Kind
  | .none => .none
  | .bool _ => .bool
  | .int _ => .int
  | .float _ => .float
  | .text _ => .text
  | .level _ => .level
  | .bytes _ => .bytes
  | .byteArray _ => .byteArray
  | .range _ => .range

/-- The integer that a datum counts as: truth values are one and zero, and levels their ranks. -/
def integer? : Datum → Option Int
  | .bool truth => some (if truth then 1 else 0)
  | .int number => some number
  | .level named => some named.rank
  | _ => Option.none

/-- What a datum has in common with all that equal it. -/
def essence : Datum → Essence
  | .none => .none
  | .bool truth => .whole (if truth then 1 else 0)
  | .int number => .whole number
  | .float number => number.essence
  | .text content => .text content
  | .level named => .whole named.rank
  | .bytes data | .byteArray data => .bytes data
  | .range bound => .range bound.toNat

/-- Whether two data are equal. -/
def equal (left right : Datum) : Bool :=
  left.essence == right.essence && left.essence != .notANumber

/-- Whether there is only one value of a datum, however often it is made: this goes for nothing,
truth values, levels and small integers, and for text and bytes of length one or none, text as far
as its character is one of the first 256. -/
def isUnique : Datum → Bool
  | .none | .bool _ | .level _ => true
  | .int number => -5 ≤ number && number ≤ 256
  | .text content =>
      match content.toList with
      | [] => true
      | [char] => char.toNat < 256
      | _ => false
  | .bytes data => data.length ≤ 1
  | .float _ | .byteArray _ | .range _ => false

end Datum
end PathSets
