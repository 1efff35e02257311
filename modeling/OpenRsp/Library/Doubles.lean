import Mathlib.Data.Rat.Floor
import Mathlib.Data.UInt

/-!
# Doubles

The value of a binary64 number and its conversions to integers as C makes
them.  Arithmetic and comparison are those of `Float`.
-/

namespace Doubles

open Float.Model

/-- The value of a finite double. -/
def value? (number : Float) : Option Rat :=
  match number.toModel.unpack with
  | .finite sign mantissa exponent _ =>
      some (mkRat (sign.apply (mantissa * 2 ^ exponent.toNat : Nat)) (2 ^ (-exponent).toNat))
  | .zero _ => some 0
  | .infinity _ | .notANumber => none

/-- Rounding towards zero. -/
def truncate (value : Rat) : Int :=
  if 0 ≤ value then value.floor else value.ceil

/-- Rounding to the nearest integer, halves away from zero. -/
def nearest (value : Rat) : Int :=
  if 0 ≤ value then (value + 1 / 2).floor else -(-value + 1 / 2).floor

/-- A conversion to `uint32_t`, which is undefined outside its range. -/
def toUInt32? (number : Float) : Option UInt32 :=
  (value? number).bind fun value =>
    let truncated := truncate value
    if 0 ≤ truncated ∧ truncated < 2 ^ 32 then
      some (UInt32.ofNat truncated.toNat)
    else none

/-- `lround`; zero for what is not a number. -/
def lround (number : Float) : Int := nearest ((value? number).getD 0)

/-- The conversion of `ceil` to an integer. -/
def ceiling (number : Float) : Int := ((value? number).getD 0).ceil

/-- `floor` of a finite double. -/
def floor (number : Float) : Float := Float.ofInt ((value? number).getD 0).floor

/-- The conversion of a sample. -/
def ofInt16 (sample : Int16) : Float := Float.ofInt sample.toInt

end Doubles
