/-
This file reads a float as an exact number and packs exact numbers back into floats. A
finite float is a whole significand times a power of two, so that every question about
it, its floor, its nearest whole number, its single precision neighbour, is a question
about whole numbers and is answered without further rounding.
-/

import SeriesChart.Fault
import SeriesChart.Number.Power
import SeriesChart.Number.Rounding

namespace SeriesChart

/-! ### What a float is -/

/-- A float as a number: `significand * 2 ^ exponent` with a sign, an infinity, or no number. -/
inductive Binary where
  | finite (negative : Bool) (significand : Nat) (exponent : Int)
  | infinite (negative : Bool)
  | undefined
  deriving DecidableEq, Repr

namespace Binary

/-- The number that the sixty-four bits of a float stand for. -/
def ofBits (bits : Nat) : Binary :=
  let negative := bits.testBit 63
  let field : Nat := bits / twoTo 52 % 2048
  let fraction := bits % twoTo 52
  if field = 2047 then
    if fraction = 0 then .infinite negative else .undefined
  else if field = 0 then .finite negative fraction (-1074)
  else .finite negative (fraction + twoTo 52) ((field : Int) - 1075)

/-- The number that a float is. -/
def ofFloat (value : Float) : Binary := ofBits value.toBits.toNat

/-! ### Whole numbers -/

/-- The significand with its sign. -/
def signed (negative : Bool) (significand : Nat) : Int :=
  if negative then -significand else significand

/-- The numerator of the number with the sign of the float. -/
def numerator (negative : Bool) (significand : Nat) (exponent : Int) : Int :=
  signed negative significand * twoTo exponent.toNat

/-- The denominator that goes with the numerator: one for a whole number. -/
def denominator (exponent : Int) : Nat := twoTo (-exponent).toNat

/-- The number as a whole number. An infinity and what is no number have none. -/
def toInt (rounding : Rounding) : Binary → Except Fault Int
  | .finite negative significand exponent =>
    .ok (rounding.quotient (numerator negative significand exponent) (denominator exponent))
  | .infinite _ => .error (.overflow .integerOfInfinity)
  | .undefined => .error (.invalid .integerOfNaN)

/-! ### Packing -/

/-- A format of floats: how many bits a significand has, the exponent of the least of them in the
smallest numbers, and the bits of infinity. -/
structure Format where
  precision : Nat
  leastExponent : Int
  infinityBits : Nat

/-- Thirty-two bits with twenty-four in the significand. -/
def single : Format := ⟨24, -149, 0x7F800000⟩

/-- Sixty-four bits with fifty-three in the significand. -/
def double : Format := ⟨53, -1074, 0x7FF0000000000000⟩

/-- The bits of the float nearest to `significand * 2 ^ exponent`, ties to even. The significand is
brought to a whole number of last places; a carry out of it moves into the exponent by itself,
because the two fields are neighbours. -/
def Format.pack (format : Format) (significand : Nat) (exponent : Int) : Nat :=
  if significand = 0 then 0
  else
    let place := max (significand.log2 + exponent - (format.precision - 1)) format.leastExponent
    let places := Rounding.nearestEven.quotient
      (significand * twoTo (exponent - place).toNat) (twoTo (place - exponent).toNat)
    let field := (place - format.leastExponent).toNat
    min format.infinityBits (field * twoTo (format.precision - 1) + places.toNat)

/-- The float nearest to `significand * 2 ^ exponent`. -/
def toDouble (significand : Nat) (exponent : Int) : Float :=
  Float.ofBits (double.pack significand exponent).toUInt64

/-- The single precision number nearest to a float. -/
def toSingle (value : Float) : Float32 :=
  let withSign (negative : Bool) (bits : Nat) : Float32 :=
    Float32.ofBits ((if negative then 0x80000000 else 0) + bits).toUInt32
  match ofFloat value with
  | .finite negative significand exponent => withSign negative (single.pack significand exponent)
  | .infinite negative => withSign negative single.infinityBits
  | .undefined => Float32.ofBits 0x7FC00000

/-! ### Whole numbers as floats -/

/-- The float nearest to a whole number. A number beyond the range of floats is refused. -/
def ofInt (value : Int) : Except Fault Float :=
  let nearest := Float.ofInt value
  if nearest.isInf then .error (.overflow .integerTooLarge) else .ok nearest

/-- A float as a whole number. -/
def toWhole (rounding : Rounding) (value : Float) : Except Fault Int :=
  (ofFloat value).toInt rounding

end Binary

end SeriesChart
