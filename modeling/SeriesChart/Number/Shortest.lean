/-
This file writes a float with the fewest digits that read back as the same float. Among
the decimal numbers of one length only the two neighbours of the value can be the
nearest, so each length from one digit on is tried with those two, in whole numbers; the
first length with a number that rounds to the float is taken. Then come the conventions
of the written form: when it is positional, how an exponent looks, and the three names
for what has no digits.
-/

import SeriesChart.Number.Binary

namespace SeriesChart

/-! ### Digits -/

/-- The decimal digits of a number, most significant first; none for zero. -/
def digitsOf (value : Nat) : List Char :=
  if value = 0 then [] else Nat.toDigits 10 value

/-- A decimal number: `digits * 10 ^ exponent`. -/
structure DecimalForm where
  digits : Nat
  exponent : Int
  deriving DecidableEq, Repr

/-- The number without the zeros at the end of its digits. -/
def DecimalForm.trimmed (form : DecimalForm) : Nat → DecimalForm
  | 0 => form
  | fuel + 1 =>
    if form.digits ≠ 0 ∧ form.digits % 10 = 0 then
      DecimalForm.trimmed ⟨form.digits / 10, form.exponent + 1⟩ fuel
    else form

namespace Binary

/-! ### The interval of a float -/

/-- What rounds to a positive float: the value and both ends as numerators over one denominator,
and whether the ends belong to it. They do when the significand is even. Below a power of two the
next float is half as far away, unless it is one of the smallest. -/
structure Interval where
  low : Nat
  value : Nat
  high : Nat
  denominator : Nat
  closed : Bool

/-- The interval of the float `significand * 2 ^ exponent`. -/
def interval (significand : Nat) (exponent : Int) : Interval :=
  let below := if significand = twoTo 52 ∧ -1074 < exponent then 1 else 2
  let scale := twoTo (exponent - 2).toNat
  { low := (4 * significand - below) * scale
    value := 4 * significand * scale
    high := (4 * significand + 2) * scale
    denominator := twoTo (2 - exponent).toNat
    closed := significand % 2 = 0 }

/-- The decimal number rounds to the float. -/
def Interval.holds (interval : Interval) (form : DecimalForm) : Bool :=
  let point := form.digits * tenTo form.exponent.toNat * interval.denominator
  let scale := tenTo (-form.exponent).toNat
  if interval.closed then interval.low * scale ≤ point && point ≤ interval.high * scale
  else interval.low * scale < point && point < interval.high * scale

/-- The better of the two decimal neighbours of the value on the grid of a power of ten, if one of
them rounds to the float. A tie goes to the even digit. -/
def Interval.nearestOnGrid (interval : Interval) (exponent : Int) : Option DecimalForm :=
  let scaled := interval.value * tenTo (-exponent).toNat
  let unit := interval.denominator * tenTo exponent.toNat
  let lower : DecimalForm := ⟨scaled / unit, exponent⟩
  let upper : DecimalForm := ⟨scaled / unit + 1, exponent⟩
  let remainder := scaled % unit
  let lowerIsNearer :=
    2 * remainder < unit || (2 * remainder = unit && lower.digits % 2 = 0)
  match interval.holds lower, interval.holds upper with
  | true, true => some (if lowerIsNearer then lower else upper)
  | true, false => some lower
  | false, true => some upper
  | false, false => none

/-- The exponent of the first digit of a positive number. The binary logarithm gives it up to one,
and a comparison settles it. -/
def Interval.leadingExponent (interval : Interval) : Int :=
  let estimate : Int :=
    ((interval.value.log2 : Int) - interval.denominator.log2) * 30103 / 100000 - 1
  let reaches (exponent : Int) : Bool :=
    interval.denominator * tenTo exponent.toNat ≤ interval.value * tenTo (-exponent).toNat
  if reaches (estimate + 2) then estimate + 2
  else if reaches (estimate + 1) then estimate + 1 else estimate

/-- The first grid, from coarse to fine, with a number that rounds to the float. -/
def Interval.firstHit (interval : Interval) : Nat → Int → DecimalForm
  | 0, exponent => ⟨0, exponent⟩
  | lengths + 1, exponent =>
    match interval.nearestOnGrid exponent with
    | some form => form
    | none => interval.firstHit lengths (exponent - 1)

/-- The shortest decimal number that reads back as the positive float. -/
def shortest (significand : Nat) (exponent : Int) : DecimalForm :=
  let interval := interval significand exponent
  (interval.firstHit 18 interval.leadingExponent).trimmed 18

/-! ### The written form -/

/-- A whole number with a sign in front and at least two digits. -/
def exponentText (exponent : Int) : String :=
  let digits := toString exponent.natAbs
  (if exponent < 0 then "-" else "+") ++ (if digits.length < 2 then "0" ++ digits else digits)

/-- The digits with a point, and an exponent outside the range from `10 ^ -4` up to `10 ^ 16`. -/
def positiveText (form : DecimalForm) : String :=
  let digits := digitsOf form.digits
  let leading := form.exponent + digits.length - 1
  if -4 ≤ leading ∧ leading < 16 then
    if leading < 0 then
      String.ofList ('0' :: '.' :: List.replicate (-leading - 1).toNat '0' ++ digits)
    else
      let whole := (leading + 1).toNat
      let padded := digits ++ List.replicate (whole - digits.length) '0'
      let fraction := padded.drop whole
      String.ofList (padded.take whole ++ '.' :: (if fraction = [] then ['0'] else fraction))
  else
    match digits with
    | [] => "0"
    | first :: rest =>
      String.ofList (first :: (if rest = [] then [] else '.' :: rest)) ++ "e" ++
        exponentText leading

/-- A float as messages show it. -/
def text (value : Float) : String :=
  match ofFloat value with
  | .undefined => "nan"
  | .infinite negative => if negative then "-inf" else "inf"
  | .finite negative significand exponent =>
    (if negative then "-" else "") ++
      (if significand = 0 then "0.0" else positiveText (shortest significand exponent))

end Binary

end SeriesChart
