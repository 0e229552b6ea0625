/-
This file rounds quotients of whole numbers to whole numbers. There are four ways to go:
down, up, toward zero, and to the nearest with ties to the even neighbour. Every other
rounding of the library goes through this one function.
-/

namespace SeriesChart

/-! ### The four ways -/

/-- Which whole number a fraction goes to. -/
inductive Rounding where
  | down
  | up
  | towardZero
  | nearestEven
  deriving DecidableEq, Repr

/-- The quotient as a whole number, rounded in the given way. The denominator is positive wherever
this is called, so that `/` goes down and `%` is not negative. -/
def Rounding.quotient (rounding : Rounding) (numerator : Int) (denominator : Nat) : Int :=
  let floor := numerator / denominator
  let remainder := numerator % denominator
  match rounding with
  | .down => floor
  | .up => if remainder = 0 then floor else floor + 1
  | .towardZero => if numerator < 0 ∧ remainder ≠ 0 then floor + 1 else floor
  | .nearestEven =>
    if 2 * remainder < denominator then floor
    else if (denominator : Int) < 2 * remainder then floor + 1
    else if floor % 2 = 0 then floor else floor + 1

/-! ### No fraction goes further than its neighbours -/

theorem Rounding.floor_le_quotient (rounding : Rounding) (numerator : Int) (denominator : Nat) :
    numerator / denominator ≤ rounding.quotient numerator denominator := by
  cases rounding <;> simp only [Rounding.quotient] <;> (repeat' split) <;> omega

theorem Rounding.quotient_le_floor_add_one (rounding : Rounding) (numerator : Int)
    (denominator : Nat) :
    rounding.quotient numerator denominator ≤ numerator / denominator + 1 := by
  cases rounding <;> simp only [Rounding.quotient] <;> (repeat' split) <;> omega

/-- The nearest whole number is at most half a unit away. -/
theorem Rounding.nearestEven_within (numerator : Int) (denominator : Nat)
    (positive : 0 < denominator) :
    2 * (denominator * Rounding.nearestEven.quotient numerator denominator - numerator) ≤
        denominator ∧
      -(denominator : Int) ≤
        2 * (denominator * Rounding.nearestEven.quotient numerator denominator - numerator) := by
  have division := Int.mul_ediv_add_emod numerator denominator
  have nonnegative : 0 ≤ numerator % denominator := Int.emod_nonneg numerator (by omega)
  have bounded : numerator % denominator < denominator := Int.emod_lt_of_pos numerator (by omega)
  simp only [Rounding.quotient]
  (repeat' split) <;> (try rw [Int.mul_add, Int.mul_one]) <;> omega

end SeriesChart
