/-
This file holds arrays of floats with any number of directions. An array is made of nested
lists, which must agree in form: on each level all lists are equally long, and numbers
stand on the innermost level only.
-/

import SeriesChart.Fault

namespace SeriesChart

/-! ### Nested lists -/

/-- Numbers in lists in lists. -/
inductive Nested where
  | leaf (value : Float)
  | list (members : List Nested)
  deriving Inhabited

/-- How many members the lists have level by level, as far as all of them agree, and whether they
agree down to the numbers. -/
structure NestedForm where
  shape : List Nat
  isRegular : Bool
  deriving DecidableEq, Repr

/-- The common part of two lists of sizes. -/
def commonSizes : List Nat → List Nat → List Nat
  | first :: firstRest, second :: secondRest =>
    if first = second then first :: commonSizes firstRest secondRest else []
  | _, _ => []

/-- What two forms have in common. -/
def NestedForm.meet (first second : NestedForm) : NestedForm where
  shape := commonSizes first.shape second.shape
  isRegular := first.isRegular && second.isRegular && first.shape = second.shape

namespace Nested

mutual

/-- The form of nested lists. -/
def form : Nested → NestedForm
  | .leaf _ => ⟨[], true⟩
  | .list members =>
    let inner := formOfAll members
    { inner with shape := members.length :: inner.shape }

/-- What the forms of the members of a list have in common. -/
def formOfAll : List Nested → NestedForm
  | [] => ⟨[], true⟩
  | [member] => form member
  | member :: rest => (form member).meet (formOfAll rest)

end

mutual

/-- The numbers of nested lists from the first to the last. -/
def leaves : Nested → List Float
  | .leaf value => [value]
  | .list members => leavesOfAll members

/-- The numbers of all members of a list. -/
def leavesOfAll : List Nested → List Float
  | [] => []
  | member :: rest => leaves member ++ leavesOfAll rest

end

end Nested

/-! ### Arrays -/

/-- An array: its size along each direction, and its cells, those of the last direction side by
side. -/
structure Grid where
  shape : List Nat
  cells : Array Float

namespace Grid

/-- The number of cells of a shape. -/
def count (shape : List Nat) : Nat := shape.foldl (· * ·) 1

/-- The array of nested lists. -/
def ofNested (nested : Nested) : Except Fault Grid :=
  let form := nested.form
  if form.isRegular then .ok ⟨form.shape, nested.leaves.toArray⟩
  else .error (.invalid (.raggedArray form.shape))

/-- The number that an array without directions is. -/
def number? (grid : Grid) : Option Float :=
  match grid.shape with
  | [] => some (grid.cells.getD 0 0.0)
  | _ => none

/-- An array without directions as a float; others are refused. -/
def toFloat (grid : Grid) : Except Fault Float :=
  match grid.number? with
  | some number => .ok number
  | none => .error (.mistyped .numberOfArray)

theorem toFloat_cases (grid : Grid) :
    (∃ number, grid.toFloat = .ok number) ∨ grid.toFloat = .error (.mistyped .numberOfArray) := by
  unfold toFloat
  split
  · exact Or.inl ⟨_, rfl⟩
  · exact Or.inr rfl

/-- The arrays along the first direction. -/
def rows (grid : Grid) : List Grid :=
  match grid.shape with
  | [] => []
  | size :: rest =>
    (List.range size).map fun index =>
      ⟨rest, grid.cells.extract (index * count rest) ((index + 1) * count rest)⟩

/-! ### Truth -/

/-- An array counts as a truth value when it has one cell, whose property then decides. -/
def decideBy (grid : Grid) (property : Float → Bool) : Except Fault Bool :=
  match grid.cells.toList with
  | [] => .error (.invalid .truthOfEmptyArray)
  | [cell] => .ok (property cell)
  | _ => .error (.invalid .truthOfArray)

/-- A truth value is that of the only cell. -/
theorem exists_cell_of_decideBy {grid : Grid} {property : Float → Bool} {answer : Bool}
    (decided : grid.decideBy property = .ok answer) :
    ∃ cell, grid.cells.toList = [cell] ∧ property cell = answer := by
  unfold decideBy at decided
  split at decided
  · cases decided
  · rename_i cell only
    exact ⟨cell, only, Except.ok.inj decided⟩
  · cases decided

/-- An array that is a number is its only cell. -/
theorem eq_of_toFloat {grid : Grid} {cell number : Float} (only : grid.cells.toList = [cell])
    (read : grid.toFloat = .ok number) : number = cell := by
  unfold toFloat number? at read
  have first : grid.cells.getD 0 0.0 = cell := by
    rw [Array.getD_eq_getD_getElem?, ← Array.getElem?_toList, only]
    rfl
  rw [first] at read
  split at read
  · rename_i found
    split at found
    · cases found
      cases read
      rfl
    · cases found
  · cases read

end Grid

end SeriesChart
