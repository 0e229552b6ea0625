/-
This file tells which point is found near a position. The search goes through the distances
once and keeps the first of the least among those it has seen; only the distance that is kept in
the end is held against the limit. A distance that is no number is kept as soon as it is met, and
as it is not below any limit nothing is found then.
-/

import SeriesChart.Proofs.Number.Order
import SeriesChart.Proofs.Plot.Placement

namespace SeriesChart.Plot

/-! ### The first of the least -/

/-- A number stands at an index of a list, none of the list is below it, and all before it are above
it. -/
structure IsFirstLeast (numbers : List Float) (least : Float) (index : ℕ) : Prop where
  found : numbers[index]? = some least
  notBelow : ∀ number ∈ numbers, ¬number < least
  before : ∀ earlier number, earlier < index → numbers[earlier]? = some number → least < number

theorem isFirstLeast_single (number : Float) : IsFirstLeast [number] number 0 where
  found := rfl
  notBelow other known := by
    rw [List.mem_singleton.mp known]
    exact not_lt_self number
  before earlier _ none := absurd none (Nat.not_lt_zero earlier)

section Scan

variable {seen : List Float} {least number : Float} {index : ℕ}
  (isFirstLeast : IsFirstLeast seen least index)

include isFirstLeast

theorem IsFirstLeast.index_lt : index < seen.length :=
  (List.getElem?_eq_some_iff.mp isFirstLeast.found).1

theorem IsFirstLeast.mem : least ∈ seen := List.mem_of_getElem? isFirstLeast.found

/-- The next number is kept if it is below the least one so far. -/
theorem IsFirstLeast.replaced (numbers : ∀ number ∈ seen, number.isNaN = false)
    (below : number < least) : IsFirstLeast (seen ++ [number]) number seen.length where
  found := List.getElem?_concat_length
  notBelow other known := by
    obtain known | known := List.mem_append.mp known
    · exact fun lower => isFirstLeast.notBelow other known (lt_of_below_of_below lower below)
    · rw [List.mem_singleton.mp known]
      exact not_lt_self number
  before earlier other inside placed := by
    rw [List.getElem?_append_left inside] at placed
    have known := List.mem_of_getElem? placed
    exact lt_of_below (numbers other known) below (isFirstLeast.notBelow other known)

/-- Otherwise the least one so far is kept. -/
theorem IsFirstLeast.kept (notBelow : ¬number < least) :
    IsFirstLeast (seen ++ [number]) least index where
  found := by
    rw [List.getElem?_append_left isFirstLeast.index_lt]
    exact isFirstLeast.found
  notBelow other known := by
    obtain known | known := List.mem_append.mp known
    · exact isFirstLeast.notBelow other known
    · rw [List.mem_singleton.mp known]
      exact notBelow
  before earlier other less placed := by
    rw [List.getElem?_append_left (less.trans isFirstLeast.index_lt)] at placed
    exact isFirstLeast.before earlier other less placed

/-- There is only one first among the least. -/
theorem IsFirstLeast.index_eq {other : Float} {otherIndex : ℕ}
    (alsoFirst : IsFirstLeast seen other otherIndex) : index = otherIndex := by
  rcases Nat.lt_trichotomy index otherIndex with earlier | same | later
  · exact absurd (alsoFirst.before index least earlier isFirstLeast.found)
      (isFirstLeast.notBelow other alsoFirst.mem)
  · exact same
  · exact absurd (isFirstLeast.before otherIndex other later alsoFirst.found)
      (alsoFirst.notBelow least isFirstLeast.mem)

end Scan

/-- The scan ends with the first of the least numbers, if all of them are numbers. -/
theorem isFirstLeast_leastFrom (rest : List Float) {seen : List Float} {least : Float} {index : ℕ}
    (isFirstLeast : IsFirstLeast seen least index)
    (numbers : ∀ number ∈ seen ++ rest, number.isNaN = false) :
    IsFirstLeast (seen ++ rest) (leastFrom least index seen.length rest).1
      (leastFrom least index seen.length rest).2 := by
  induction rest generalizing seen least index with
  | nil =>
    rw [List.append_nil]
    exact isFirstLeast
  | cons number rest inductionHypothesis =>
    have seenNumbers (other : Float) (known : other ∈ seen) : other.isNaN = false :=
      numbers other (List.mem_append_left _ known)
    have isNumber : number.isNaN = false :=
      numbers number (List.mem_append_right _ List.mem_cons_self)
    have leastIsNumber := seenNumbers least isFirstLeast.mem
    rw [List.append_cons] at numbers ⊢
    have next : (seen ++ [number]).length = seen.length + 1 := List.length_append
    unfold leastFrom
    rw [leastIsNumber, isNumber, Bool.false_or, if_neg Bool.false_ne_true, ← next]
    split
    · rename_i below
      exact inductionHypothesis (isFirstLeast.replaced seenNumbers (of_decide_eq_true below))
        numbers
    · rename_i notBelow
      exact inductionHypothesis
        (isFirstLeast.kept fun below => notBelow (decide_eq_true below)) numbers

/-- The scan ends with what is no number as soon as there is such a thing. -/
theorem isNaN_leastFrom (least : Float) (leastIndex index : ℕ) (rest : List Float)
    (undefined : least.isNaN = true ∨ ∃ number ∈ rest, number.isNaN = true) :
    (leastFrom least leastIndex index rest).1.isNaN = true := by
  fun_induction leastFrom least leastIndex index rest with
  | case1 least =>
    obtain undefined | ⟨number, known, -⟩ := undefined
    · exact undefined
    · cases known
  | case2 least leastIndex index number rest isNaN => exact isNaN
  | case3 least leastIndex index number rest notNaN taken inductionHypothesis =>
    refine inductionHypothesis ?_
    obtain undefined | ⟨other, known, undefined⟩ := undefined
    · exact absurd undefined notNaN
    · obtain rfl | known := List.mem_cons.mp known
      · exact Or.inl undefined
      · exact Or.inr ⟨other, known, undefined⟩
  | case4 least leastIndex index number rest notNaN left inductionHypothesis =>
    refine inductionHypothesis ?_
    obtain undefined | ⟨other, known, undefined⟩ := undefined
    · exact absurd undefined notNaN
    · obtain rfl | known := List.mem_cons.mp known
      · exact absurd (by rw [undefined, Bool.true_or]) left
      · exact Or.inr ⟨other, known, undefined⟩

/-! ### The nearest of some distances -/

section Distances

variable {distances : List Float} (limit : Float)

/-- The nearest distance is found if it is below the limit: the first of the least. -/
theorem nearestOf_eq_some_iff (numbers : ∀ distance ∈ distances, distance.isNaN = false)
    (index : ℕ) :
    nearestOf limit distances = some index ↔
      ∃ least, IsFirstLeast distances least index ∧ least < limit := by
  cases distances with
  | nil =>
    refine iff_of_false (fun found => by cases found) ?_
    rintro ⟨least, isFirstLeast, -⟩
    cases isFirstLeast.found
  | cons first rest =>
    have isFirstLeast := isFirstLeast_leastFrom rest (isFirstLeast_single first) numbers
    change IsFirstLeast (first :: rest) (leastFrom first 0 1 rest).1
      (leastFrom first 0 1 rest).2 at isFirstLeast
    show (if (leastFrom first 0 1 rest).1 < limit then some (leastFrom first 0 1 rest).2
      else none) = some index ↔ _
    constructor
    · intro found
      split at found
      · rename_i below
        cases found
        exact ⟨_, isFirstLeast, below⟩
      · cases found
    · rintro ⟨least, alsoFirst, below⟩
      obtain rfl := isFirstLeast.index_eq alsoFirst
      have same : some (leastFrom first 0 1 rest).1 = some least :=
        isFirstLeast.found.symm.trans alsoFirst.found
      rw [Option.some_inj.mp same, if_pos below]

/-- Nothing is found just when no distance is below the limit. -/
theorem nearestOf_eq_none_iff (numbers : ∀ distance ∈ distances, distance.isNaN = false) :
    nearestOf limit distances = none ↔ ∀ distance ∈ distances, ¬distance < limit := by
  cases distances with
  | nil => exact iff_of_true rfl fun _ known => by cases known
  | cons first rest =>
    have isFirstLeast := isFirstLeast_leastFrom rest (isFirstLeast_single first) numbers
    change IsFirstLeast (first :: rest) (leastFrom first 0 1 rest).1
      (leastFrom first 0 1 rest).2 at isFirstLeast
    show (if (leastFrom first 0 1 rest).1 < limit then some (leastFrom first 0 1 rest).2
      else none) = none ↔ _
    constructor
    · intro none distance known below
      have leastBelow := lt_of_not_below (numbers _ isFirstLeast.mem)
        (isFirstLeast.notBelow distance known) below
      rw [if_pos leastBelow] at none
      cases none
    · exact fun noneBelow => if_neg (noneBelow _ isFirstLeast.mem)

/-- Nothing is found if some distance is no number. -/
theorem nearestOf_of_isNaN (undefined : ∃ distance ∈ distances, distance.isNaN = true) :
    nearestOf limit distances = none := by
  cases distances with
  | nil =>
    obtain ⟨distance, known, -⟩ := undefined
    cases known
  | cons first rest =>
    have isNaN : (leastFrom first 0 1 rest).1.isNaN = true := by
      refine isNaN_leastFrom first 0 1 rest ?_
      obtain ⟨distance, known, undefined⟩ := undefined
      obtain rfl | known := List.mem_cons.mp known
      · exact Or.inl undefined
      · exact Or.inr ⟨distance, known, undefined⟩
    refine if_neg fun below => ?_
    rw [(isNaN_of_lt below).1] at isNaN
    cases isNaN

end Distances

/-! ### The nearest point -/

/-- How far a position is from the place where a point is shown. -/
def distanceTo (plot : Plot Float) (x y : Float) (point : Point) : Float :=
  hypotenuse (plot.columnOf point.timestamp - x) (plot.rowOf point.value - y)

theorem distances_eq_map (plot : Plot Float) (series : Series) (x y : Float) :
    plot.distances series x y = series.points.map (plot.distanceTo x y) := by
  unfold distances
  rw [places_eq_map, List.map_map]
  rfl

/-- The point that is found is nearer than the limit, no point is nearer than it, and all points
before it are farther. Nothing is found just when there is no point nearer than the limit. As soon
as some distance is no number nothing is found, however near the other points are. The position may
be given by any values that read as floats. -/
theorem nearestIndex_iff (plot : Plot Float) (series : Series) (x y limit : Float) :
    ((∀ point ∈ series.points, (plot.distanceTo x y point).isNaN = false) →
      (∀ index, plot.nearestIndex series x y limit = some index ↔
        ∃ point, series.points[index]? = some point ∧ plot.distanceTo x y point < limit ∧
          (∀ other ∈ series.points, ¬plot.distanceTo x y other < plot.distanceTo x y point) ∧
          ∀ earlier other, earlier < index → series.points[earlier]? = some other →
            plot.distanceTo x y point < plot.distanceTo x y other) ∧
      (plot.nearestIndex series x y limit = none ↔
        series.isEmpty = true ∨
          ∀ point ∈ series.points, ¬plot.distanceTo x y point < limit)) ∧
    ((∃ point ∈ series.points, (plot.distanceTo x y point).isNaN = true) →
      plot.nearestIndex series x y limit = none) ∧
    ∀ across down : Value, across.toFloat = .ok x → down.toFloat = .ok y →
      plot.nearestIndexAt series across down (.float limit) =
        .ok (plot.nearestIndex series x y limit) := by
  unfold nearestIndex
  rw [distances_eq_map]
  refine ⟨fun numbers => ⟨fun index => ?_, ?_⟩, fun undefined => ?_, ?_⟩
  · rw [nearestOf_eq_some_iff limit (List.forall_mem_map.mpr numbers)]
    constructor
    · rintro ⟨least, ⟨found, notBelow, before⟩, below⟩
      rw [List.getElem?_map, Option.map_eq_some_iff] at found
      obtain ⟨point, placed, rfl⟩ := found
      refine ⟨point, placed, below,
        fun other known => notBelow _ (List.mem_map_of_mem known), ?_⟩
      intro earlier other less otherPlaced
      exact before earlier _ less (by rw [List.getElem?_map, otherPlaced, Option.map_some])
    · rintro ⟨point, placed, below, notBelow, before⟩
      refine ⟨_, ⟨?_, List.forall_mem_map.mpr notBelow, ?_⟩, below⟩
      · rw [List.getElem?_map, placed, Option.map_some]
      · intro earlier number less otherPlaced
        rw [List.getElem?_map, Option.map_eq_some_iff] at otherPlaced
        obtain ⟨other, otherPlaced, rfl⟩ := otherPlaced
        exact before earlier other less otherPlaced
  · rw [nearestOf_eq_none_iff limit (List.forall_mem_map.mpr numbers), List.forall_mem_map]
    refine (or_iff_right_of_imp fun empty point known => ?_).symm
    rw [List.isEmpty_iff.mp empty] at known
    cases known
  · obtain ⟨point, known, isNaN⟩ := undefined
    exact nearestOf_of_isNaN limit ⟨_, List.mem_map_of_mem known, isNaN⟩
  · intro across down acrossRead downRead
    unfold nearestIndexAt
    rw [acrossRead, downRead, Value.toLimit_float]
    split
    · rename_i empty
      rw [List.isEmpty_iff.mp empty]
      rfl
    · show Except.ok (plot.nearestIndex series x y limit) = _
      unfold nearestIndex
      rw [distances_eq_map]

/-- Two points at the two sides of a position are equally near: the first is found, unless the
limit is their distance. -/
theorem nearestIndex_between :
    let plot : Plot Float := ⟨⟨0.0, 2.0, 0.0, 2.0⟩, ⟨0.0, 0.0, 2.0, 2.0⟩⟩
    let series : Series := ⟨[⟨0.0, 2.0⟩, ⟨2.0, 2.0⟩]⟩
    plot.nearestIndex series 1.0 0.0 2.0 = some 0 ∧
      plot.nearestIndex series 1.0 0.0 1.0 = none := by
  intro plot series
  have numbers : ∀ point ∈ series.points, (plot.distanceTo 1.0 0.0 point).isNaN = false := by
    decide +kernel
  refine ⟨(((nearestIndex_iff plot series 1.0 0.0 2.0).1 numbers).1 0).mpr
    ⟨⟨0.0, 2.0⟩, rfl, by decide +kernel, by decide +kernel, ?_⟩,
    ((nearestIndex_iff plot series 1.0 0.0 1.0).1 numbers).2.mpr (Or.inr (by decide +kernel))⟩
  exact fun earlier other none => absurd none (Nat.not_lt_zero earlier)

end SeriesChart.Plot
