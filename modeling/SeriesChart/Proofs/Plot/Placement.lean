/-
This file proves that points and ticks are placed on floats of ordinary size. The extent
of a series covers all of its points, so what a point is shown at is a proportion of the
plot; a tick may lie outside, but by no more than a number of times the whole extent. So
no place overflows as long as the numbers of the chart do not.
-/

import SeriesChart.Plot.Ticks
import SeriesChart.Proofs.Number.Magnitude
import SeriesChart.Scene.Marks

namespace SeriesChart

/-! ### Numbers of ordinary size -/

/-- The size of the numbers that a chart may show. -/
def dataSize : ℤ := 900

/-- The size of the numbers of a canvas. -/
def canvasSize : ℤ := 100

/-- The times and the values of a series are of ordinary size. -/
def Series.IsModerate (series : Series) : Prop :=
  ∀ point ∈ series.points, Within dataSize point.timestamp ∧ Within dataSize point.value

/-! ### Extents -/

/-- The extent is of ordinary size, and all points lie inside. -/
structure Extent.Covers (extent : Extent Float) (points : List (Float × Float)) : Prop where
  minX : Within 902 extent.minX
  maxX : Within 902 extent.maxX
  minY : Within 902 extent.minY
  maxY : Within 902 extent.maxY
  inX : ∀ point ∈ points, worth extent.minX ≤ worth point.1 ∧ worth point.1 ≤ worth extent.maxX
  inY : ∀ point ∈ points, worth extent.minY ≤ worth point.2 ∧ worth point.2 ≤ worth extent.maxY

theorem within_standardHeadroom : Within 0 (Extent.standardHeadroom : Float) :=
  within_of_fitsSize (by decide)

theorem standardHeadroom_nonneg : 0 ≤ worth (Extent.standardHeadroom : Float) := by
  rw [← worth_zero]
  exact (le_iff_worth (by decide) within_standardHeadroom.finite).mp (by decide)

/-- What is left as headroom is a magnitude. -/
theorem headroom_spec {number : Float} (within : Within dataSize number) :
    Within dataSize (Scalar.magnitude number * Extent.standardHeadroom) ∧
      0 ≤ worth (Scalar.magnitude number * Extent.standardHeadroom) := by
  have magnitude : Within dataSize number.abs := by
    refine ⟨(isFinite_abs number).trans within.finite, ?_⟩
    rw [worth_abs, abs_abs]
    exact within.le
  have product := within_mul magnitude within_standardHeadroom (by decide) (by decide)
  have exact : 0 ≤ worth number.abs * worth (Extent.standardHeadroom : Float) := by
    rw [worth_abs]
    exact mul_nonneg (abs_nonneg _) standardHeadroom_nonneg
  have close := (isNear_mul magnitude.finite within_standardHeadroom.finite).isClose
    ?_
  · exact ⟨product.mono (by decide), close.ge 0 isRepresentable_zero exact⟩
  · rw [abs_mul]
    refine (mul_le_mul magnitude.le within_standardHeadroom.le (abs_nonneg _)
      (two_zpow_pos _).le).trans ?_
    rw [← two_zpow_add]
    exact two_zpow_le (by decide)

/-- The smallest of numbers of ordinary size, lowered by its headroom. -/
theorem lowered_spec {number : Float} (within : Within dataSize number) :
    Within 902 (number - Scalar.magnitude number * Extent.standardHeadroom) ∧
      worth (number - Scalar.magnitude number * Extent.standardHeadroom) ≤ worth number := by
  obtain ⟨room, nonnegative⟩ := headroom_spec within
  have lowered := within_sub within room (by decide) (by decide)
  have close := (isNear_sub within.finite room.finite).isClose
    (abs_sub_le_of_within within room (by decide))
  exact ⟨lowered.mono (by decide), close.le _ (isRepresentable_worth number) (by linarith)⟩

theorem raised_spec {number : Float} (within : Within dataSize number) :
    Within 902 (number + Scalar.magnitude number * Extent.standardHeadroom) ∧
      worth number ≤ worth (number + Scalar.magnitude number * Extent.standardHeadroom) := by
  obtain ⟨room, nonnegative⟩ := headroom_spec within
  have raised := within_add within room (by decide) (by decide)
  have close := (isNear_add within.finite room.finite).isClose
    (abs_add_le_of_within within room (by decide))
  exact ⟨raised.mono (by decide), close.ge _ (isRepresentable_worth number) (by linarith)⟩

/-- The extent of points of ordinary size covers them. -/
theorem Extent.covers {points : List (Float × Float)} {extent : Extent Float}
    (moderate : ∀ point ∈ points, Within dataSize point.1 ∧ Within dataSize point.2)
    (made : Extent.ofPoints points Extent.standardHeadroom = some extent) :
    extent.Covers points := by
  cases points with
  | nil => cases made
  | cons first rest =>
    cases made
    have times : ∀ number ∈ first.1 :: rest.map Prod.fst, Within dataSize number := by
      intro number known
      obtain ⟨point, pointKnown, rfl⟩ :=
        List.mem_map.mp (show number ∈ (first :: rest).map Prod.fst from known)
      exact (moderate point pointKnown).1
    have values : ∀ number ∈ first.2 :: rest.map Prod.snd, Within dataSize number := by
      intro number known
      obtain ⟨point, pointKnown, rfl⟩ :=
        List.mem_map.mp (show number ∈ (first :: rest).map Prod.snd from known)
      exact (moderate point pointKnown).2
    obtain ⟨earliestMem, earliest⟩ := smallest_spec fun number known => (times number known).finite
    obtain ⟨latestMem, latest⟩ := largest_spec fun number known => (times number known).finite
    obtain ⟨lowestMem, lowest⟩ := smallest_spec fun number known => (values number known).finite
    obtain ⟨highestMem, highest⟩ := largest_spec fun number known => (values number known).finite
    have lowered := lowered_spec (values _ lowestMem)
    have raised := raised_spec (values _ highestMem)
    refine ⟨(times _ earliestMem).mono (by decide), (times _ latestMem).mono (by decide),
      lowered.1, raised.1, fun point known => ?_, fun point known => ?_⟩
    · have isTime : point.1 ∈ first.1 :: rest.map Prod.fst :=
        List.mem_map_of_mem (f := Prod.fst) known
      exact ⟨earliest _ isTime, latest _ isTime⟩
    · have isValue : point.2 ∈ first.2 :: rest.map Prod.snd :=
        List.mem_map_of_mem (f := Prod.snd) known
      exact ⟨lowered.2.trans (lowest _ isValue), (highest _ isValue).trans raised.2⟩

/-! ### Ticks -/

section Ticks

variable {start stop : Float} (startWithin : Within 902 start) (stopWithin : Within 902 stop)
  (different : worth start ≠ worth stop)

include startWithin stopWithin different

/-- The length between two floats is met up to a small part of it, and it is no zero. -/
theorem length_spec : Within 903 (stop - start) ∧
    |worth (stop - start)| ≤ 2 * |worth stop - worth start| ∧
    2 ^ leastExponent ≤ |worth (stop - start)| := by
  have within := within_sub stopWithin startWithin (by decide) (by decide)
  have close := (isNear_sub stopWithin.finite startWithin.finite).isClose
    (abs_sub_le_of_within stopWithin startWithin (by decide))
  have multiple := (isMultiple_worth stop).sub (isMultiple_worth start)
  have half := close.half_le multiple
  have apart : worth stop - worth start ≠ 0 := sub_ne_zero.mpr different.symm
  refine ⟨within, close.le_double multiple, (isMultiple_worth _).place_le fun zero => ?_⟩
  rw [zero, abs_zero, mul_zero] at half
  exact apart (abs_nonpos_iff.mp half)

end Ticks

/-- A quarter of a length, some times over, as the ticks compute it. -/
def quarters (length : Float) (index : ℕ) : Float :=
  if Scalar.same (length / Float.ofNat 4) Scalar.zero then
    Float.ofNat index / Float.ofNat 4 * length
  else Float.ofNat index * (length / Float.ofNat 4)

theorem evenlySpaced_standard (start stop : Float) :
    evenlySpaced start stop standardTickCount =
      (List.range 4).map (fun index => quarters (stop - start) index + start) ++ [stop] := rfl

/-- Some quarters of a length are at most some times the length, which is one place at least. -/
theorem quarters_spec {length : Float} (within : Within 903 length)
    (place : 2 ^ leastExponent ≤ |worth length|) {index : ℕ} (small : index < 4) :
    (quarters length index).isFinite = true ∧
      |worth (quarters length index)| ≤ 17 * |worth length| := by
  obtain ⟨fourFinite, four⟩ := worth_ofNat (by decide : 4 < 2 ^ 53)
  obtain ⟨indexFinite, exact⟩ := worth_ofNat (by omega : index < 2 ^ 53)
  have nonnegative := abs_nonneg (worth length)
  have indexSmall : |worth (Float.ofNat index)| ≤ 4 := by
    rw [exact, Nat.abs_cast]
    exact_mod_cast small.le
  have fourNonzero : worth (Float.ofNat 4) ≠ 0 := by
    rw [four]
    norm_num
  have room : 8 * |worth length| ≤ 2 ^ roomSize := by
    have eight : (8 : ℚ) = 2 ^ (3 : ℤ) := by norm_num
    rw [eight]
    refine (mul_le_mul_of_nonneg_left within.le (two_zpow_pos 3).le).trans ?_
    rw [← two_zpow_add]
    exact two_zpow_le (by decide)
  unfold quarters
  split
  -- When a quarter of the length is too small for a float, the index is divided instead.
  · have part : Within 0 (Float.ofNat index / Float.ofNat 4) := by
      refine within_div indexFinite fourFinite fourNonzero ?_ (by decide) (by decide)
      rw [four, zpow_zero, one_mul]
      exact indexSmall.trans (by norm_num)
    have product : |worth (Float.ofNat index / Float.ofNat 4) * worth length| ≤ |worth length| := by
      rw [abs_mul]
      exact mul_le_of_le_one_left nonnegative (part.le.trans_eq (zpow_zero 2))
    have close := (isNear_mul part.finite within.finite).isClose
      (product.trans (by linarith))
    exact ⟨close.finite, by linarith [close.le_double_add]⟩
  · have quarter : |worth length / worth (Float.ofNat 4)| = |worth length| / 4 := by
      rw [four, abs_div]
      norm_num
    have quarterClose := (isNear_div within.finite fourFinite fourNonzero).isClose (by
      rw [quarter]
      linarith)
    have step : |worth (length / Float.ofNat 4)| ≤ 2 * |worth length| := by
      have gained := quarterClose.le_double_add
      rw [quarter] at gained
      linarith
    have product : |worth (Float.ofNat index) * worth (length / Float.ofNat 4)| ≤
        8 * |worth length| := by
      rw [abs_mul]
      have both := mul_le_mul indexSmall step (abs_nonneg _) (by norm_num)
      linarith
    have close := (isNear_mul indexFinite quarterClose.finite).isClose
      (product.trans room)
    exact ⟨close.finite, by linarith [close.le_double_add]⟩

/-- A tick is of ordinary size, and it lies outside the extent by no more than some times the whole
extent. -/
theorem tick_spec {start stop : Float} (startWithin : Within 902 start)
    (stopWithin : Within 902 stop) (different : worth start ≠ worth stop) {tick : Float}
    (known : tick ∈ evenlySpaced start stop standardTickCount) :
    Within 910 tick ∧ |worth tick - worth start| ≤ 2 ^ (6 : ℤ) * |worth stop - worth start| := by
  have nonnegative := abs_nonneg (worth stop - worth start)
  have sixtyFour : (2 : ℚ) ^ (6 : ℤ) = 64 := by norm_num
  rw [sixtyFour]
  rw [evenlySpaced_standard, List.mem_append, List.mem_map, List.mem_singleton] at known
  obtain ⟨index, inRange, rfl⟩ | rfl := known
  · obtain ⟨length, double, place⟩ := length_spec startWithin stopWithin different
    obtain ⟨finite, small⟩ := quarters_spec length place (List.mem_range.mp inRange)
    have within : Within 908 (quarters (stop - start) index) := by
      refine ⟨finite, small.trans ?_⟩
      have parts : (2 : ℚ) ^ (908 : ℤ) = 32 * 2 ^ (903 : ℤ) := by
        rw [show (908 : ℤ) = 5 + 903 from rfl, two_zpow_add]
        norm_num
      rw [parts]
      exact (mul_le_mul_of_nonneg_right (by norm_num) (abs_nonneg _)).trans
        (mul_le_mul_of_nonneg_left length.le (by norm_num))
    have close := (isNear_add within.finite startWithin.finite).isClose
      (abs_add_le_of_within within (startWithin.mono (by decide)) (by decide))
    have error := close.error_of_isMultiple ((isMultiple_worth _).add (isMultiple_worth _))
    refine ⟨within_add (within.mono (by decide : (908 : ℤ) ≤ 909))
      (startWithin.mono (by decide : (902 : ℤ) ≤ 909)) (by decide) (by decide), ?_⟩
    -- The rounding of the sum is a part of the start, which is not much larger than the extent.
    have startSmall := abs_worth_le_of_ne different
    rw [abs_sub_comm (worth start)] at startSmall
    have sum := abs_add_le (worth (quarters (stop - start) index)) (worth start)
    have apart := abs_add_le (worth (quarters (stop - start) index + start) -
      (worth (quarters (stop - start) index) + worth start)) (worth (quarters (stop - start) index))
    rw [show worth (quarters (stop - start) index + start) -
        (worth (quarters (stop - start) index) + worth start) +
          worth (quarters (stop - start) index) =
        worth (quarters (stop - start) index + start) - worth start by ring] at apart
    linarith
  · exact ⟨stopWithin.mono (by decide), by linarith⟩

/-! ### Areas -/

/-- The area is of ordinary size. -/
structure PlotArea.IsModerate (area : PlotArea Float) : Prop where
  left : Within 102 area.left
  top : Within 102 area.top
  width : Within 102 area.width
  height : Within 102 area.height

theorem within_greatest_zero {number : Float} {size : ℤ} (within : Within size number) :
    Within size (Scalar.greatest Scalar.zero number) := by
  unfold Scalar.greatest
  split
  · exact within
  · exact within_of_fitsSize rfl

theorem isModerate_ofCanvas {width height : Float} (wide : Within canvasSize width)
    (tall : Within canvasSize height) : (PlotArea.ofCanvas width height .standard).IsModerate := by
  have inside {length before after : Float} (within : Within canvasSize length)
      (beforeWithin : Within canvasSize before) (afterWithin : Within 101 after) :
      Within 102 (Scalar.greatest Scalar.zero (length - before - after)) :=
    within_greatest_zero (within_sub (within_sub within beforeWithin (by decide) (by decide))
      afterWithin (by decide) (by decide))
  exact ⟨show Within 102 (Scalar.ofInt 50) from within_of_fitsSize (by decide),
    show Within 102 (Scalar.ofInt 20) from within_of_fitsSize (by decide),
    inside wide (within_of_fitsSize (by decide)) (within_of_fitsSize (by decide)),
    inside tall (within_of_fitsSize (by decide)) (within_of_fitsSize (by decide))⟩

theorem within_half {length : Float} (within : Within 102 length) :
    Within 102 (length / Scalar.ofInt 2) := by
  have finite : (Scalar.ofInt 2 : Float).isFinite = true := by rfl
  have two : worth (Scalar.ofInt 2 : Float) = (2 : ℕ) := (worth_ofNat (by decide)).2
  exact within_div_of_le 0 within finite (by rw [two]; norm_num) (by decide) (by decide)

namespace PlotArea.IsModerate

variable {area : PlotArea Float} (moderate : area.IsModerate)

include moderate

theorem right : Within 103 area.right :=
  within_add moderate.left moderate.width (by decide) (by decide)

theorem bottom : Within 103 area.bottom :=
  within_add moderate.top moderate.height (by decide) (by decide)

theorem centerX : Within 103 area.centerX :=
  within_add moderate.left (within_half moderate.width) (by decide) (by decide)

theorem centerY : Within 103 area.centerY :=
  within_add moderate.top (within_half moderate.height) (by decide) (by decide)

end PlotArea.IsModerate

/-- However many bars there are, each is of ordinary width. -/
theorem within_barWidth {area : PlotArea Float} (moderate : area.IsModerate) (count : ℕ) :
    Within 102 (barWidth area count) := by
  unfold barWidth
  split
  · exact within_of_fitsSize rfl
  · rename_i several
    have share : Within 102 (barShare * area.width) :=
      within_mul (show Within 0 (barShare : Float) from within_of_fitsSize (by decide))
        moderate.width (by decide) (by decide)
    obtain close | ⟨infinite, _⟩ := isNear_ofNat count
    · have one : 1 ≤ worth (Float.ofNat count) := by
        have unit := close.ge _ (isRepresentable_two_zpow (by decide : leastExponent ≤ 0))
        rw [zpow_zero] at unit
        exact unit (by exact_mod_cast (by omega : 1 ≤ count))
      have nonzero : worth (Float.ofNat count) ≠ 0 := by linarith
      refine within_div share.finite close.finite nonzero ?_ (by decide) (by decide)
      refine share.le.trans (le_mul_of_one_le_right (two_zpow_pos _).le ?_)
      exact one.trans (le_abs_self _)
    · exact within_div_of_isInf share.finite infinite 102

/-! ### Places -/

/-- The size of the places of a chart. -/
def placeSize : ℤ := 120

namespace Plot

theorem columnsOf_eq_map (plot : Plot Float) (timestamps : List Float) :
    plot.columnsOf timestamps = timestamps.map plot.columnOf := by
  unfold columnsOf columnOf
  dsimp only
  split <;> simp [*]

theorem rowsOf_eq_map (plot : Plot Float) (values : List Float) :
    plot.rowsOf values = values.map plot.rowOf := by
  unfold rowsOf rowOf
  dsimp only
  split <;> simp [*]

/-- Each point has its place. -/
theorem places_eq_map (plot : Plot Float) (series : Series) :
    plot.places series =
      series.points.map fun point => (plot.columnOf point.timestamp, plot.rowOf point.value) := by
  unfold places Series.timestamps Series.values
  rw [columnsOf_eq_map, rowsOf_eq_map, List.map_map, List.map_map, List.zip_map']
  rfl

/-- The plot shows points of ordinary size in an area of ordinary size. -/
structure IsModerate (plot : Plot Float) (points : List (Float × Float)) : Prop where
  covers : plot.extent.Covers points
  area : plot.area.IsModerate

variable {plot : Plot Float} {points : List (Float × Float)} (moderate : plot.IsModerate points)

include moderate

theorem within_columnOf {point : Float × Float} (known : point ∈ points)
    (within : Within dataSize point.1) : Within placeSize (plot.columnOf point.1) := by
  obtain ⟨after, before⟩ := moderate.covers.inX point known
  have minX := moderate.covers.minX
  have maxX := moderate.covers.maxX
  unfold columnOf
  dsimp only
  split
  · exact moderate.area.centerX.mono (by decide)
  · rename_i notFlat
    have different : worth plot.extent.minX ≠ worth plot.extent.maxX := fun same =>
      notFlat ((same_iff_worth maxX.finite minX.finite).mpr same.symm)
    have time : Within 902 point.1 := within.mono (by decide)
    have part := within_sub time minX (by decide) (by decide)
    have proportion := within_proportion moderate.area.width time minX maxX (by decide) (by decide)
      (by decide) (by decide : (0 : ℤ) ≤ 102 + 0) (by decide) different (by
        rw [zpow_zero, one_mul, abs_of_nonneg (by linarith), abs_of_nonneg (by linarith)]
        linarith) (isNear_mul moderate.area.width.finite part.finite)
    exact (within_add (moderate.area.left.mono (by decide)) proportion (by decide)
      (by decide)).mono (by decide)

theorem within_rowOf {value : Float} (within : Within 910 value)
    (near : |worth value - worth plot.extent.minY| ≤
      2 ^ (6 : ℤ) * |worth plot.extent.maxY - worth plot.extent.minY|) :
    Within placeSize (plot.rowOf value) := by
  have minY := moderate.covers.minY
  have maxY := moderate.covers.maxY
  unfold rowOf
  dsimp only
  split
  · exact moderate.area.centerY.mono (by decide)
  · rename_i notFlat
    have different : worth plot.extent.minY ≠ worth plot.extent.maxY := fun same =>
      notFlat ((same_iff_worth maxY.finite minY.finite).mpr same.symm)
    have low : Within 910 plot.extent.minY := minY.mono (by decide)
    have part := within_sub within low (by decide) (by decide)
    have proportion := within_proportion moderate.area.height within low (maxY.mono (by decide))
      (by decide) (by decide) (by decide) (by decide) (by decide) different near
      (isNear_mul moderate.area.height.finite part.finite)
    exact (within_sub (moderate.area.bottom.mono (by decide)) proportion (by decide)
      (by decide)).mono (by decide)

theorem within_rowOf_point {point : Float × Float} (known : point ∈ points)
    (within : Within dataSize point.2) : Within placeSize (plot.rowOf point.2) := by
  obtain ⟨above, below⟩ := moderate.covers.inY point known
  refine within_rowOf moderate (within.mono (by decide)) ?_
  have scale : (1 : ℚ) ≤ 2 ^ (6 : ℤ) := by norm_num
  rw [abs_of_nonneg (by linarith), abs_of_nonneg (by linarith)]
  refine le_trans (by linarith) (le_mul_of_one_le_left ?_ scale)
  linarith

/-- The ticks of the values have places. -/
theorem within_rowOf_tick {value : Float}
    (known : value ∈ plot.extent.ticks standardTickCount) :
    Within placeSize (plot.rowOf value) ∧ Within 910 value := by
  have minY := moderate.covers.minY
  have maxY := moderate.covers.maxY
  unfold Extent.ticks at known
  split at known
  · obtain rfl := List.mem_singleton.mp known
    have within : Within 910 plot.extent.minY := minY.mono (by decide)
    refine ⟨within_rowOf moderate within ?_, within⟩
    rw [sub_self, abs_zero]
    exact mul_nonneg (two_zpow_pos _).le (abs_nonneg _)
  · rename_i several
    have different : worth plot.extent.minY ≠ worth plot.extent.maxY := fun same => by
      refine several ?_
      rw [Bool.or_eq_true]
      exact Or.inl ((same_iff_worth maxY.finite minY.finite).mpr same.symm)
    obtain ⟨within, near⟩ := tick_spec minY maxY different known
    exact ⟨within_rowOf moderate within near, within⟩

end Plot

end SeriesChart
