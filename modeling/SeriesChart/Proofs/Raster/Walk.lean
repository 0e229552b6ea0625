/-
This file tells where the walk along a segment goes. With every step the walk moves by one pixel
along the longer extent, and along the shorter one it moves as soon as the ideal line has come to
the middle between two pixels. What the walker keeps is one number: how far the two movements
together have strayed from the ideal line. The next step is told by it alone, which is why the walk
comes to the end of the segment and stops there without counting its steps.
-/

import Mathlib
import SeriesChart.Raster.Stroke

namespace SeriesChart

/-! ### Movements along an extent -/

/-- How far the first `count` of `major` steps have moved along an extent: to the pixel nearest to
the ideal line, or the farther one of two that are equally near. -/
def moved (major extent : ℤ) (count : ℕ) : ℤ := (2 * count * extent + major) / (2 * major)

section Movements

variable {major : ℤ} (positive : 0 < major)

include positive

/-- The ideal line is less than half a pixel before the pixel that is reached, or is half a pixel
or less behind it. -/
theorem moved_bounds (extent : ℤ) (count : ℕ) :
    2 * major * moved major extent count ≤ 2 * count * extent + major ∧
      2 * count * extent + major < 2 * major * (moved major extent count + 1) := by
  have twice : 0 < 2 * major := by omega
  have exact := Int.mul_ediv_add_emod (2 * count * extent + major) (2 * major)
  have nonneg := Int.emod_nonneg (2 * count * extent + major) twice.ne'
  have less := Int.emod_lt_of_pos (2 * count * extent + major) twice
  unfold moved
  constructor <;> linarith

/-- No other number lies within the bounds. -/
theorem moved_eq {extent place : ℤ} {count : ℕ}
    (reached : 2 * major * place ≤ 2 * count * extent + major)
    (last : 2 * count * extent + major < 2 * major * (place + 1)) :
    moved major extent count = place := by
  have twice : 0 < 2 * major := by omega
  refine le_antisymm (Int.lt_add_one_iff.mp ?_) ?_
  · exact Int.ediv_lt_of_lt_mul twice (by linarith)
  · exact (Int.le_ediv_iff_mul_le twice).mpr (by linarith)

theorem moved_nothing (count : ℕ) : moved major 0 count = 0 :=
  moved_eq positive (by linarith) (by linarith)

theorem moved_zero (extent : ℤ) : moved major extent 0 = 0 :=
  moved_eq positive (by push_cast; linarith) (by push_cast; linarith)

/-- Along the longer extent every step moves by one. -/
theorem moved_major (count : ℕ) : moved major major count = count :=
  moved_eq positive (by linarith) (by linarith)

/-- After as many steps as the longer extent has the whole of an extent is behind. -/
theorem moved_all {extent : ℤ} {count : ℕ} (all : (count : ℤ) = major) :
    moved major extent count = extent :=
  moved_eq positive (by rw [all]; linarith) (by rw [all]; linarith)

/-- More steps do not move less, and not by more than there are of them. -/
theorem abs_moved_sub_moved_le {extent : ℤ} (nonneg : 0 ≤ extent) (shorter : extent ≤ major)
    {first second : ℕ} (order : first ≤ second) :
    |moved major extent second - moved major extent first| ≤ second - first := by
  obtain ⟨firstReached, firstLast⟩ := moved_bounds positive extent first
  obtain ⟨secondReached, secondLast⟩ := moved_bounds positive extent second
  have forward : (0 : ℤ) ≤ second - first := by omega
  have way : 0 ≤ ((second : ℤ) - first) * extent := mul_nonneg forward nonneg
  have longest : ((second : ℤ) - first) * extent ≤ ((second : ℤ) - first) * major :=
    mul_le_mul_of_nonneg_left shorter forward
  have notBack : moved major extent first < moved major extent second + 1 := by
    refine lt_of_mul_lt_mul_left (a := 2 * major) ?_ (by omega)
    linarith
  have notBeyond : moved major extent second < moved major extent first + 1 + (second - first) := by
    refine lt_of_mul_lt_mul_left (a := 2 * major) ?_ (by omega)
    linarith
  rw [abs_of_nonneg (by omega)]
  omega

/-- The place that is reached is within half a pixel of the ideal line. -/
theorem abs_moved_sub_le (extent : ℤ) (count : ℕ) :
    |(moved major extent count : ℚ) - count * extent / major| ≤ 1 / 2 := by
  obtain ⟨reached, last⟩ := moved_bounds positive extent count
  have positive' : (0 : ℚ) < major := Int.cast_pos.mpr positive
  have reached' : 2 * (major : ℚ) * moved major extent count ≤ 2 * count * extent + major := by
    exact_mod_cast reached
  have last' : 2 * (count : ℚ) * extent + major < 2 * major * (moved major extent count + 1) := by
    exact_mod_cast last
  have scaled : (moved major extent count : ℚ) - count * extent / major =
      (major * moved major extent count - count * extent) / major := by
    field_simp
  rw [scaled, abs_div, abs_of_pos positive', div_le_iff₀ positive', abs_le]
  constructor <;> linarith

end Movements

/-- A step has to move along an extent just when the two movements so far would leave it behind the
ideal line by half a pixel or more. -/
theorem moved_succ {major extent other : ℤ} (longer : major = max extent other)
    (nonneg : 0 ≤ extent) (positive : 0 < major) (count : ℕ) {moves : Prop} [Decidable moves]
    (asks : moves ↔ 2 * (other * (1 + moved major extent count) -
      extent * (1 + moved major other count)) ≤ other) :
    moved major extent (count + 1) = moved major extent count + if moves then 1 else 0 := by
  obtain ⟨reached, last⟩ := moved_bounds positive extent count
  obtain ⟨otherReached, otherLast⟩ := moved_bounds positive other count
  obtain short | long := le_total extent other
  · -- All steps move along the other extent, so it counts them.
    obtain rfl : major = other := longer.trans (max_eq_right short)
    rw [moved_major positive] at asks
    split
    · rename_i yes
      have behind := asks.mp yes
      exact moved_eq positive (by push_cast; linarith) (by push_cast; linarith)
    · rename_i no
      have before := not_le.mp (no ∘ asks.mpr)
      exact moved_eq positive (by push_cast; linarith) (by push_cast; linarith)
  · obtain rfl : major = extent := longer.trans (max_eq_left long)
    rw [moved_major positive] at asks
    rw [moved_major positive, moved_major positive, if_pos (asks.mpr (by linarith))]
    exact Nat.cast_succ count

/-- What a step does to a coordinate. Its direction is asked for only where it moves. -/
theorem stepped_eq {start towards step before after : ℤ} {moves : Prop} [Decidable moves]
    (next : after = before + if moves then 1 else 0) (same : after ≠ before → step = towards) :
    (if moves then start + towards * before + step else start + towards * before) =
      start + towards * after := by
  split at next
  · rename_i yes
    rw [if_pos yes, same (by omega), next]
    ring
  · rename_i no
    rw [if_neg no, next, add_zero]

/-! ### The loop -/

namespace Segment

variable (segment : Segment)

/-- The loop of a walk, which asks at every place whether it has come to the end, visits the places
from a walker on and stops. -/
inductive Visits : Walker → List (ℤ × ℤ) → Prop
  | last {walker : Walker} (ended : segment.isAtEnd walker = true) :
    Visits walker [(walker.x, walker.y)]
  | next {walker : Walker} {places : List (ℤ × ℤ)} (ahead : segment.isAtEnd walker = false)
    (rest : Visits (segment.step walker) places) : Visits walker ((walker.x, walker.y) :: places)

variable {segment}

/-- A walk that is allowed enough steps is the loop. -/
theorem walkFrom_of_visits {walker : Walker} {places : List (ℤ × ℤ)}
    (visits : segment.Visits walker places) {fuel : ℕ} (enough : places.length ≤ fuel + 1)
    (visited : List (ℤ × ℤ)) :
    segment.walkFrom fuel walker visited = places.reverse ++ visited := by
  induction visits generalizing fuel visited with
  | last ended =>
    cases fuel with
    | zero => rfl
    | succ fuel => simp [walkFrom, ended]
  | next ahead rest inductionHypothesis =>
    cases fuel with
    | zero => cases rest <;> simp at enough
    | succ fuel =>
      have enoughLeft : _ ≤ fuel + 1 := Nat.le_of_succ_le_succ enough
      simp [walkFrom, ahead, inductionHypothesis enoughLeft]

/-! ### The places of a walk -/

variable (segment)

/-- The longer extent. -/
def major : ℤ := max segment.across segment.down

/-- The shorter extent. -/
def minor : ℤ := min segment.across segment.down

/-- The place after some steps towards the end: one pixel with every step along the longer extent,
and along the shorter one to the pixel nearest to the ideal line. -/
def placeAfter (count : ℕ) : ℤ × ℤ :=
  let aside := (2 * count * segment.minor + segment.major) / (2 * segment.major)
  let towardsX := (segment.x1 - segment.x0).sign
  let towardsY := (segment.y1 - segment.y0).sign
  if segment.down ≤ segment.across then
    (segment.x0 + towardsX * count, segment.y0 + towardsY * aside)
  else (segment.x0 + towardsX * aside, segment.y0 + towardsY * count)

/-- The walker after some steps. -/
def walkerAfter (count : ℕ) : Walker where
  x := (segment.placeAfter count).1
  y := (segment.placeAfter count).2
  stray := segment.across * (1 + moved segment.major segment.down count) -
    segment.down * (1 + moved segment.major segment.across count)

theorem across_nonneg : 0 ≤ segment.across := Int.natCast_nonneg _

theorem down_nonneg : 0 ≤ segment.down := Int.natCast_nonneg _

theorem major_nonneg : 0 ≤ segment.major := le_max_of_le_left segment.across_nonneg

theorem sign_mul_across :
    (segment.x1 - segment.x0).sign * segment.across = segment.x1 - segment.x0 :=
  Int.sign_mul_natAbs _

theorem sign_mul_down : (segment.y1 - segment.y0).sign * segment.down = segment.y1 - segment.y0 :=
  Int.sign_mul_natAbs _

variable {segment}

theorem placeAfter_eq (positive : 0 < segment.major) (count : ℕ) :
    segment.placeAfter count =
      (segment.x0 + (segment.x1 - segment.x0).sign * moved segment.major segment.across count,
        segment.y0 + (segment.y1 - segment.y0).sign * moved segment.major segment.down count) := by
  have along := moved_major positive count
  unfold placeAfter
  dsimp only
  split
  · rename_i wide
    have isMajor : segment.major = segment.across := max_eq_left wide
    have isMinor : segment.minor = segment.down := min_eq_right wide
    rw [← isMajor, along, isMinor, ← moved]
  · rename_i tall
    have isMajor : segment.major = segment.down := max_eq_right (not_le.mp tall).le
    have isMinor : segment.minor = segment.across := min_eq_left (not_le.mp tall).le
    rw [← isMajor, along, isMinor, ← moved]

theorem placeAfter_zero : segment.placeAfter 0 = (segment.x0, segment.y0) := by
  obtain positive | flat := segment.major_nonneg.lt_or_eq
  · rw [placeAfter_eq positive, moved_zero positive, moved_zero positive, mul_zero, mul_zero,
      add_zero, add_zero]
  · simp [placeAfter, ← flat]

theorem walkerAfter_stray (count : ℕ) :
    (segment.walkerAfter count).stray =
      segment.across * (1 + moved segment.major segment.down count) -
        segment.down * (1 + moved segment.major segment.across count) := rfl

theorem walkerAfter_x (positive : 0 < segment.major) (count : ℕ) :
    (segment.walkerAfter count).x = segment.x0 +
      (segment.x1 - segment.x0).sign * moved segment.major segment.across count :=
  congrArg Prod.fst (placeAfter_eq positive count)

theorem walkerAfter_y (positive : 0 < segment.major) (count : ℕ) :
    (segment.walkerAfter count).y = segment.y0 +
      (segment.y1 - segment.y0).sign * moved segment.major segment.down count :=
  congrArg Prod.snd (placeAfter_eq positive count)

/-- After as many steps as the longer extent has the walk is at the end of the segment. -/
theorem placeAfter_major : segment.placeAfter segment.major.toNat = (segment.x1, segment.y1) := by
  have all := Int.toNat_of_nonneg segment.major_nonneg
  obtain positive | flat := segment.major_nonneg.lt_or_eq
  · rw [placeAfter_eq positive, moved_all positive all, moved_all positive all,
      segment.sign_mul_across, segment.sign_mul_down, add_sub_cancel, add_sub_cancel]
  · have across := segment.sign_mul_across
    have down := segment.sign_mul_down
    have noneAcross : segment.across = 0 :=
      le_antisymm (flat ▸ le_max_left _ _) segment.across_nonneg
    have noneDown : segment.down = 0 := le_antisymm (flat ▸ le_max_right _ _) segment.down_nonneg
    rw [noneAcross, mul_zero] at across
    rw [noneDown, mul_zero] at down
    rw [← flat, Int.toNat_zero, placeAfter_zero, Prod.mk.injEq]
    constructor <;> linarith

theorem start_eq : segment.start = segment.walkerAfter 0 := by
  unfold start walkerAfter
  rw [placeAfter_zero]
  obtain positive | flat := segment.major_nonneg.lt_or_eq
  · rw [moved_zero positive, moved_zero positive, add_zero, mul_one, mul_one]
  · simp [moved, ← flat]

/-- The direction of a step is the one to the end, if there is any way to go. -/
theorem stepX_eq (way : segment.across ≠ 0) : segment.stepX = (segment.x1 - segment.x0).sign := by
  unfold across at way
  unfold stepX
  split
  · exact (Int.sign_eq_one_of_pos (by omega)).symm
  · exact (Int.sign_eq_neg_one_of_neg (by omega)).symm

theorem stepY_eq (way : segment.down ≠ 0) : segment.stepY = (segment.y1 - segment.y0).sign := by
  unfold down at way
  unfold stepY
  split
  · exact (Int.sign_eq_one_of_pos (by omega)).symm
  · exact (Int.sign_eq_neg_one_of_neg (by omega)).symm

theorem moved_across_succ (positive : 0 < segment.major) (count : ℕ) :
    moved segment.major segment.across (count + 1) = moved segment.major segment.across count +
      if -segment.down ≤ 2 * (segment.walkerAfter count).stray then 1 else 0 := by
  have longer : segment.major = max segment.across segment.down := rfl
  refine moved_succ longer segment.across_nonneg positive count ?_
  rw [walkerAfter_stray]
  constructor <;> intro <;> linarith

theorem moved_down_succ (positive : 0 < segment.major) (count : ℕ) :
    moved segment.major segment.down (count + 1) = moved segment.major segment.down count +
      if 2 * (segment.walkerAfter count).stray ≤ segment.across then 1 else 0 :=
  moved_succ (max_comm _ _) segment.down_nonneg positive count Iff.rfl

/-- Every step leads to the next of the places. The one number that the walker keeps tells of both
extents whether the step moves along them. -/
theorem step_walkerAfter (positive : 0 < segment.major) (count : ℕ) :
    segment.step (segment.walkerAfter count) = segment.walkerAfter (count + 1) := by
  have alongX := moved_across_succ positive count
  have alongY := moved_down_succ positive count
  have directionX : moved segment.major segment.across (count + 1) ≠
      moved segment.major segment.across count →
      segment.stepX = (segment.x1 - segment.x0).sign := by
    refine fun moves => stepX_eq fun none => moves ?_
    rw [none, moved_nothing positive, moved_nothing positive]
  have directionY : moved segment.major segment.down (count + 1) ≠
      moved segment.major segment.down count → segment.stepY = (segment.y1 - segment.y0).sign := by
    refine fun moves => stepY_eq fun none => moves ?_
    rw [none, moved_nothing positive, moved_nothing positive]
  show Walker.mk _ _ _ = Walker.mk (segment.walkerAfter (count + 1)).x
    (segment.walkerAfter (count + 1)).y (segment.walkerAfter (count + 1)).stray
  rw [Walker.mk.injEq, walkerAfter_x positive, walkerAfter_x positive, walkerAfter_y positive,
    walkerAfter_y positive]
  refine ⟨stepped_eq alongX directionX, stepped_eq alongY directionY, ?_⟩
  rw [walkerAfter_stray (count + 1), alongX, alongY]
  split <;> split <;> (rw [walkerAfter_stray]; ring)

theorem abs_sign_across (way : segment.across ≠ 0) : |(segment.x1 - segment.x0).sign| = 1 := by
  rw [← stepX_eq way]
  unfold stepX
  split <;> rfl

theorem abs_sign_down (way : segment.down ≠ 0) : |(segment.y1 - segment.y0).sign| = 1 := by
  rw [← stepY_eq way]
  unfold stepY
  split <;> rfl

theorem abs_sign_le_one (number : ℤ) : |number.sign| ≤ 1 := by
  rw [Int.abs_eq_natAbs, Int.natAbs_sign]
  split <;> decide

/-- Of two places of a walk the one is as far from the other, along the extent in which it is
farther, as there are steps between them. -/
theorem distance_placeAfter (positive : 0 < segment.major) {first second : ℕ}
    (order : first ≤ second) :
    max |(segment.placeAfter second).1 - (segment.placeAfter first).1|
        |(segment.placeAfter second).2 - (segment.placeAfter first).2| = second - first := by
  have forward : (0 : ℤ) ≤ second - first := by omega
  have apart (start towards before after : ℤ) :
      |start + towards * after - (start + towards * before)| = |towards| * |after - before| := by
    rw [add_sub_add_left_eq_sub, ← mul_sub, abs_mul]
  have notFarther (extent number : ℤ) (nonneg : 0 ≤ extent) (shorter : extent ≤ segment.major) :
      |number.sign| * |moved segment.major extent second - moved segment.major extent first| ≤
        second - first :=
    (mul_le_of_le_one_left (abs_nonneg _) (abs_sign_le_one number)).trans
      (abs_moved_sub_moved_le positive nonneg shorter order)
  rw [placeAfter_eq positive, placeAfter_eq positive, apart, apart]
  obtain tall | wide := le_total segment.across segment.down
  · have isMajor : segment.major = segment.down := max_eq_right tall
    rw [← isMajor, moved_major positive, moved_major positive,
      abs_sign_down (isMajor ▸ positive.ne'), one_mul, abs_of_nonneg forward]
    exact max_eq_right (notFarther _ _ segment.across_nonneg (le_max_left _ _))
  · have isMajor : segment.major = segment.across := max_eq_left wide
    rw [← isMajor, moved_major positive, moved_major positive,
      abs_sign_across (isMajor ▸ positive.ne'), one_mul, abs_of_nonneg forward]
    exact max_eq_left (notFarther _ _ segment.down_nonneg (le_max_right _ _))

/-- The walk is at the end after as many steps as the longer extent has, and not before. -/
theorem isAtEnd_walkerAfter {count : ℕ} (inside : count ≤ segment.major.toNat) :
    segment.isAtEnd (segment.walkerAfter count) = true ↔ count = segment.major.toNat := by
  have ended : segment.isAtEnd (segment.walkerAfter count) = true ↔
      segment.placeAfter count = (segment.x1, segment.y1) := by
    unfold isAtEnd walkerAfter
    rw [Bool.and_eq_true, decide_eq_true_eq, decide_eq_true_eq, Prod.ext_iff]
  rw [ended]
  refine ⟨fun same => ?_, fun all => all ▸ placeAfter_major⟩
  obtain positive | flat := segment.major_nonneg.lt_or_eq
  · have distance := distance_placeAfter positive inside
    rw [same, placeAfter_major, sub_self, sub_self, abs_zero, max_self] at distance
    omega
  · omega

theorem visits_walkerAfter {count remaining : ℕ} (all : count + remaining = segment.major.toNat) :
    segment.Visits (segment.walkerAfter count)
      ((List.range' count (remaining + 1)).map segment.placeAfter) := by
  induction remaining generalizing count with
  | zero => exact .last ((isAtEnd_walkerAfter all.le).mpr all)
  | succ remaining inductionHypothesis =>
    have positive : 0 < segment.major := by omega
    have ahead : segment.isAtEnd (segment.walkerAfter count) = false := by
      rw [← Bool.not_eq_true, isAtEnd_walkerAfter (by omega)]
      omega
    refine .next ahead ?_
    rw [step_walkerAfter positive]
    exact inductionHypothesis (by omega)

theorem visits_start :
    segment.Visits segment.start
      ((List.range (segment.major.toNat + 1)).map segment.placeAfter) := by
  rw [start_eq, List.range_eq_range']
  exact visits_walkerAfter (Nat.zero_add _)

/-- The walk goes through the places in order, to the end of the segment. -/
theorem walk_eq (segment : Segment) :
    segment.walk = (List.range (segment.major.toNat + 1)).map segment.placeAfter := by
  have enough : ((List.range (segment.major.toNat + 1)).map segment.placeAfter).length ≤
      (segment.across + segment.down).toNat + 1 := by
    have across := segment.across_nonneg
    have down := segment.down_nonneg
    rw [List.length_map, List.length_range]
    unfold major
    omega
  unfold walk
  rw [walkFrom_of_visits visits_start enough, List.append_nil, List.reverse_reverse]

theorem length_walk (segment : Segment) : segment.walk.length = segment.major.toNat + 1 := by
  rw [walk_eq, List.length_map, List.length_range]

theorem major_eq (segment : Segment) :
    segment.major = max |segment.x1 - segment.x0| |segment.y1 - segment.y0| := by
  rw [Int.abs_eq_natAbs, Int.abs_eq_natAbs]
  rfl

theorem getElem_walk (segment : Segment) {count : ℕ} (inside : count < segment.walk.length) :
    segment.walk[count] = segment.placeAfter count := by
  simp only [walk_eq, List.getElem_map, List.getElem_range]

/-! ### The ideal line -/

/-- The point of the ideal line that as many steps of the walk stand for. -/
def idealAfter (segment : Segment) (count : ℕ) : ℚ × ℚ :=
  (segment.x0 + count * (segment.x1 - segment.x0) / segment.major,
    segment.y0 + count * (segment.y1 - segment.y0) / segment.major)

/-- Every place of the walk is within half a pixel of the ideal line. -/
theorem abs_placeAfter_sub_le {count : ℕ} (inside : count ≤ segment.major.toNat) :
    |((segment.placeAfter count).1 : ℚ) - (segment.idealAfter count).1| ≤ 1 / 2 ∧
      |((segment.placeAfter count).2 : ℚ) - (segment.idealAfter count).2| ≤ 1 / 2 := by
  obtain positive | flat := segment.major_nonneg.lt_or_eq
  · have near (start towards extent difference : ℤ) (way : towards.sign * extent = difference) :
        |((start + towards.sign * moved segment.major extent count : ℤ) : ℚ) -
          (start + count * difference / segment.major)| ≤ 1 / 2 := by
      have scaled : ((start + towards.sign * moved segment.major extent count : ℤ) : ℚ) -
          (start + count * difference / segment.major) =
          towards.sign * (moved segment.major extent count - count * extent / segment.major) := by
        rw [← way]
        push_cast
        ring
      have notFarther : |(towards.sign : ℚ)| ≤ 1 := by exact_mod_cast abs_sign_le_one towards
      rw [scaled, abs_mul]
      exact (mul_le_of_le_one_left (abs_nonneg _) notFarther).trans
        (abs_moved_sub_le positive extent count)
    rw [placeAfter_eq positive]
    unfold idealAfter
    exact_mod_cast And.intro (near segment.x0 _ _ _ segment.sign_mul_across)
      (near segment.y0 _ _ _ segment.sign_mul_down)
  · obtain rfl : count = 0 := by omega
    rw [placeAfter_zero]
    unfold idealAfter
    norm_num

/-- The loop of a walk ends by itself, and has visited one place more than the longer extent has
pixels, from the start of the segment to its end. With every step it moves by one pixel along the
longer extent, and along the shorter one to the pixel nearest to the ideal line; so it is never
farther than half a pixel from that line, and every place is a neighbour of the one before. -/
theorem walk_follows_line (segment : Segment) :
    segment.Visits segment.start segment.walk ∧
    (segment.walk.length : ℤ) = max |segment.x1 - segment.x0| |segment.y1 - segment.y0| + 1 ∧
    segment.walk.head? = some (segment.x0, segment.y0) ∧
    segment.walk.getLast? = some (segment.x1, segment.y1) ∧
    (∀ (count : ℕ) (inside : count < segment.walk.length),
      segment.walk[count] = segment.placeAfter count ∧
      |(segment.walk[count].1 : ℚ) - (segment.idealAfter count).1| ≤ 1 / 2 ∧
      |(segment.walk[count].2 : ℚ) - (segment.idealAfter count).2| ≤ 1 / 2) ∧
    ∀ (count : ℕ) (inside : count + 1 < segment.walk.length),
      max |segment.walk[count + 1].1 - segment.walk[count].1|
        |segment.walk[count + 1].2 - segment.walk[count].2| = 1 := by
  have length := segment.length_walk
  have all := Int.toNat_of_nonneg segment.major_nonneg
  refine ⟨segment.walk_eq ▸ visits_start, ?_, ?_, ?_, fun count inside => ?_,
    fun count inside => ?_⟩
  · rw [← major_eq, length]
    omega
  · rw [walk_eq, List.range_succ_eq_map, List.map_cons, List.head?_cons, placeAfter_zero]
  · rw [walk_eq, List.range_succ, List.map_append, List.map_singleton, List.getLast?_concat,
      placeAfter_major]
  · rw [getElem_walk]
    exact ⟨rfl, abs_placeAfter_sub_le (by omega)⟩
  · rw [getElem_walk, getElem_walk, distance_placeAfter (by omega) (Nat.le_succ count)]
    push_cast
    ring

/-- A segment that goes down to the left moves three pixels across on its way of seven. -/
example : (Segment.mk 2 1 (-1) 8).walk =
    [(2, 1), (2, 2), (1, 3), (1, 4), (0, 5), (0, 6), (-1, 7), (-1, 8)] := by decide

end Segment

end SeriesChart
