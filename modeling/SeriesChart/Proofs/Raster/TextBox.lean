/-
This file shows that a text stays in the box that it was measured to have. A text is measured and
painted separately, and only the measured size decides how far the picture of a text is shifted to
the left of its anchor or above it. The two agree for every text with a letter, however bold it is.
A text without any letter is measured to have no columns, while its picture has one more; that
picture is blank, so that nothing is painted outside the box in this case either. Where the letters
of a text meet on its picture, the last one counts, whatever the font.
-/

import SeriesChart.Proofs.Raster.Marks
import SeriesChart.Proofs.Raster.Success

namespace SeriesChart

/-! ### Bold masks -/

namespace Mask

theorem cellAt_outside (mask : Mask) {row column : ℕ}
    (outside : ¬(row < mask.height ∧ column < mask.width)) : mask.cellAt row column = 0 :=
  if_neg outside

theorem cellAt_blank (width height row column : ℕ) :
    (blank width height).cellAt row column = 0 := by
  by_cases inside : row < height ∧ column < width
  · exact cellAt_ofFunction _ _ _ inside.1 inside.2
  · exact cellAt_outside _ inside

/-- The largest cell of the columns from `first` up to `last` of a row. Columns outside the mask
count as zero. -/
def largestBetween (mask : Mask) (row first last : ℕ) : ℕ :=
  (Finset.Icc first last).sup fun column => (mask.cellAt row column).toNat

theorem toNat_largestFrom (mask : Mask) (row first count : ℕ) :
    (mask.largestFrom row first count).toNat =
      (Finset.Ico first (first + count)).sup fun column => (mask.cellAt row column).toNat := by
  induction count with
  | zero =>
    rw [Nat.add_zero, Finset.Ico_self]
    rfl
  | succ count inductionHypothesis =>
    rw [largestFrom, UInt8.toNat_max, inductionHypothesis, ← Nat.add_assoc,
      Nat.Ico_succ_right_eq_insert_Ico (Nat.le_add_right first count), Finset.sup_insert]

theorem width_embolden (mask : Mask) {weight : ℤ} (positive : 1 ≤ weight) :
    ((mask.embolden weight).width : ℤ) = mask.width + (weight - 1) := by
  unfold embolden
  split
  · omega
  · show ((mask.width + weight.toNat - 1 : ℕ) : ℤ) = _
    omega

@[simp] theorem height_embolden (mask : Mask) (weight : ℤ) :
    (mask.embolden weight).height = mask.height := by
  unfold embolden
  split <;> rfl

/-- A cell of a bold mask is the largest of the cells that are shifted onto it. -/
theorem cellAt_embolden (mask : Mask) {weight : ℤ} (positive : 1 ≤ weight) (row column : ℕ) :
    ((mask.embolden weight).cellAt row column).toNat =
      mask.largestBetween row (column + 1 - weight.toNat) column := by
  by_cases plain : weight ≤ 1
  · have single : column + 1 - weight.toNat = column := by omega
    rw [single, largestBetween, Finset.Icc_self, Finset.sup_singleton, embolden, if_pos plain]
  · rw [embolden, if_neg plain]
    set first := column + 1 - weight.toNat with isFirst
    by_cases inside : row < mask.height ∧ column < mask.width + weight.toNat - 1
    · rw [cellAt_ofFunction _ _ _ inside.1 inside.2]
      show (mask.largestFrom row first (min (column + 1) mask.width - first)).toNat = _
      rw [toNat_largestFrom]
      -- What is left out of the window lies behind the mask.
      refine le_antisymm (Finset.sup_mono fun other known => ?_) (Finset.sup_le fun other known => ?_)
      · rw [Finset.mem_Ico] at known
        rw [Finset.mem_Icc]
        omega
      · rw [Finset.mem_Icc] at known
        by_cases behind : mask.width ≤ other
        · rw [mask.cellAt_outside fun all => absurd all.2 behind.not_gt]
          exact Nat.zero_le _
        · have shifted : other ∈ Finset.Ico first (first + (min (column + 1) mask.width - first)) := by
            rw [Finset.mem_Ico]
            omega
          exact Finset.le_sup (f := fun other => (mask.cellAt row other).toNat) shifted
    · have none : ∀ other ∈ Finset.Icc first column, (mask.cellAt row other).toNat = 0 := by
        intro other known
        rw [Finset.mem_Icc] at known
        rw [mask.cellAt_outside (by omega)]
        rfl
      rw [cellAt_outside _ inside]
      exact ((Finset.sup_eq_bot_iff _ _).mpr none).symm

end Mask

/-! ### Pictures of texts -/

namespace Font

/-- How many letters a text has up to its end. -/
def letterCount (text : String) : ℕ :=
  (text.toList.takeWhile (· ≠ '\x00')).countP fun character => (Glyph.ofChar? character).isSome

theorem lettersFrom_cons_of_none {character : Char} (pen : ℕ) (rest : List Char)
    (letterless : Glyph.ofChar? character = none) :
    lettersFrom pen (character :: rest) = lettersFrom pen rest := by
  -- The equation of the recursion is out of reach: stating it would unfold the table of letters.
  delta lettersFrom lettersFrom._f
  dsimp only
  rw [letterless]

theorem lettersFrom_of_letterless {characters : List Char} (pen : ℕ)
    (letterless : ∀ character ∈ characters, Glyph.ofChar? character = none) :
    lettersFrom pen characters = [] := by
  induction characters generalizing pen with
  | nil => rfl
  | cons character rest inductionHypothesis =>
    rw [lettersFrom_cons_of_none pen rest (letterless character List.mem_cons_self)]
    exact inductionHypothesis pen fun other known => letterless other (List.mem_cons_of_mem _ known)

end Font

/-! ### Letters that meet -/

/-- The letter lies on a cell, whether it fills it or not. -/
def Letter.liesOn (letter : Letter) (row column : ℕ) : Bool :=
  (letter.y ≤ row ∧ (row : ℤ) < letter.y + letter.mask.height) ∧
    letter.x ≤ column ∧ (column : ℤ) < letter.x + letter.mask.width

/-- What the letter has in a cell that it lies on. -/
def Letter.cellAt (letter : Letter) (row column : ℕ) : UInt8 :=
  letter.mask.cellAt (row - letter.y).toNat (column - letter.x).toNat

/-- The cell of the last letter that lies there; zero without such a letter. -/
def lastCell (letters : List Letter) (row column : ℕ) : UInt8 :=
  match letters.reverse.find? (·.liesOn row column) with
  | some letter => letter.cellAt row column
  | none => 0

theorem lastCell_concat (letters : List Letter) (letter : Letter) (row column : ℕ) :
    lastCell (letters ++ [letter]) row column =
      if letter.liesOn row column then letter.cellAt row column
      else lastCell letters row column := by
  unfold lastCell
  rw [List.reverse_concat, List.find?_cons]
  cases letter.liesOn row column <;> rfl

namespace Mask

/-- The mask is that of some letters: it has a size, of at least one cell, and where letters meet
the last one counts. -/
structure IsSet (mask : Mask) (extent : ℤ × ℤ) (letters : List Letter) : Prop where
  wide : mask.width = (max 1 extent.1).toNat
  high : mask.height = (max 1 extent.2).toNat
  cells : ∀ row column, row < mask.height → column < mask.width →
    mask.cellAt row column = lastCell letters row column
  /-- Every cell is held, so that it can be written over. -/
  full : mask.cells.size = mask.width * mask.height

theorem isSet_blank (extent : ℤ × ℤ) :
    (blank (max 1 extent.1).toNat (max 1 extent.2).toNat).IsSet extent [] where
  wide := rfl
  high := rfl
  cells row column _ _ := cellAt_blank _ _ row column
  full := Array.size_ofFn

/-- One more letter is put down over those that were there. -/
theorem IsSet.paste {mask : Mask} {extent : ℤ × ℤ} {letters : List Letter}
    (isSet : mask.IsSet extent letters) (letter : Letter) :
    (mask.paste letter.x letter.y letter.mask).IsSet extent (letters ++ [letter]) where
  wide := isSet.wide
  high := isSet.high
  cells row column inRows inRow := by
    rw [cellAt_paste mask _ _ _ isSet.full inRows inRow, lastCell_concat,
      isSet.cells row column inRows inRow]
    exact if_congr (decide_eq_true_iff.symm) rfl rfl
  full := (size_writeRows _ _ _ _ _ _ _).trans isSet.full

theorem isSet_foldl (extent : ℤ × ℤ) (letters : List Letter) :
    (letters.foldl (fun mask letter => mask.paste letter.x letter.y letter.mask)
      (blank (max 1 extent.1).toNat (max 1 extent.2).toNat)).IsSet extent letters := by
  -- From the end: the letter that is put down last lies above all others.
  induction letters using List.reverseRecOn with
  | nil => exact isSet_blank extent
  | append_singleton letters last inductionHypothesis =>
    rw [List.foldl_concat]
    exact inductionHypothesis.paste last

end Mask

namespace Font

/-- The picture of a text is put together from its letters, in every font. -/
theorem isSet_mask {font : Font} {text : String} {mask : Mask}
    (masked : font.mask text = .ok mask) :
    ∃ extent letters, font.extent text = .ok extent ∧ font.letters text = .ok letters ∧
      mask.IsSet extent letters := by
  obtain ⟨extent, extentRead, masked⟩ := except_bind_eq_ok masked
  obtain ⟨letters, lettersRead, masked⟩ := except_bind_eq_ok masked
  cases masked
  exact ⟨extent, letters, extentRead, lettersRead, Mask.isSet_foldl extent letters⟩

section Text

variable {text : String} (settable : IsSettable text)

include settable

theorem extent_bitmap :
    bitmap.extent text = .ok ((letterWidth * letterCount text : ℕ), (letterHeight : ℤ)) := by
  show (latinCharacters text >>= _) = _
  rw [latinCharacters_eq settable]
  rfl

theorem letters_bitmap :
    bitmap.letters text = .ok (lettersFrom 0 (firstLine (text.toList.takeWhile (· ≠ '\x00')))) := by
  show (latinCharacters text >>= _) = _
  rw [latinCharacters_eq settable]
  rfl

theorem measure_bitmap (present : text ≠ "") {size : Float} (finite : size.isFinite = true)
    (weight : ℤ) : bitmap.measure text (.float size) weight =
      .ok (((letterWidth * letterCount text : ℕ) : ℤ) + max 0 (weight - 1), (letterHeight : ℤ)) := by
  obtain ⟨whole, read⟩ := exists_wholeSize finite
  have wide : max 0 ((letterWidth * letterCount text : ℕ) : ℤ) = (letterWidth * letterCount text : ℕ) :=
    max_eq_right (Int.natCast_nonneg _)
  unfold measure
  rw [read, if_neg present, extent_bitmap settable]
  show Except.ok (max 0 ((letterWidth * letterCount text : ℕ) : ℤ) + _, _) = _
  rw [wide]
  rfl

/-- The picture of a text is as wide as its letters, and one column wide at least. -/
theorem mask_bitmap : ∃ plain, bitmap.mask text = .ok plain ∧
    plain.width = max 1 (letterWidth * letterCount text) ∧ plain.height = letterHeight ∧
    (letterCount text = 0 → ∀ row column, plain.cellAt row column = 0) := by
  obtain ⟨plain, masked⟩ := exists_mask settable
  obtain ⟨extent, letters, extentRead, lettersRead, isSet⟩ := isSet_mask masked
  rw [extent_bitmap settable] at extentRead
  cases extentRead
  rw [letters_bitmap settable] at lettersRead
  cases lettersRead
  refine ⟨plain, masked, isSet.wide.trans ?_, isSet.high, fun letterless row column => ?_⟩
  · show (max 1 ((letterWidth * letterCount text : ℕ) : ℤ)).toNat = _
    omega
  · have none : ∀ character ∈ firstLine (text.toList.takeWhile (· ≠ '\x00')),
        Glyph.ofChar? character = none := fun character known =>
      Option.not_isSome_iff_eq_none.mp (List.countP_eq_zero.mp letterless character
        (List.takeWhile_subset _ known))
    by_cases inside : row < plain.height ∧ column < plain.width
    · rw [isSet.cells row column inside.1 inside.2, lettersFrom_of_letterless 0 none]
      rfl
    · exact plain.cellAt_outside inside

end Text

/-- The picture of a text that is painted: the plain one, made as bold as is asked for. It has the
measured size, and each cell is the largest of the plain cells that are shifted onto it. The picture
of a text without letters is one column too wide, but blank. -/
structure IsPicture (text : String) (weight : ℤ) (extent : ℤ × ℤ) (plain : Mask) : Prop where
  masked : bitmap.mask text = .ok plain
  wide : letterCount text ≠ 0 → ((plain.embolden weight).width : ℤ) = extent.1
  high : ((plain.embolden weight).height : ℤ) = extent.2
  widened : letterCount text = 0 → ((plain.embolden weight).width : ℤ) = extent.1 + 1
  blank : letterCount text = 0 → ∀ row column, (plain.embolden weight).cellAt row column = 0
  largest : ∀ row column, ((plain.embolden weight).cellAt row column).toNat =
    plain.largestBetween row (column + 1 - weight.toNat) column

/-- A text is measured and has a picture, and the two agree. -/
theorem exists_isPicture {text : String} (settable : IsSettable text) (present : text ≠ "")
    {size : Float} (finite : size.isFinite = true) {weight : ℤ} (positive : 1 ≤ weight) :
    ∃ extent plain, bitmap.measure text (.float size) weight = .ok extent ∧
      IsPicture text weight extent plain := by
  obtain ⟨plain, masked, wide, high, blank⟩ := mask_bitmap settable
  refine ⟨_, plain, measure_bitmap settable present finite weight, masked, fun letters => ?_, ?_,
    fun letterless => ?_, fun letterless row column => ?_, plain.cellAt_embolden positive⟩
  · have least : 1 ≤ letterWidth * letterCount text := Nat.mul_pos (by decide) (by omega)
    rw [plain.width_embolden positive, wide, max_eq_right least, max_eq_right (by omega)]
  · rw [plain.height_embolden, high]
  · rw [plain.width_embolden positive, wide, letterless, max_eq_right (by omega : 0 ≤ weight - 1)]
    show 1 + (weight - 1) = 0 + (weight - 1) + 1
    omega
  · have none : plain.largestBetween row (column + 1 - weight.toNat) column = 0 :=
      (Finset.sup_eq_bot_iff _ _).mpr fun other _ => by rw [blank letterless]; rfl
    rw [← UInt8.toNat_inj, plain.cellAt_embolden positive, none]
    rfl

-- A blank that takes no room is measured to have no column, and its picture has one.
theorem widened_blank :
    ¬∀ (text : String) (weight : ℤ) (extent : ℤ × ℤ) (plain : Mask), text ≠ "" → IsSettable text →
      bitmap.measure text (.float 10.0) weight = .ok extent → bitmap.mask text = .ok plain →
      ((plain.embolden weight).width : ℤ) = extent.1 := by
  intro always
  have wide := always "\u00a0" 1 (0, 11) (.blank 1 11) (by decide) (by decide +kernel)
    (by decide +kernel) (by decide +kernel)
  exact absurd wide (by decide)

end Font

/-! ### Painted texts -/

namespace Canvas

/-- The second picture is the first with changes inside a box only. -/
structure ChangesWithin (canvas painted : Canvas) (box : Box) : Prop where
  sized : painted.HasSize canvas.width canvas.height
  kept : ∀ row column, box.holds row column = false →
    painted.pixelAt? row column = canvas.pixelAt? row column

theorem ChangesWithin.holds {canvas painted : Canvas} {box : Box}
    (changes : canvas.ChangesWithin painted box) {row column : ℕ}
    (changed : painted.pixelAt? row column ≠ canvas.pixelAt? row column) :
    box.holds row column = true := by
  rw [← Bool.not_eq_false]
  exact fun outside => changed (changes.kept row column outside)

theorem changesWithin_self (canvas : Canvas) (box : Box) : canvas.ChangesWithin canvas box :=
  ⟨canvas.hasSize_self, fun _ _ _ => rfl⟩

theorem changesWithin_drawMask (canvas : Canvas) (x y : ℤ) (mask : Mask) (color : Color) :
    canvas.ChangesWithin (canvas.drawMask x y mask color)
      (canvas.clip x y (x + mask.width) (y + mask.height)) :=
  ⟨canvas.hasSize_self.composite _ _ _, fun _ _ => canvas.pixelAt?_composite_outside _ _ _⟩

/-- A blank mask paints nothing. -/
theorem drawMask_of_blank (canvas : Canvas) (x y : ℤ) {mask : Mask} (color : Color)
    (blank : ∀ row column, mask.cellAt row column = 0) : canvas.drawMask x y mask color = canvas := by
  let patch : Patch := ⟨canvas.clip x y (x + mask.width) (y + mask.height), fun row column =>
    (mask.cellAt (row - y).toNat (column - x).toNat).toFloat32 / 255.0⟩
  have nowhere : ∀ row column, patch.LeavesOut row column := by
    intro row column _
    show (mask.cellAt (row - y).toNat (column - x).toNat).toFloat32 / 255.0 = 0.0
    rw [blank]
    decide
  exact Patch.lay_of_blank color canvas nowhere

section Texts

variable {font : Font} {text : String} {size : Value}

theorem drawText_refused {x y weight : ℤ} {color : Color} {canvas after : Canvas} {fault : Fault}
    (refused : drawText font x y text color size weight canvas = .error fault after) :
    after = canvas := by
  unfold drawText at refused
  by_cases present : text = ""
  · rw [if_pos present] at refused
    cases refused
  · rw [if_neg present] at refused
    obtain same | ⟨whole, -, refused⟩ := lift_bind_eq_error refused
    · exact same
    obtain same | ⟨plain, -, refused⟩ := lift_bind_eq_error refused
    · exact same
    · cases refused

theorem drawText_of_mask (x y weight : ℤ) (color : Color) (canvas : Canvas) {whole : ℤ}
    {plain : Mask} (present : text ≠ "") (read : Font.wholeSize size = .ok whole)
    (masked : font.mask text = .ok plain) : drawText font x y text color size weight canvas =
      .ok () (canvas.drawMask x y (plain.embolden weight) color) := by
  unfold drawText
  rw [if_neg present, read, masked]
  rfl

end Texts

end Canvas

namespace Device

/-- Where the top left corner of a text of a size goes: to the left of its anchor and above it. -/
def textCorner (style : TextStyle) (anchor extent : ℤ × ℤ) : ℤ × ℤ :=
  (anchor.1 - alignShift style.align extent.1, anchor.2 - baselineShift style.baseline extent.2)

/-- The part of a picture that a text of a size has for itself. -/
def textBox (canvas : Canvas) (style : TextStyle) (anchor extent : ℤ × ℤ) : Canvas.Box :=
  let corner := textCorner style anchor extent
  canvas.clip corner.1 corner.2 (corner.1 + extent.1) (corner.2 + extent.2)

/-- What a picture becomes when a mask is painted as a text of a size. -/
def withText (canvas : Canvas) (style : TextStyle) (anchor extent : ℤ × ℤ) (mask : Mask)
    (color : Color) : Canvas :=
  let corner := textCorner style anchor extent
  canvas.drawMask corner.1 corner.2 mask color

theorem one_le_weightOf (bold : Bool) : 1 ≤ weightOf bold := by
  cases bold <;> decide

/-- The picture of a text changes nothing outside the box of the measured size. -/
theorem changesWithin_withText {text : String} {style : TextStyle} {extent : ℤ × ℤ} {plain : Mask}
    (picture : Font.IsPicture text (weightOf style.bold) extent plain) (canvas : Canvas)
    (anchor : ℤ × ℤ) (color : Color) :
    canvas.ChangesWithin
      (withText canvas style anchor extent (plain.embolden (weightOf style.bold)) color)
      (textBox canvas style anchor extent) := by
  by_cases letterless : Font.letterCount text = 0
  · have same := canvas.drawMask_of_blank (textCorner style anchor extent).1
      (textCorner style anchor extent).2 color (picture.blank letterless)
    unfold withText
    rw [same]
    exact canvas.changesWithin_self _
  · have changes := canvas.changesWithin_drawMask (textCorner style anchor extent).1
      (textCorner style anchor extent).2 (plain.embolden (weightOf style.bold)) color
    rw [picture.wide letterless, picture.high] at changes
    exact changes

section Texts

variable {device : Device} {x y : Float} {text : String} {style : TextStyle}

/-- A text that is refused leaves the picture as it was. -/
theorem paintText_refused {color : Color} {canvas after : Canvas} {fault : Fault}
    (refused : device.paintText x y text color style canvas = .error fault after) :
    after = canvas := by
  unfold paintText at refused
  by_cases present : text = ""
  · rw [if_pos present] at refused
    cases refused
  · rw [if_neg present] at refused
    obtain same | ⟨font, -, refused⟩ := lift_bind_eq_error refused
    · exact same
    obtain same | ⟨extent, -, refused⟩ := lift_bind_eq_error refused
    · exact same
    obtain same | ⟨anchor, -, refused⟩ := lift_bind_eq_error refused
    · exact same
    · exact Canvas.drawText_refused refused

/-- Painting a text is laying its picture over the box that it was measured to have. -/
theorem paintText_eq {font : Font} (color : Color) (canvas : Canvas) {anchor extent : ℤ × ℤ}
    {plain : Mask} (present : text ≠ "")
    (finite : (style.fontSize * device.ratio).isFinite = true)
    (found : device.fontOf (.float (style.fontSize * device.ratio)) = .ok font)
    (measured : font.measure text (.float (style.fontSize * device.ratio))
      (weightOf style.bold) = .ok extent)
    (placed : device.place x y = .ok anchor) (masked : font.mask text = .ok plain) :
    device.paintText x y text color style canvas =
      .ok () (withText canvas style anchor extent (plain.embolden (weightOf style.bold)) color) := by
  obtain ⟨whole, read⟩ := exists_wholeSize finite
  unfold paintText
  rw [if_neg present]
  dsimp only
  rw [lift_bind_of_ok found, lift_bind_of_ok measured, lift_bind_of_ok placed]
  exact Canvas.drawText_of_mask _ _ _ color canvas present read masked

end Texts

theorem exists_anchor {device : Device} {x y : Float} (inX : (x * device.ratio).isFinite = true)
    (inY : (y * device.ratio).isFinite = true) : ∃ anchor, device.place x y = .ok anchor := by
  obtain ⟨column, columnTold⟩ := toWhole_of_isFinite inX .nearestEven
  obtain ⟨row, rowTold⟩ := toWhole_of_isFinite inY .nearestEven
  unfold place pixel
  rw [columnTold, rowTold]
  exact ⟨_, rfl⟩

/-- A pixel of the box of a text lies on the side of the anchor that the text is aligned to. -/
theorem sides_of_holds {canvas : Canvas} {style : TextStyle} {anchor extent : ℤ × ℤ}
    {row column : ℕ} (inside : (textBox canvas style anchor extent).holds row column = true) :
    (style.align = .left → anchor.1 ≤ column) ∧ (style.align = .right → (column : ℤ) < anchor.1) := by
  obtain ⟨-, -, first, last⟩ := (canvas.holds_clip _ _ _ _ row column).mp inside
  unfold textCorner at first last
  refine ⟨fun aligned => ?_, fun aligned => ?_⟩
  · rw [aligned] at first
    exact (sub_zero anchor.1).symm.le.trans first
  · rw [aligned] at last
    exact last.trans_eq (sub_add_cancel anchor.1 extent.1)

end Device

/-- A text of the built-in font is painted inside the box that it is measured to have, shifted from
its anchor to the left and up as it is aligned. Its picture has the measured size if it has any
letter, and is blank otherwise; a bold picture is the largest of its shifted copies. So a text never
reaches over its anchor on the side that it is aligned to. A text without a place or a size is
refused before anything is painted. -/
theorem paintText_stays_in_box (device : Device) (builtIn : device.fonts = .builtIn)
    {text : String} (settable : IsSettable text) (present : text ≠ "") (x y : Float)
    (style : TextStyle) :
    (∀ color canvas fault after,
      device.paintText x y text color style canvas = .error fault after → after = canvas) ∧
    ((style.fontSize * device.ratio).isFinite = true → (x * device.ratio).isFinite = true →
      (y * device.ratio).isFinite = true → ∃ anchor extent plain,
        device.place x y = .ok anchor ∧
        Font.bitmap.measure text (.float (style.fontSize * device.ratio))
          (Device.weightOf style.bold) = .ok extent ∧
        Font.IsPicture text (Device.weightOf style.bold) extent plain ∧
        ∀ color (canvas : Canvas), ∃ painted,
          device.paintText x y text color style canvas = .ok () painted ∧
          painted = Device.withText canvas style anchor extent
            (plain.embolden (Device.weightOf style.bold)) color ∧
          canvas.ChangesWithin painted (Device.textBox canvas style anchor extent) ∧
          ∀ row column, painted.pixelAt? row column ≠ canvas.pixelAt? row column →
            (style.align = .left → anchor.1 ≤ column) ∧
            (style.align = .right → (column : ℤ) < anchor.1)) := by
  refine ⟨fun color canvas fault after => Device.paintText_refused, fun finite inX inY => ?_⟩
  obtain ⟨anchor, placed⟩ := Device.exists_anchor inX inY
  obtain ⟨extent, plain, measured, picture⟩ :=
    Font.exists_isPicture settable present finite (Device.one_le_weightOf style.bold)
  refine ⟨anchor, extent, plain, placed, measured, picture, fun color canvas => ?_⟩
  have changes := Device.changesWithin_withText picture canvas anchor color
  have painted := Device.paintText_eq color canvas present finite (fontOf_builtIn builtIn finite)
    measured placed picture.masked
  exact ⟨_, painted, rfl, changes,
    fun row column changed => Device.sides_of_holds (changes.holds changed)⟩

-- A bold text to the left of column 15 of a picture leaves that column and those behind it.
theorem paintText_stays_left_of_anchor :
    let device : Device := ⟨20.0, 20.0, 1.5, ⟨255, 255, 255, 255⟩, "sans", .builtIn⟩
    let style : TextStyle := ⟨10.0, .right, .middle, true⟩
    IsSettable "Ag" ∧ ∃ painted,
      device.paintText 10.0 12.0 "Ag" ⟨10, 20, 30, 200⟩ style (.filled 30 30 .clear) =
        .ok () painted ∧
      ∀ row column, painted.pixelAt? row column ≠ (Canvas.filled 30 30 .clear).pixelAt? row column →
        (column : ℤ) < 15 := by
  intro device style
  have settable : IsSettable "Ag" := by decide
  obtain ⟨anchor, extent, plain, placed, -, -, paints⟩ :=
    (paintText_stays_in_box device rfl settable (by decide) 10.0 12.0 style).2
      (by decide +kernel) (by decide +kernel) (by decide +kernel)
  have known : device.place 10.0 12.0 = .ok (15, 18) := by decide +kernel
  obtain rfl : (15, 18) = anchor := Except.ok.inj (known.symm.trans placed)
  obtain ⟨painted, returned, -, -, sides⟩ := paints ⟨10, 20, 30, 200⟩ (.filled 30 30 .clear)
  exact ⟨settable, painted, returned, fun row column changed => (sides row column changed).2 rfl⟩

end SeriesChart
