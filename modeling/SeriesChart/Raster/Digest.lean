/-
This file sums a picture up: by a checksum of its bytes, by the number of its pixels that
show anything, and by the runs of equal pixels. The checksum is the cyclic redundancy
check of thirty-two bits with the reversed polynomial EDB88320, over the four bytes of each
pixel, row by row.
-/

import SeriesChart.Raster.Canvas

namespace SeriesChart

/-! ### Checksums -/

/-- The checksum so far, divided by one more bit. -/
def crcShift (crc : UInt32) : UInt32 :=
  let shifted := crc >>> 1
  if crc &&& 1 = 1 then shifted ^^^ 0xEDB88320 else shifted

/-- The remainder of a byte. -/
def crcOfByte (byte : UInt32) : UInt32 := (List.range 8).foldl (fun crc _ => crcShift crc) byte

/-- The remainders of all bytes. -/
def crcTable : Array UInt32 := (Array.range 256).map fun byte => crcOfByte byte.toUInt32

/-- The checksum so far with one more byte. -/
def crcStep (crc : UInt32) (byte : UInt8) : UInt32 :=
  crcTable.getD ((crc ^^^ byte.toUInt32) &&& 0xFF).toNat 0 ^^^ (crc >>> 8)

/-- The checksum so far with the bytes of one more pixel. -/
def crcOfPixel (crc : UInt32) (pixel : Pixel) : UInt32 :=
  crcStep (crcStep (crcStep (crcStep crc pixel.red) pixel.green) pixel.blue) pixel.alpha

namespace Canvas

/-- The checksum of the pixels from one place up to another one, which does not count. -/
def checksum (canvas : Canvas) (start stop : Nat) : UInt32 :=
  canvas.pixels.foldl crcOfPixel 0xFFFFFFFF start stop ^^^ 0xFFFFFFFF

/-- The number of pixels that are not wholly transparent. -/
def inkedCount (canvas : Canvas) : Nat := canvas.pixels.countP fun pixel => pixel.alpha ≠ 0

/-! ### Runs -/

/-- One more pixel for runs whose last one stands first. -/
def addToRuns (runs : List (Nat × Pixel)) (pixel : Pixel) : List (Nat × Pixel) :=
  match runs with
  | [] => [(1, pixel)]
  | (count, last) :: rest =>
    if last = pixel then (count + 1, last) :: rest else (1, pixel) :: (count, last) :: rest

/-- The pixels as runs of equal ones, row by row; a run may go on in the next row. -/
def runs (canvas : Canvas) : List (Nat × Pixel) := (canvas.pixels.foldl addToRuns []).reverse

end Canvas

end SeriesChart
