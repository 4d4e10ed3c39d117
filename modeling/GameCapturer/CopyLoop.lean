import GameCapturer.Capture
import GameCapturer.FrameRegion
import GameCapturer.Foundation.CellMoves
import GameCapturer.Foundation.LoopNest

namespace GameCapturer

open Foundation Foundation.WordArithmetic

/-!
# The copy loop of `Client::save_frame`

The loop nest drops the alpha byte of every pixel and the padding of every row.
It is modelled twice: as the state-passing nest the source writes, and as the
list of byte assignments it performs, which is what a concurrent reader can
interrupt.  All index arithmetic is the source's 32-bit arithmetic; the second
half of the module determines when it is exact.
-/

/-- The values of `i` in `for (int i = 0; i < bound; ++i)`. -/
def intRange (bound : Int32) : List Int32 :=
  (List.range bound.toInt.toNat).map Int32.ofNat

/-- One byte assignment: an address written, an offset from `pData` read. -/
abbrev ByteMove := Move Int Int

namespace Client

/-- The body of the inner loop: three byte assignments, red first. -/
def copyPixel
    (pData : Int → UInt8)
    (src dst : Int)
    (memory : Memory)
    (x : Int32) : Memory :=
  let memory :=
    Function.update memory
      (dst + (x * 3 + 2).toInt) (pData (src + (x * 4 + 2).toInt))
  let memory :=
    Function.update memory
      (dst + (x * 3 + 1).toInt) (pData (src + (x * 4 + 1).toInt))
  Function.update memory
    (dst + (x * 3 + 0).toInt) (pData (src + (x * 4 + 0).toInt))

/-- `src - pData` of one row: an unsigned 32-bit product. -/
def rowSource (rowPitch : UInt32) (y : Int32) : Int :=
  (y.toUInt32 * rowPitch).toNat

/-- `dst` of one row: a signed 32-bit product added to the buffer pointer. -/
def rowTarget (buffer : Int) (width y : Int32) : Int :=
  buffer + (y * width * 3).toInt

/-- The body of the outer loop. -/
def copyRow
    (mapped : MappedSubresource)
    (buffer : Int)
    (width : Int32)
    (memory : Memory)
    (y : Int32) : Memory :=
  (intRange width).foldl
    (copyPixel mapped.pData
      (rowSource mapped.rowPitch y) (rowTarget buffer width y))
    memory

/-- The two nested loops of `Client::save_frame`. -/
def copyLoop
    (frame : Frame)
    (buffer : Int)
    (memory : Memory) : Memory :=
  let width := frame.width.toInt32
  let height := frame.height.toInt32
  (intRange height).foldl
    (copyRow frame.mapped buffer width) memory

/-- `Client::save_frame`; an error carries the line printed before `exit`. -/
def saveFrame
    (answers : CaptureAnswers)
    (buffer : Int)
    (memory : Memory) : Except String Memory :=
  (mapFrame answers).map fun frame => copyLoop frame buffer memory

/-- The byte assignments of one pixel, in program order. -/
def pixelMoves (src dst : Int) (x : Int32) : List ByteMove :=
  [2, 1, 0].map fun channel : Int32 => {
    target := dst + (x * 3 + channel).toInt
    source := src + (x * 4 + channel).toInt
  }

/-- The byte assignments of one row, in program order. -/
def rowMoves
    (mapped : MappedSubresource)
    (buffer : Int)
    (width y : Int32) : List ByteMove :=
  (intRange width).flatMap
    (pixelMoves (rowSource mapped.rowPitch y)
      (rowTarget buffer width y))

/-- All byte assignments of one `save_frame`, in program order. -/
def copyMoves (frame : Frame) (buffer : Int) : List ByteMove :=
  (intRange frame.height.toInt32).flatMap
    (rowMoves frame.mapped buffer frame.width.toInt32)

/-- The outer loop body performs the assignments of its row. -/
theorem copyRow_eq_applyAll
    (mapped : MappedSubresource)
    (buffer : Int)
    (width : Int32)
    (memory : Memory)
    (y : Int32) :
    copyRow mapped buffer width memory y =
      Move.applyAll mapped.pData
        (rowMoves mapped buffer width y) memory := by
  rw [Move.applyAll, rowMoves, List.foldl_flatMap]
  rfl

/-- The loop nest performs exactly the listed assignments, in order. -/
theorem copyLoop_eq_applyAll
    (frame : Frame)
    (buffer : Int)
    (memory : Memory) :
    copyLoop frame buffer memory =
      Move.applyAll frame.mapped.pData
        (copyMoves frame buffer) memory := by
  have rows :
      copyRow frame.mapped buffer frame.width.toInt32 =
        fun middle y =>
          Move.applyAll frame.mapped.pData
            (rowMoves frame.mapped buffer
              frame.width.toInt32 y) middle := by
    funext middle y
    exact copyRow_eq_applyAll _ _ _ _ _
  rw [Move.applyAll, copyMoves, List.foldl_flatMap]
  simp only [copyLoop, rows]
  rfl

end Client

namespace Frame

/-- Iterations of the outer loop; a height of `2 ^ 31` or more gives none. -/
def rows (frame : Frame) : Nat :=
  frame.height.toInt32.toInt.toNat

/-- Iterations of one inner loop; a width of `2 ^ 31` or more gives none. -/
def columns (frame : Frame) : Nat :=
  frame.width.toInt32.toInt.toNat

/-- The pixel column count as the loop's `int`. -/
theorem toInt_width_of_columns_pos
    {frame : Frame}
    (positive : 0 < frame.columns) :
    frame.width.toInt32.toInt = frame.columns := by
  unfold columns at *
  omega

/-- The offset read by assignment number `index` of the loop nest. -/
def sourceAt (frame : Frame) (index : Nat) : Int :=
  let y := Int32.ofNat (index / 3 / frame.columns)
  let x := Int32.ofNat (index / 3 % frame.columns)
  let channel := Int32.ofNat (2 - index % 3)
  Client.rowSource frame.mapped.rowPitch y +
    (x * 4 + channel).toInt

/-- The address written by assignment number `index` of the loop nest. -/
def targetAt
    (frame : Frame)
    (buffer : Int)
    (index : Nat) : Int :=
  let y := Int32.ofNat (index / 3 / frame.columns)
  let x := Int32.ofNat (index / 3 % frame.columns)
  let channel := Int32.ofNat (2 - index % 3)
  Client.rowTarget buffer frame.width.toInt32 y +
    (x * 3 + channel).toInt

/-- Assignment number `index` of the loop nest. -/
def moveAt
    (frame : Frame)
    (buffer : Int)
    (index : Nat) : ByteMove where
  target := frame.targetAt buffer index
  source := frame.sourceAt index

/-- The three loops of the copy enumerate its assignments. -/
theorem copyMoves_eq_map
    (frame : Frame)
    (buffer : Int) :
    Client.copyMoves frame buffer =
      (List.range (frame.rows * frame.columns * 3)).map
        (frame.moveAt buffer) := by
  let pixelAt (pixel : Nat × Nat) : List ByteMove :=
    Client.pixelMoves
      (Client.rowSource frame.mapped.rowPitch
        (Int32.ofNat pixel.1))
      (Client.rowTarget buffer frame.width.toInt32
        (Int32.ofNat pixel.1))
      (Int32.ofNat pixel.2)
  have nest :
      Client.copyMoves frame buffer =
        ((List.range frame.rows).flatMap fun y =>
          (List.range frame.columns).map (Prod.mk y)).flatMap
            pixelAt := by
    rw [List.flatMap_assoc]
    simp only [Client.copyMoves, Client.rowMoves, intRange,
      List.flatMap_map]
    rfl
  have body :
      ∀ pixel,
        pixelAt pixel =
          (List.range 3).map fun channel => {
            target :=
              Client.rowTarget buffer frame.width.toInt32
                  (Int32.ofNat pixel.1) +
                (Int32.ofNat pixel.2 * 3 +
                  Int32.ofNat (2 - channel)).toInt
            source :=
              Client.rowSource frame.mapped.rowPitch
                  (Int32.ofNat pixel.1) +
                (Int32.ofNat pixel.2 * 4 +
                  Int32.ofNat (2 - channel)).toInt
          } := by
    intro pixel
    rfl
  rw [nest, LoopNest.flatMap_range_map_range, List.flatMap_map]
  simp only [body]
  rw [LoopNest.flatMap_range_map_range]
  rfl

/-- A height below `2 ^ 31` gives that many rows. -/
theorem rows_of_lt
    {frame : Frame}
    (small : frame.height.toNat < 2 ^ 31) :
    frame.rows = frame.height.toNat := by
  rw [rows, toInt_toInt32_of_lt small, Int.toNat_natCast]

/-- A width below `2 ^ 31` gives that many columns. -/
theorem columns_of_lt
    {frame : Frame}
    (small : frame.width.toNat < 2 ^ 31) :
    frame.columns = frame.width.toNat := by
  rw [columns, toInt_toInt32_of_lt small, Int.toNat_natCast]

/-- A larger extent makes its loop counter bound negative. -/
theorem rows_mul_columns_of_le
    {frame : Frame}
    (large :
      2 ^ 31 ≤ frame.width.toNat ∨ 2 ^ 31 ≤ frame.height.toNat) :
    frame.rows * frame.columns = 0 := by
  rcases large with wide | tall
  · have negative := toInt_toInt32_neg_of_le wide
    have none : frame.columns = 0 := by
      unfold columns
      omega
    rw [none, Nat.mul_zero]
  · have negative := toInt_toInt32_neg_of_le tall
    have none : frame.rows = 0 := by
      unfold rows
      omega
    rw [none, Nat.zero_mul]

end Frame

end GameCapturer
