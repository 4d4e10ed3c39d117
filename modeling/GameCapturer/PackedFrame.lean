import GameCapturer.CopyLoop

namespace GameCapturer

open Foundation Foundation.WordArithmetic

/-!
# The packed image a copy leaves

A packed frame stores blue, green and red of every pixel in row-major order.
The copy writes each pixel's bytes in the opposite order, so assignment number
`index` writes offset `mirrored index`.  Under the range conditions stated
here every index expression of the loop nest is exact, and then any prefix of
the copy has a closed description: an offset holds the new byte exactly when
its assignment is in the prefix.
-/

/-- The packed offset written by the assignment with the given number. -/
def mirrored (index : Nat) : Nat :=
  index / 3 * 3 + (2 - index % 3)

@[simp] theorem mirrored_div (index : Nat) :
    mirrored index / 3 = index / 3 := by
  unfold mirrored
  omega

@[simp] theorem mirrored_mod (index : Nat) :
    mirrored index % 3 = 2 - index % 3 := by
  unfold mirrored
  omega

/-- Mirroring within pixels is its own inverse. -/
@[simp] theorem mirrored_mirrored (index : Nat) :
    mirrored (mirrored index) = index := by
  unfold mirrored
  omega

/-- Mirroring stays inside any whole number of pixels. -/
theorem mirrored_lt_iff {index pixels : Nat} :
    mirrored index < pixels * 3 ↔ index < pixels * 3 := by
  unfold mirrored
  omega

namespace Frame

/-- Bytes in the packed image of the frame. -/
def packedBytes (frame : Frame) : Nat :=
  frame.rows * frame.columns * 3

/-- Offset from `pData` of a channel of a pixel, without reduction. -/
def sourceOffset (frame : Frame) (x y channel : Nat) : Nat :=
  y * frame.mapped.rowPitch.toNat + 4 * x + channel

/-- Every row offset is computed without wrapping in unsigned 32 bits. -/
def RowsAddressable (frame : Frame) : Prop :=
  (frame.rows - 1) * frame.mapped.rowPitch.toNat < 2 ^ 32

instance (frame : Frame) : Decidable frame.RowsAddressable :=
  inferInstanceAs (Decidable (_ < _))

/-- Every channel offset inside a row is representable as an `int`. -/
def RowFitsInt (frame : Frame) : Prop :=
  (4 * frame.columns : Int) ≤ intMax

/-- Channel `channel` of pixel `(x, y)`: blue, green, red, alpha. -/
def channelAt (frame : Frame) (x y channel : Nat) : UInt8 :=
  frame.mapped.pData (frame.sourceOffset x y channel)

/-- The byte at an offset of the packed image. -/
def packedByte (frame : Frame) (offset : Nat) : UInt8 :=
  frame.channelAt (offset / 3 % frame.columns)
    (offset / 3 / frame.columns) (offset % 3)

/-- The packed image lists the colour channels of the pixels row by row. -/
theorem packedByte_position
    (frame : Frame)
    {x y channel : Nat}
    (column : x < frame.columns)
    (colour : channel < 3) :
    frame.packedByte (3 * (y * frame.columns + x) + channel) =
      frame.channelAt x y channel := by
  have shape :
      3 * (y * frame.columns + x) + channel =
        (y * frame.columns + x) * 3 + channel := by
    omega
  rw [packedByte, shape, LoopNest.position_div _ colour,
    LoopNest.position_mod _ colour,
    LoopNest.position_div _ column, LoopNest.position_mod _ column]

section Exact

variable {frame : Frame} {buffer : Int} {index : Nat}

/-- While the packed offset is an `int`, both row products are exact. -/
theorem rowProducts_exact
    {width y : Nat}
    (small : (3 * (y * width) : Int) ≤ intMax)
    (nonempty : 0 < width)
    {extent : Int32}
    (extentExact : extent.toInt = width) :
    (Int32.ofNat y * extent).toInt = (y : Int) * width ∧
      (Int32.ofNat y * extent * 3).toInt =
        (y : Int) * width * 3 := by
  have counterBound : y ≤ y * width :=
    Nat.le_mul_of_pos_right y nonempty
  have productCast : ((y * width : Nat) : Int) = (y : Int) * width :=
    Int.natCast_mul y width
  have counter : (Int32.ofNat y).toInt = y :=
    toInt_ofNat_of_le (by omega)
  have area :
      (Int32.ofNat y * extent).toInt = (y : Int) * width := by
    rw [toInt_mul_of_fitsInt, counter, extentExact]
    rw [counter, extentExact]
    exact ⟨by unfold intMin; omega, by omega⟩
  have three : (3 : Int32).toInt = 3 := rfl
  refine ⟨area, ?_⟩
  rw [toInt_mul_of_fitsInt, area, three]
  rw [area, three]
  exact ⟨by unfold intMin; omega, by omega⟩

/-- While the packed offset is an `int`, the row target is exact. -/
theorem rowTarget_exact
    {width y : Nat}
    (small : (3 * (y * width) : Int) ≤ intMax)
    (nonempty : 0 < width)
    {extent : Int32}
    (extentExact : extent.toInt = width) :
    Client.rowTarget buffer extent (Int32.ofNat y) =
      buffer + 3 * (y * width) := by
  have products := rowProducts_exact small nonempty extentExact
  rw [Client.rowTarget, products.2]
  omega

/-- A scaled pixel counter is exact while it is an `int`. -/
theorem pixelProduct_exact
    {x : Nat}
    {scale : Int32}
    (positive : 0 < scale.toInt)
    (small : x * scale.toInt ≤ intMax) :
    (Int32.ofNat x * scale).toInt = x * scale.toInt := by
  have scaled : (x : Int) * 1 ≤ x * scale.toInt :=
    Int.mul_le_mul_of_nonneg_left (by omega) (by omega)
  have counter : (Int32.ofNat x).toInt = x :=
    toInt_ofNat_of_le (by omega)
  rw [toInt_mul_of_fitsInt, counter]
  rw [counter]
  exact ⟨by unfold intMin; omega, small⟩

/-- A byte offset inside a row is exact while it is an `int`. -/
theorem pixelOffset_exact
    {x channel : Nat}
    {scale : Int32}
    (positive : 0 < scale.toInt)
    (small : x * scale.toInt + channel ≤ intMax) :
    (Int32.ofNat x * scale + Int32.ofNat channel).toInt =
      x * scale.toInt + channel := by
  have nonnegative : (x : Int) * 0 ≤ x * scale.toInt :=
    Int.mul_le_mul_of_nonneg_left (by omega) (by omega)
  have offset : (Int32.ofNat channel).toInt = channel :=
    toInt_ofNat_of_le (by omega)
  have product :
      (Int32.ofNat x * scale).toInt = x * scale.toInt :=
    pixelProduct_exact positive (by omega)
  rw [toInt_add_of_fitsInt, product, offset]
  rw [product, offset]
  exact ⟨by unfold intMin; omega, small⟩

/-- While the packed offset is an `int`, the written address is exact. -/
theorem targetAt_exact
    (nonempty : 0 < frame.columns)
    (small : (mirrored index : Int) ≤ intMax) :
    frame.targetAt buffer index = buffer + mirrored index := by
  have pixel := Nat.div_add_mod' (index / 3) frame.columns
  have width := toInt_width_of_columns_pos nonempty
  have three : (3 : Int32).toInt = 3 := rfl
  unfold mirrored at small ⊢
  have row :
      Client.rowTarget buffer frame.width.toInt32
          (Int32.ofNat (index / 3 / frame.columns)) =
        buffer +
          3 * (((index / 3 / frame.columns : Nat) : Int) *
            frame.columns) :=
    rowTarget_exact (by omega) nonempty width
  have column :
      (Int32.ofNat (index / 3 % frame.columns) * 3 +
          Int32.ofNat (2 - index % 3)).toInt =
        ((index / 3 % frame.columns : Nat) : Int) *
            (3 : Int32).toInt +
          ((2 - index % 3 : Nat) : Int) :=
    pixelOffset_exact (by decide) (by rw [three]; omega)
  simp only [targetAt, row, column, three]
  omega

/-- Assignment numbers stay below the packed size. -/
theorem counters_lt
    (inside : index < frame.packedBytes) :
    index / 3 / frame.columns < frame.rows ∧
      index / 3 % frame.columns < frame.columns := by
  have pixel : index / 3 < frame.rows * frame.columns := by
    unfold packedBytes at inside
    omega
  have nonempty : 0 < frame.columns := by
    rcases Nat.eq_zero_or_pos frame.columns with zero | positive
    · rw [zero] at pixel
      omega
    · exact positive
  exact ⟨Nat.div_lt_of_lt_mul (by rwa [Nat.mul_comm]),
    Nat.mod_lt _ nonempty⟩

/-- With addressable rows, the unsigned row product is exact. -/
theorem rowProduct_exact
    (addressable : frame.RowsAddressable)
    {y : Nat}
    (row : y < frame.rows) :
    ((Int32.ofNat y).toUInt32 * frame.mapped.rowPitch).toNat =
      y * frame.mapped.rowPitch.toNat := by
  have rowsBound : frame.rows < 2 ^ 31 := by
    have upper := frame.height.toInt32.toInt_lt
    unfold rows
    omega
  have below :
      y * frame.mapped.rowPitch.toNat ≤
        (frame.rows - 1) * frame.mapped.rowPitch.toNat :=
    Nat.mul_le_mul_right _ (by omega)
  have counter :
      (Int32.ofNat y).toUInt32.toNat = y := by
    rw [Int32.toUInt32_ofNat', UInt32.toNat_ofNat']
    exact Nat.mod_eq_of_lt (by omega)
  unfold RowsAddressable at addressable
  rw [toNat_mul_of_lt, counter]
  rw [counter]
  omega

/-- With addressable rows of `int` width, the read offset is exact. -/
theorem sourceAt_exact
    (addressable : frame.RowsAddressable)
    (rowFits : frame.RowFitsInt)
    (inside : index < frame.packedBytes) :
    frame.sourceAt index =
      ((frame.sourceOffset (index / 3 % frame.columns)
        (index / 3 / frame.columns) (2 - index % 3) : Nat) :
          Int) := by
  obtain ⟨rowBound, columnBound⟩ := counters_lt inside
  have four : (4 : Int32).toInt = 4 := rfl
  have row :
      Client.rowSource frame.mapped.rowPitch
          (Int32.ofNat (index / 3 / frame.columns)) =
        ((index / 3 / frame.columns *
          frame.mapped.rowPitch.toNat : Nat) : Int) := by
    rw [Client.rowSource, rowProduct_exact addressable rowBound]
  have column :
      (Int32.ofNat (index / 3 % frame.columns) * 4 +
          Int32.ofNat (2 - index % 3)).toInt =
        ((index / 3 % frame.columns : Nat) : Int) *
            (4 : Int32).toInt +
          ((2 - index % 3 : Nat) : Int) := by
    apply pixelOffset_exact (by decide)
    unfold RowFitsInt at rowFits
    rw [four]
    omega
  simp only [sourceAt, row, column, four]
  unfold sourceOffset
  omega

end Exact

/-- The byte that the copy stores at a packed offset. -/
def savedByte (frame : Frame) (offset : Nat) : UInt8 :=
  frame.mapped.pData (frame.sourceAt (mirrored offset))

/-- With exact source offsets the copy stores the packed image. -/
theorem savedByte_eq_packedByte
    {frame : Frame}
    (addressable : frame.RowsAddressable)
    (rowFits : frame.RowFitsInt)
    {offset : Nat}
    (inside : offset < frame.packedBytes) :
    frame.savedByte offset = frame.packedByte offset := by
  have mirroredInside : mirrored offset < frame.packedBytes :=
    mirrored_lt_iff.mpr inside
  have channel : 2 - mirrored offset % 3 = offset % 3 := by
    rw [mirrored_mod]
    omega
  rw [savedByte,
    sourceAt_exact addressable rowFits mirroredInside,
    mirrored_div, channel, packedByte, channelAt]

/-- Assignment `index` with its exact target. -/
def packedMove
    (frame : Frame)
    (buffer : Int)
    (index : Nat) : ByteMove where
  target := buffer + mirrored index
  source := frame.sourceAt index

/-- Distinct assignments have distinct exact targets. -/
theorem scattered_packedMove (frame : Frame) (buffer : Int) :
    Move.Scattered (frame.packedMove buffer) := by
  intro first second same
  have offsets : mirrored first = mirrored second := by
    simp only [packedMove] at same
    omega
  rw [← mirrored_mirrored first, offsets, mirrored_mirrored]

section Packed

variable
  {frame : Frame}
  (small : (frame.packedBytes : Int) ≤ intMax)

include small

/-- When the packed size is an `int`, every written address is exact. -/
theorem copyMoves_eq_map_packedMove (buffer : Int) :
    Client.copyMoves frame buffer =
      (List.range frame.packedBytes).map
        (frame.packedMove buffer) := by
  rw [copyMoves_eq_map]
  apply List.map_congr_left
  intro index member
  have inside : index < frame.packedBytes :=
    List.mem_range.mp member
  have nonempty : 0 < frame.columns := by
    have column := (counters_lt inside).2
    omega
  have mirroredInside : mirrored index < frame.packedBytes :=
    mirrored_lt_iff.mpr inside
  have exactTarget :
      frame.targetAt buffer index = buffer + mirrored index :=
    targetAt_exact nonempty (by omega)
  rw [moveAt, packedMove, exactTarget]

/--
After `count` assignments an offset of the packed image holds the new byte
exactly when its own assignment is among them.
-/
theorem lastWritten_take
    (buffer : Int)
    (count : Nat)
    {offset : Nat}
    (inside : offset < frame.packedBytes) :
    Move.lastWritten frame.mapped.pData
        ((Client.copyMoves frame buffer).take count)
        (buffer + offset) =
      if mirrored offset < count then
        some (frame.savedByte offset)
      else
        none := by
  have mirroredInside : mirrored offset < frame.packedBytes :=
    mirrored_lt_iff.mpr inside
  have written :=
    (scattered_packedMove frame buffer).lastWritten_range
      frame.mapped.pData (min count frame.packedBytes)
      (mirrored offset)
  have target :
      (frame.packedMove buffer (mirrored offset)).target =
        buffer + offset := by
    rw [packedMove, mirrored_mirrored]
  have counted :
      mirrored offset < min count frame.packedBytes ↔
        mirrored offset < count := by
    omega
  -- `mirrored` is its own inverse: offset and assignment name each other.
  rw [target] at written
  rw [copyMoves_eq_map_packedMove small, ← List.map_take,
    List.take_range, written]
  simp only [counted]
  rfl

/-- No assignment of the copy touches an address outside the packed image. -/
theorem lastWritten_outside
    (buffer : Int)
    (count : Nat)
    {address : Int}
    (outside :
      address < buffer ∨ buffer + frame.packedBytes ≤ address) :
    Move.lastWritten frame.mapped.pData
        ((Client.copyMoves frame buffer).take count) address =
      none := by
  apply Move.lastWritten_eq_none_iff.mpr
  intro move member
  rw [copyMoves_eq_map_packedMove small] at member
  obtain ⟨index, indexMember, rfl⟩ :=
    List.mem_map.mp (List.mem_of_mem_take member)
  have mirroredInside : mirrored index < frame.packedBytes :=
    mirrored_lt_iff.mpr (List.mem_range.mp indexMember)
  simp only [packedMove]
  omega

/-- A whole copy stores the saved byte at every packed offset. -/
theorem copyLoop_inside
    (buffer : Int)
    (memory : Memory)
    {offset : Nat}
    (inside : offset < frame.packedBytes) :
    Client.copyLoop frame buffer memory (buffer + offset) =
      frame.savedByte offset := by
  have written :=
    lastWritten_take small buffer frame.packedBytes inside
  have mirroredInside : mirrored offset < frame.packedBytes :=
    mirrored_lt_iff.mpr inside
  have whole :
      (Client.copyMoves frame buffer).take frame.packedBytes =
        Client.copyMoves frame buffer := by
    apply List.take_of_length_le
    simp [copyMoves_eq_map, packedBytes]
  rw [whole, if_pos mirroredInside] at written
  rw [Client.copyLoop_eq_applyAll, Move.applyAll_apply, written,
    Option.getD_some]

/-- A whole copy changes nothing outside the packed image. -/
theorem copyLoop_outside
    (buffer : Int)
    (memory : Memory)
    {address : Int}
    (outside :
      address < buffer ∨ buffer + frame.packedBytes ≤ address) :
    Client.copyLoop frame buffer memory address =
      memory address := by
  have unwritten :=
    lastWritten_outside small buffer
      (Client.copyMoves frame buffer).length outside
  rw [List.take_length] at unwritten
  rw [Client.copyLoop_eq_applyAll, Move.applyAll_apply, unwritten,
    Option.getD_none]

end Packed

end Frame

end GameCapturer
