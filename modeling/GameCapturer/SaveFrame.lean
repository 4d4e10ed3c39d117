import GameCapturer.PackedFrame

namespace GameCapturer

open Foundation Foundation.WordArithmetic

/-!
# `Client::save_frame` against its buffer

Within Direct3D 11's texture limits the copy is an exact repacking of the
mapped texture.  Whether it stays inside the buffer that `Client::run`
allocated is another matter: the buffer is sized by the announced window, the
loops by the captured desktop, and nothing relates the two.
-/

namespace Frame

/-- The extent of the frame is within Direct3D 11's limit for a texture. -/
structure WithinTextureLimit (frame : Frame) : Prop where
  width : frame.width.toNat ≤ 16384
  height : frame.height.toNat ≤ 16384
  mappedSize :
    frame.mapped.rowPitch.toNat * frame.height.toNat < 2 ^ 32

namespace WithinTextureLimit

variable {frame : Frame} (limit : frame.WithinTextureLimit)

include limit

/-- Within the limit the loops run over the whole texture. -/
theorem extents :
    frame.rows = frame.height.toNat ∧
      frame.columns = frame.width.toNat :=
  ⟨rows_of_lt (by have := limit.height; omega),
    columns_of_lt (by have := limit.width; omega)⟩

/-- Within the limit the packed size is an `int`. -/
theorem packedBytes_le :
    (frame.packedBytes : Int) ≤ intMax := by
  obtain ⟨rows, columns⟩ := limit.extents
  have area :
      frame.height.toNat * frame.width.toNat ≤ 16384 * 16384 :=
    Nat.mul_le_mul limit.height limit.width
  unfold packedBytes intMax
  rw [rows, columns]
  omega

/-- Within the limit every row offset is exact. -/
theorem rowsAddressable : frame.RowsAddressable := by
  have rows := limit.extents.1
  have size := limit.mappedSize
  have below :
      (frame.height.toNat - 1) * frame.mapped.rowPitch.toNat ≤
        frame.height.toNat * frame.mapped.rowPitch.toNat :=
    Nat.mul_le_mul_right _ (Nat.sub_le _ _)
  rw [Nat.mul_comm] at size
  unfold RowsAddressable
  rw [rows]
  exact Nat.lt_of_le_of_lt below size

/-- Within the limit every offset inside a row is exact. -/
theorem rowFitsInt : frame.RowFitsInt := by
  have columns := limit.extents.2
  have width := limit.width
  unfold RowFitsInt intMax
  omega

end WithinTextureLimit

/--
The copy is an exact repacking: every colour channel of every pixel arrives at
its packed offset, nothing else changes, every byte is read from inside the
mapped texture, and no 32-bit index product wraps.
-/
structure Repacked (frame : Frame) : Prop where
  pixels :
    ∀ (buffer : Int) (memory : Memory) {x y channel : Nat},
      x < frame.width.toNat →
      y < frame.height.toNat →
      channel < 3 →
      Client.copyLoop frame buffer memory
          (buffer +
            ((3 * (y * frame.width.toNat + x) + channel : Nat) :
              Int)) =
        frame.mapped.pData
          ((y * frame.mapped.rowPitch.toNat + 4 * x + channel :
            Nat) : Int)
  unchanged :
    ∀ (buffer : Int) (memory : Memory) {address : Int},
      address < buffer ∨
          buffer +
              ((3 * (frame.width.toNat * frame.height.toNat) :
                Nat) : Int) ≤
            address →
      Client.copyLoop frame buffer memory address = memory address
  reads :
    ∀ (buffer : Int),
      ∀ move ∈ Client.copyMoves frame buffer,
        0 ≤ move.source ∧
          move.source <
            ((frame.mapped.rowPitch.toNat *
                  (frame.height.toNat - 1) +
                4 * frame.width.toNat : Nat) : Int)
  targetProducts :
    ∀ {x y : Nat},
      x < frame.width.toNat →
      y < frame.height.toNat →
      (Int32.ofNat y * frame.width.toInt32).toInt =
          (y : Int) * frame.width.toNat ∧
        (Int32.ofNat y * frame.width.toInt32 * 3).toInt =
          (y : Int) * frame.width.toNat * 3 ∧
        (Int32.ofNat x * 3).toInt = (x : Int) * 3
  sourceProduct :
    ∀ {y : Nat},
      y < frame.height.toNat →
      ((Int32.ofNat y).toUInt32 * frame.mapped.rowPitch).toNat =
        y * frame.mapped.rowPitch.toNat

namespace WithinTextureLimit

variable {frame : Frame} (limit : frame.WithinTextureLimit)

include limit

/-- Within the limit a packed pixel offset lies in the packed image. -/
theorem position_lt
    {x y channel : Nat}
    (column : x < frame.width.toNat)
    (row : y < frame.height.toNat)
    (colour : channel < 3) :
    3 * (y * frame.columns + x) + channel < frame.packedBytes := by
  obtain ⟨rows, columns⟩ := limit.extents
  have pixel :
      y * frame.columns + x < frame.rows * frame.columns :=
    LoopNest.position_lt (by omega) (by omega)
  unfold packedBytes
  omega

/-- Within the limit the loop nest stores every pixel channel. -/
theorem copyLoop_pixel
    (buffer : Int)
    (memory : Memory)
    {x y channel : Nat}
    (column : x < frame.width.toNat)
    (row : y < frame.height.toNat)
    (colour : channel < 3) :
    Client.copyLoop frame buffer memory
        (buffer +
          ((3 * (y * frame.columns + x) + channel : Nat) : Int)) =
      frame.channelAt x y channel := by
  have inside := limit.position_lt column row colour
  have columns := limit.extents.2
  rw [copyLoop_inside limit.packedBytes_le buffer memory inside,
    savedByte_eq_packedByte limit.rowsAddressable
      limit.rowFitsInt inside,
    packedByte_position frame (by omega) colour]

/-- Within the limit every assignment reads inside the mapped texture. -/
theorem source_bounds
    {buffer : Int}
    {move : ByteMove}
    (member : move ∈ Client.copyMoves frame buffer) :
    0 ≤ move.source ∧
      move.source <
        ((frame.mapped.rowPitch.toNat *
              (frame.height.toNat - 1) +
            4 * frame.width.toNat : Nat) : Int) := by
  obtain ⟨rows, columns⟩ := limit.extents
  rw [copyMoves_eq_map] at member
  obtain ⟨index, indexMember, rfl⟩ := List.mem_map.mp member
  have inside : index < frame.packedBytes :=
    List.mem_range.mp indexMember
  obtain ⟨row, column⟩ := counters_lt inside
  have below :
      index / 3 / frame.columns * frame.mapped.rowPitch.toNat ≤
        (frame.height.toNat - 1) * frame.mapped.rowPitch.toNat :=
    Nat.mul_le_mul_right _ (by omega)
  have swapped :
      frame.mapped.rowPitch.toNat * (frame.height.toNat - 1) =
        (frame.height.toNat - 1) * frame.mapped.rowPitch.toNat :=
    Nat.mul_comm _ _
  simp only [moveAt,
    sourceAt_exact limit.rowsAddressable limit.rowFitsInt inside]
  unfold sourceOffset
  rw [swapped]
  omega

/-- Within the limit no product of the destination index wraps. -/
theorem targetProducts_exact
    {x y : Nat}
    (column : x < frame.width.toNat)
    (row : y < frame.height.toNat) :
    (Int32.ofNat y * frame.width.toInt32).toInt =
        (y : Int) * frame.width.toNat ∧
      (Int32.ofNat y * frame.width.toInt32 * 3).toInt =
        (y : Int) * frame.width.toNat * 3 ∧
      (Int32.ofNat x * 3).toInt = (x : Int) * 3 := by
  have inside := limit.position_lt column row (Nat.zero_lt_succ 2)
  have packed := limit.packedBytes_le
  have columns := limit.extents.2
  have nonempty : 0 < frame.columns := by omega
  have width := toInt_width_of_columns_pos nonempty
  have three : (3 : Int32).toInt = 3 := rfl
  have rowProducts :=
    rowProducts_exact (y := y) (by omega) nonempty width
  have pixelProduct :
      (Int32.ofNat x * 3).toInt = x * (3 : Int32).toInt :=
    pixelProduct_exact (by decide) (by rw [three]; omega)
  rw [← columns]
  exact ⟨rowProducts.1, rowProducts.2, pixelProduct⟩

/-- Every texture within Direct3D 11's limit is repacked exactly. -/
theorem repacked : frame.Repacked := by
  obtain ⟨rows, columns⟩ := limit.extents
  refine {
    pixels := ?_
    unchanged := ?_
    reads := fun _ _ member => limit.source_bounds member
    targetProducts := limit.targetProducts_exact
    sourceProduct := ?_
  }
  · intro buffer memory x y channel column row colour
    rw [← columns]
    exact limit.copyLoop_pixel buffer memory column row colour
  · intro buffer memory address outside
    apply copyLoop_outside limit.packedBytes_le
    have size :
        frame.packedBytes =
          3 * (frame.width.toNat * frame.height.toNat) := by
      unfold packedBytes
      rw [rows, columns, Nat.mul_comm 3,
        Nat.mul_comm frame.width.toNat]
    rw [size]
    exact outside
  · intro y row
    exact rowProduct_exact limit.rowsAddressable (by omega)

end WithinTextureLimit

/-- A two by two texture whose rows carry four bytes of padding. -/
def paddedSquare : Frame where
  width := 2
  height := 2
  mapped := {
    pData := fun offset => UInt8.ofNat offset.toNat
    rowPitch := 12
  }

/-- The padded square is within the limit and is repacked. -/
theorem repacked_paddedSquare :
    paddedSquare.WithinTextureLimit ∧ paddedSquare.Repacked :=
  have limit : paddedSquare.WithinTextureLimit :=
    ⟨by decide, by decide, by decide⟩
  ⟨limit, limit.repacked⟩

end Frame

/-!
### Staying inside the allocated buffer
-/

namespace Client

/--
Every byte that `save_frame` writes through `buffer` lies inside the block that
`Client::run` allocated and registered for it.
-/
def StaysInside
    (window : Window)
    (buffer : UInt64)
    (frame : Frame) : Prop :=
  ∀ move ∈ copyMoves frame buffer.toNat,
    (buffer.toNat : Int) ≤ move.target ∧
      move.target - buffer.toNat <
        (region window buffer).heapAllocSize.toNat ∧
      move.target - buffer.toNat <
        (region window buffer).registration.cbBuffer.toNat

/-- A packed image no larger than the allocation is written inside it. -/
theorem staysInside_of_le
    {window : Window}
    (fits : window.FrameFitsInt)
    (buffer : UInt64)
    {frame : Frame}
    (smaller : frame.packedBytes ≤ window.frameBytes) :
    StaysInside window buffer frame := by
  have size := Window.toNat_signExtend_frameProduct fits
  have packed : (frame.packedBytes : Int) ≤ intMax := by
    unfold Window.FrameFitsInt at fits
    omega
  intro move member
  rw [Frame.copyMoves_eq_map_packedMove packed] at member
  obtain ⟨index, indexMember, rfl⟩ := List.mem_map.mp member
  have inside : mirrored index < frame.packedBytes :=
    mirrored_lt_iff.mpr (List.mem_range.mp indexMember)
  have below :
      (frame.packedMove buffer.toNat index).target -
          buffer.toNat <
        (bufferSize window).toNat := by
    simp only [Frame.packedMove, bufferSize, size]
    omega
  have above :
      (buffer.toNat : Int) ≤
        (frame.packedMove buffer.toNat index).target := by
    simp only [Frame.packedMove]
    omega
  exact ⟨above, below, below⟩

/-- A larger image has an assignment to the first byte past the allocation. -/
theorem exists_move_past_end
    {window : Window}
    (fits : window.FrameFitsInt)
    (buffer : UInt64)
    {frame : Frame}
    (larger : window.frameBytes < frame.packedBytes) :
    ∃ move ∈ copyMoves frame buffer.toNat,
      move.target =
        buffer.toNat + (region window buffer).heapAllocSize.toNat := by
  have size :
      (region window buffer).heapAllocSize.toNat =
        window.frameBytes :=
    Window.toNat_signExtend_frameProduct fits
  -- The first offset past the end is below `INT_MAX`, so it is exact.
  have mirroredInside :
      mirrored window.frameBytes < frame.packedBytes :=
    mirrored_lt_iff.mpr larger
  have nonempty : 0 < frame.columns := by
    have column := (Frame.counters_lt mirroredInside).2
    omega
  have target :
      frame.targetAt buffer.toNat (mirrored window.frameBytes) =
        buffer.toNat + window.frameBytes := by
    rw [Frame.targetAt_exact nonempty, mirrored_mirrored]
    rw [mirrored_mirrored]
    exact fits
  refine ⟨frame.moveAt buffer.toNat
    (mirrored window.frameBytes), ?_, ?_⟩
  · rw [Frame.copyMoves_eq_map]
    exact List.mem_map_of_mem (List.mem_range.mpr mirroredInside)
  · rw [size]
    exact target

/--
The writes of `save_frame` stay inside the buffer exactly when the captured
desktop has no more pixels than the announced window, or has an extent that is
negative as an `int` and so makes the loops empty.
-/
theorem staysInside_iff
    (window : Window)
    (fits : window.FrameFitsInt)
    (buffer : UInt64)
    (frame : Frame) :
    StaysInside window buffer frame ↔
      frame.width.toNat * frame.height.toNat ≤
          window.width.toNat * window.height.toNat ∨
        2 ^ 31 ≤ frame.width.toNat ∨
        2 ^ 31 ≤ frame.height.toNat := by
  constructor
  · intro inside
    by_contra outside
    obtain ⟨more, narrow, low⟩ :
        window.width.toNat * window.height.toNat <
            frame.width.toNat * frame.height.toNat ∧
          frame.width.toNat < 2 ^ 31 ∧
          frame.height.toNat < 2 ^ 31 := by
      omega
    have larger : window.frameBytes < frame.packedBytes := by
      unfold Window.frameBytes Frame.packedBytes
      rw [Frame.rows_of_lt low, Frame.columns_of_lt narrow,
        Nat.mul_comm frame.height.toNat]
      omega
    obtain ⟨move, member, target⟩ :=
      exists_move_past_end fits buffer larger
    have bounded := (inside move member).2.1
    omega
  · intro smaller
    apply staysInside_of_le fits buffer
    by_cases representable :
        frame.width.toNat < 2 ^ 31 ∧ frame.height.toNat < 2 ^ 31
    · unfold Window.frameBytes Frame.packedBytes
      rw [Frame.rows_of_lt representable.2,
        Frame.columns_of_lt representable.1,
        Nat.mul_comm frame.height.toNat]
      omega
    · unfold Frame.packedBytes
      rw [Frame.rows_mul_columns_of_le (by omega)]
      omega

/-- A desktop of the given extent, with unpadded rows and black pixels. -/
def desktop (width height : UInt32) : Frame where
  width := width
  height := height
  mapped := {
    pData := fun _ => 0
    rowPitch := 4 * width
  }

/-- For the launcher's window a smaller desktop stays inside the buffer. -/
theorem staysInside_launcher :
    Window.launcher.FrameFitsInt ∧
      (StaysInside Window.launcher 0x10000 (desktop 1920 1080) ↔
        (1920 * 1080 ≤ 3840 * 2160 ∨
          2 ^ 31 ≤ 1920 ∨ 2 ^ 31 ≤ 1080)) :=
  have fits : Window.launcher.FrameFitsInt := by decide
  ⟨fits,
    staysInside_iff Window.launcher fits 0x10000
      (desktop 1920 1080)⟩

/-- Nothing keeps the writes inside the buffer on a larger desktop. -/
theorem not_forall_staysInside :
    ¬ ∀ (window : Window) (buffer : UInt64) (frame : Frame),
        window.FrameFitsInt →
        4 * frame.width.toNat ≤ frame.mapped.rowPitch.toNat →
        StaysInside window buffer frame := by
  intro always
  have fits : Window.launcher.FrameFitsInt := by decide
  have inside :=
    always Window.launcher 0x10000 (desktop 5120 2880)
      fits (by decide)
  have larger :
      Window.launcher.frameBytes <
        (desktop 5120 2880).packedBytes := by
    decide
  obtain ⟨move, member, target⟩ :=
    exists_move_past_end fits 0x10000 larger
  have bounded := (inside move member).2.1
  omega

end Client

end GameCapturer
