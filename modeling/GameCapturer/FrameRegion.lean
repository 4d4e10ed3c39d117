import GameCapturer.Channel
import GameCapturer.NetworkDirect
import GameCapturer.Foundation.WordArithmetic

namespace GameCapturer

open Foundation Foundation.StructLoad Foundation.WordArithmetic

/-!
# Frame regions and their sizes

`Client::run`, `Server::run` and `Server::read_frame` each compute the size of
a frame as `width * height * 3` in `int` arithmetic and convert the result to
the width their next call wants.  This module models the three computations
and decides when the six sizes they produce are the exact product.
-/

/-- `width * height * 3`, with both 16-bit operands promoted to `int`. -/
def frameProduct (width height : UInt16) : Int32 :=
  promote width * promote height * 3

namespace Client

/-- What `Client::run` allocates and registers for one window. -/
structure Region where
  heapAllocSize : UInt64
  registration : Registration
  deriving Repr, DecidableEq

/-- `size_t buffer_size` of `Client::run`. -/
def bufferSize (window : Window) : UInt64 :=
  signExtend (frameProduct window.width window.height)

/-- The allocation and registration at `buffer`, the result of `HeapAlloc`. -/
def region (window : Window) (buffer : UInt64) : Region where
  heapAllocSize := bufferSize window
  registration := {
    buffer := buffer
    cbBuffer := bufferSize window
    flags := ndMrFlagAllowRemoteRead
  }

/-- The `Channel` of `Client::run`. -/
def channel
    (window : Window)
    (buffer : UInt64)
    (remoteToken : UInt32) : Channel where
  remoteToken := remoteToken
  remoteAddress := buffer
  window := window

end Client

namespace Server

/-- What `Server::run` maps and registers for one session. -/
structure Region where
  fileMappingSize : UInt32
  viewLength : UInt64
  registration : Registration
  deriving Repr, DecidableEq

/-- `size_t buffer_size` of `Server::run`. -/
def bufferSize (width height : UInt16) : UInt64 :=
  signExtend (frameProduct width height)

/-- The mapping and registration at `buffer`, the result of `MapViewOfFile`. -/
def region (buffer : UInt64) (width height : UInt16) : Region where
  fileMappingSize := (bufferSize width height).toUInt32
  viewLength := bufferSize width height
  registration := {
    buffer := buffer
    cbBuffer := bufferSize width height
    flags := ndMrFlagAllowRemoteWrite
  }

/-- The region of `Server::run`, with its two reads through `channel`. -/
def loadRegion (buffer : UInt64) : Load Region :=
  Load.map₂ (region buffer)
    Channel.loadWindowWidth Channel.loadWindowHeight

/-- `sge` of `Server::read_frame`. -/
def readSge
    (buffer : UInt64)
    (localToken : UInt32)
    (width height : UInt16) : Sge where
  buffer := buffer
  bufferLength := truncate (frameProduct width height)
  memoryRegionToken := localToken

/-- The Read of `Server::read_frame`, with its reads through `channel`. -/
def readFrame
    (buffer : UInt64)
    (localToken : UInt32) : Load ReadRequest :=
  Load.map₂
    (fun sge remote => {
      requestContext := 0
      sge := sge
      remoteAddress := remote.1
      remoteToken := remote.2
      flags := 0
    })
    (Load.map₂ (readSge buffer localToken)
      Channel.loadWindowWidth Channel.loadWindowHeight)
    (Load.map₂ Prod.mk
      Channel.loadRemoteAddress Channel.loadRemoteToken)

/-- The Read that answers a received channel. -/
theorem readFrame_received
    (buffer : UInt64)
    (localToken : UInt32)
    (channel : Channel)
    (padding : Vector UInt8 4)
    (trailing : List UInt8)
    (beyond : Bytes) :
    (readFrame buffer localToken).value
        (channel.received padding trailing beyond) =
      {
        requestContext := 0
        sge :=
          readSge buffer localToken
            channel.window.width channel.window.height
        remoteAddress := channel.remoteAddress
        remoteToken := channel.remoteToken
        flags := 0
      } := by
  simp [readFrame, Load.map₂]

/-- The region that answers a received channel. -/
theorem loadRegion_received
    (buffer : UInt64)
    (channel : Channel)
    (padding : Vector UInt8 4)
    (trailing : List UInt8)
    (beyond : Bytes) :
    (loadRegion buffer).value
        (channel.received padding trailing beyond) =
      region buffer channel.window.width channel.window.height := by
  simp [loadRegion, Load.map₂]

end Server

/-!
### Exact sizes
-/

namespace Window

/-- The exact number of bytes in a packed frame of the window. -/
def frameBytes (window : Window) : Nat :=
  3 * (window.width.toNat * window.height.toNat)

/-- The packed frame size is representable as an `int`. -/
def FrameFitsInt (window : Window) : Prop :=
  (window.frameBytes : Int) ≤ intMax

instance (window : Window) : Decidable window.FrameFitsInt :=
  inferInstanceAs (Decidable (_ ≤ _))

/-- The product of the promoted dimensions, as a mathematical integer. -/
theorem promoted_area (window : Window) :
    (promote window.width).toInt * (promote window.height).toInt =
      ((window.width.toNat * window.height.toNat : Nat) : Int) := by
  rw [toInt_promote, toInt_promote, Int.natCast_mul]

/-- In range, the inner product of the size expression is exact. -/
theorem toInt_area
    {window : Window}
    (fits : window.FrameFitsInt) :
    (promote window.width * promote window.height).toInt =
      ((window.width.toNat * window.height.toNat : Nat) : Int) := by
  have area := window.promoted_area
  have inRange :
      FitsInt
        ((promote window.width).toInt *
          (promote window.height).toInt) := by
    unfold FrameFitsInt frameBytes at fits
    unfold FitsInt intMin
    omega
  rw [toInt_mul_of_fitsInt inRange, area]

/-- In range, the whole size expression is exact. -/
theorem toInt_frameProduct
    {window : Window}
    (fits : window.FrameFitsInt) :
    (frameProduct window.width window.height).toInt =
      window.frameBytes := by
  have area := toInt_area fits
  have three : (3 : Int32).toInt = 3 := rfl
  have exactProduct :
      (promote window.width * promote window.height).toInt *
          (3 : Int32).toInt =
        window.frameBytes := by
    rw [area, three, frameBytes]
    omega
  have inRange :
      FitsInt
        ((promote window.width * promote window.height).toInt *
          (3 : Int32).toInt) := by
    rw [exactProduct]
    exact ⟨by unfold intMin; omega, fits⟩
  rw [frameProduct, toInt_mul_of_fitsInt inRange, exactProduct]

/-- In range, the frame size survives conversion to `size_t`. -/
theorem toNat_signExtend_frameProduct
    {window : Window}
    (fits : window.FrameFitsInt) :
    (signExtend (frameProduct window.width window.height)).toNat =
      window.frameBytes := by
  have exactProduct := toInt_frameProduct fits
  have nonnegative :
      0 ≤ (frameProduct window.width window.height).toInt := by
    omega
  have extended := toNat_signExtend_of_nonneg nonnegative
  omega

/-- In range, the frame size survives conversion to `ULONG`. -/
theorem toNat_truncate_frameProduct
    {window : Window}
    (fits : window.FrameFitsInt) :
    (truncate (frameProduct window.width window.height)).toNat =
      window.frameBytes := by
  have exactProduct := toInt_frameProduct fits
  have nonnegative :
      0 ≤ (frameProduct window.width window.height).toInt := by
    omega
  have truncated := toNat_truncate_of_nonneg nonnegative
  omega

/--
The six sizes of the two programs are the exact frame size, no intermediate
product overflows, and the posted Read stays inside both registered regions.
-/
structure SizesExact (window : Window) : Prop where
  area :
    ¬ MulOverflows (promote window.width) (promote window.height)
  product :
    ¬ MulOverflows
      (promote window.width * promote window.height) 3
  clientHeapAlloc :
    ∀ buffer,
      (Client.region window buffer).heapAllocSize.toNat =
        window.frameBytes
  clientRegister :
    ∀ buffer,
      (Client.region window buffer).registration.cbBuffer.toNat =
        window.frameBytes
  fileMapping :
    ∀ buffer,
      (Server.region buffer window.width
          window.height).fileMappingSize.toNat =
        window.frameBytes
  mapView :
    ∀ buffer,
      (Server.region buffer window.width
          window.height).viewLength.toNat =
        window.frameBytes
  serverRegister :
    ∀ buffer,
      (Server.region buffer window.width
          window.height).registration.cbBuffer.toNat =
        window.frameBytes
  sgeLength :
    ∀ buffer token,
      (Server.readSge buffer token window.width
          window.height).bufferLength.toNat =
        window.frameBytes
  readInsideRegions :
    ∀ clientBuffer serverBuffer token,
      (Server.readSge serverBuffer token window.width
            window.height).bufferLength.toNat ≤
          (Client.region window
            clientBuffer).registration.cbBuffer.toNat ∧
        (Server.readSge serverBuffer token window.width
            window.height).bufferLength.toNat ≤
          (Server.region serverBuffer window.width
            window.height).registration.cbBuffer.toNat

/-- Neither of the two multiplications overflows exactly in range. -/
theorem not_mulOverflows_iff (window : Window) :
    (¬ MulOverflows (promote window.width) (promote window.height) ∧
        ¬ MulOverflows
          (promote window.width * promote window.height) 3) ↔
      window.FrameFitsInt := by
  have area := window.promoted_area
  have three : (3 : Int32).toInt = 3 := rfl
  unfold MulOverflows
  constructor
  · rintro ⟨areaFits, productFits⟩
    rw [not_not] at areaFits productFits
    rw [toInt_mul_of_fitsInt areaFits, area, three] at productFits
    unfold FitsInt at productFits
    unfold FrameFitsInt frameBytes
    omega
  · intro fits
    have areaExact := toInt_area fits
    unfold FrameFitsInt frameBytes at fits
    rw [area, areaExact, three, not_not, not_not]
    unfold FitsInt intMin
    omega

/-- A packed frame takes less than `3 * 2 ^ 32` bytes. -/
theorem frameBytes_lt (window : Window) :
    window.frameBytes < 3 * 2 ^ 32 := by
  have area :
      window.width.toNat * window.height.toNat < 2 ^ 16 * 2 ^ 16 :=
    Nat.mul_lt_mul'' window.width.toNat_lt window.height.toNat_lt
  unfold frameBytes
  omega

/-- `buffer_size` is the exact frame size only in range. -/
theorem frameFitsInt_of_bufferSize
    {window : Window}
    (exact :
      (Client.bufferSize window).toNat = window.frameBytes) :
    window.FrameFitsInt := by
  rw [Client.bufferSize] at exact
  rcases Int.lt_or_le
      (frameProduct window.width window.height).toInt 0 with
    negative | nonnegative
  · -- A wrapped negative product becomes a size near `2 ^ 64`.
    have huge := le_toNat_signExtend_of_neg negative
    have bound := window.frameBytes_lt
    omega
  · have extended := toNat_signExtend_of_nonneg nonnegative
    have upper :=
      (frameProduct window.width window.height).toInt_lt
    unfold FrameFitsInt intMax
    omega

/-- A frame size in range makes all six sizes exact. -/
theorem FrameFitsInt.sizesExact
    {window : Window}
    (fits : window.FrameFitsInt) :
    window.SizesExact := by
  have noOverflow := window.not_mulOverflows_iff.mpr fits
  have extended := toNat_signExtend_frameProduct fits
  have truncated := toNat_truncate_frameProduct fits
  have mapped :
      (signExtend (frameProduct window.width
          window.height)).toUInt32.toNat =
        window.frameBytes := by
    unfold FrameFitsInt intMax at fits
    rw [UInt64.toNat_toUInt32, extended]
    omega
  exact {
    area := noOverflow.1
    product := noOverflow.2
    clientHeapAlloc := fun _ => extended
    clientRegister := fun _ => extended
    fileMapping := fun _ => mapped
    mapView := fun _ => extended
    serverRegister := fun _ => extended
    sgeLength := fun _ _ => truncated
    readInsideRegions := fun _ _ _ =>
      ⟨le_of_eq (truncated.trans extended.symm),
        le_of_eq (truncated.trans extended.symm)⟩
  }

/--
The sizes of both programs are exact precisely for the windows whose packed
frame size is at most `INT_MAX`.
-/
theorem sizesExact_iff (window : Window) :
    window.SizesExact ↔
      3 * (window.width.toNat * window.height.toNat) ≤
        2147483647 := by
  constructor
  · intro exact
    have fits :=
      frameFitsInt_of_bufferSize (exact.clientHeapAlloc 0)
    unfold FrameFitsInt frameBytes intMax at fits
    omega
  · intro small
    have fits : window.FrameFitsInt := by
      unfold FrameFitsInt frameBytes intMax
      omega
    exact fits.sizesExact

/-- A window whose packed frame needs `3 * 2 ^ 30` bytes. -/
def wrapping : Window :=
  { launcher with width := 32768, height := 32768 }

/-- Not every window a channel can carry has exact sizes. -/
theorem not_forall_sizesExact :
    ¬ ∀ window : Window, window.SizesExact := by
  intro always
  have allocated := (always wrapping).clientHeapAlloc 0
  exact absurd allocated (by decide)

end Window

end GameCapturer
