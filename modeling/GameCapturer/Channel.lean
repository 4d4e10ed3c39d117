import GameCapturer.Foundation.StructLoad

namespace GameCapturer

open Foundation Foundation.StructLoad

/-!
# The channel record sent as connection private data

`window.h` and `channel.h` declare two plain structs.  The client passes the
object representation of a `Channel` to `Connect`; the server casts the bytes
it gets back to `Channel *` and reads single fields through that pointer.  The
offsets below are those of the x64 layout, where `remote_address` is aligned to
eight bytes.
-/

/-- `struct Window` of `window.h`. -/
structure Window where
  id : UInt8
  windowTitle : Vector UInt8 35
  width : UInt16
  height : UInt16
  deriving Repr, DecidableEq

/-- `struct Channel` of `channel.h`. -/
structure Channel where
  remoteToken : UInt32
  remoteAddress : UInt64
  window : Window
  deriving Repr, DecidableEq

namespace Window

/-- The object representation of a `Window`; the struct has no padding. -/
def encode (window : Window) : List UInt8 :=
  window.id :: window.windowTitle.toList ++
    StructLoad.encode 2 window.width.toNat ++
    StructLoad.encode 2 window.height.toNat

@[simp] theorem length_encode (window : Window) :
    window.encode.length = 40 := by
  simp [encode]

/-- The one window announced by `main` of `launcher.cpp`, "test window". -/
def launcher : Window where
  id := 1
  windowTitle := ⟨#[
    116, 101, 115, 116, 32, 119, 105, 110, 100, 111, 119,
    0, 0, 0, 0, 0, 0, 0, 0, 0, 0, 0, 0,
    0, 0, 0, 0, 0, 0, 0, 0, 0, 0, 0, 0], rfl⟩
  width := 3840
  height := 2160

end Window

namespace Channel

/-- `sizeof(struct Channel)`. -/
def size : Nat := 56

/--
The object representation of a `Channel`.  Aggregate initialisation leaves the
four bytes between `remote_token` and `remote_address` unspecified.
-/
def encode
    (channel : Channel)
    (padding : Vector UInt8 4) : List UInt8 :=
  StructLoad.encode 4 channel.remoteToken.toNat ++
    padding.toList ++
    StructLoad.encode 8 channel.remoteAddress.toNat ++
    channel.window.encode

@[simp] theorem length_encode
    (channel : Channel)
    (padding : Vector UInt8 4) :
    (channel.encode padding).length = size := by
  simp [encode, size]

/-- `channel->remote_token` -/
def loadRemoteToken : Load UInt32 :=
  (Load.scalar 0 4).map UInt32.ofNat

/-- `channel->remote_address` -/
def loadRemoteAddress : Load UInt64 :=
  (Load.scalar 8 8).map UInt64.ofNat

/-- `channel->window.width` -/
def loadWindowWidth : Load UInt16 :=
  (Load.scalar 52 2).map UInt16.ofNat

/-- `channel->window.height` -/
def loadWindowHeight : Load UInt16 :=
  (Load.scalar 54 2).map UInt16.ofNat

section Received

variable
  (channel : Channel)
  (padding : Vector UInt8 4)
  (trailing : List UInt8)
  (beyond : Bytes)

/-- The memory the server casts when it was sent the client's encoding. -/
def received : Bytes :=
  block (channel.encode padding ++ trailing) beyond

/-- The received token is the sent one. -/
@[simp] theorem loadRemoteToken_received :
    loadRemoteToken.value
        (channel.received padding trailing beyond) =
      channel.remoteToken := by
  have shape :
      channel.encode padding ++ trailing =
        [] ++ StructLoad.encode 4 channel.remoteToken.toNat ++
          (padding.toList ++
            StructLoad.encode 8 channel.remoteAddress.toNat ++
            channel.window.encode ++ trailing) := by
    simp only [encode, List.nil_append, List.append_assoc]
  have decoded :
      decode (block (channel.encode padding ++ trailing) beyond)
          0 4 =
        channel.remoteToken.toNat :=
    decode_block_field shape (by simp) channel.remoteToken.toNat_lt
      beyond
  simp only [loadRemoteToken, Load.map, Load.scalar, received,
    decoded, UInt32.ofNat_toNat]

/-- The received address is the sent one. -/
@[simp] theorem loadRemoteAddress_received :
    loadRemoteAddress.value
        (channel.received padding trailing beyond) =
      channel.remoteAddress := by
  have shape :
      channel.encode padding ++ trailing =
        (StructLoad.encode 4 channel.remoteToken.toNat ++
            padding.toList) ++
          StructLoad.encode 8 channel.remoteAddress.toNat ++
          (channel.window.encode ++ trailing) := by
    simp only [encode, List.append_assoc]
  have decoded :
      decode (block (channel.encode padding ++ trailing) beyond)
          8 8 =
        channel.remoteAddress.toNat :=
    decode_block_field shape (by simp)
      channel.remoteAddress.toNat_lt beyond
  simp only [loadRemoteAddress, Load.map, Load.scalar, received,
    decoded, UInt64.ofNat_toNat]

/-- The received window width is the sent one. -/
@[simp] theorem loadWindowWidth_received :
    loadWindowWidth.value
        (channel.received padding trailing beyond) =
      channel.window.width := by
  have shape :
      channel.encode padding ++ trailing =
        (StructLoad.encode 4 channel.remoteToken.toNat ++
            padding.toList ++
            StructLoad.encode 8 channel.remoteAddress.toNat ++
            (channel.window.id ::
              channel.window.windowTitle.toList)) ++
          StructLoad.encode 2 channel.window.width.toNat ++
          (StructLoad.encode 2 channel.window.height.toNat ++
            trailing) := by
    simp only [encode, Window.encode, List.append_assoc]
  have decoded :
      decode (block (channel.encode padding ++ trailing) beyond)
          52 2 =
        channel.window.width.toNat :=
    decode_block_field shape (by simp)
      channel.window.width.toNat_lt beyond
  simp only [loadWindowWidth, Load.map, Load.scalar, received,
    decoded, UInt16.ofNat_toNat]

/-- The received window height is the sent one. -/
@[simp] theorem loadWindowHeight_received :
    loadWindowHeight.value
        (channel.received padding trailing beyond) =
      channel.window.height := by
  have shape :
      channel.encode padding ++ trailing =
        (StructLoad.encode 4 channel.remoteToken.toNat ++
            padding.toList ++
            StructLoad.encode 8 channel.remoteAddress.toNat ++
            (channel.window.id ::
              channel.window.windowTitle.toList) ++
            StructLoad.encode 2 channel.window.width.toNat) ++
          StructLoad.encode 2 channel.window.height.toNat ++
          trailing := by
    simp only [encode, Window.encode, List.append_assoc]
  have decoded :
      decode (block (channel.encode padding ++ trailing) beyond)
          54 2 =
        channel.window.height.toNat :=
    decode_block_field shape (by simp)
      channel.window.height.toNat_lt beyond
  simp only [loadWindowHeight, Load.map, Load.scalar, received,
    decoded, UInt16.ofNat_toNat]

end Received

end Channel

end GameCapturer
