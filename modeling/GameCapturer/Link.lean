import GameCapturer.PackedFrame
import GameCapturer.ServerRun

namespace GameCapturer

open Foundation Foundation.StructLoad

/-!
# An established link between the two programs

After the handshake the client owns a registered buffer, and the server a
session started from the client's encoded channel.  The record below carries
the proof of that start, so every later result speaks about the Read that the
server's code posts for this client.
-/

/-- A client's region together with the session the server started for it. -/
structure Link where
  window : Window
  clientBuffer : UInt64
  remoteToken : UInt32
  padding : Vector UInt8 4
  trailing : List UInt8
  beyond : Bytes
  answers : Server.MappingAnswers
  session : Server.Session
  started :
    Server.run
        ((Client.channel window clientBuffer remoteToken).encode
          padding ++ trailing)
        beyond answers =
      .ok session

namespace Link

/-- A link for a window of the given size, without provider padding. -/
def sized (width height : UInt16) : Link where
  window := { Window.launcher with width, height }
  clientBuffer := 0x10000
  remoteToken := 5
  padding := Vector.replicate 4 0
  trailing := []
  beyond := fun _ => 0
  answers := .succeeding
  session := _
  started :=
    Server.run_eq_ok_iff.mpr ⟨by decide, by decide, rfl⟩

/-- The server's mapped view, the `buffer` of its read loop. -/
def view (link : Link) : UInt64 :=
  link.answers.view

/-- The Read posted by each `read_frame` call of the link's session. -/
def request (link : Link) : ReadRequest :=
  link.session.request

/-- Every field of the posted Read, in terms of what both sides registered. -/
theorem request_eq (link : Link) :
    link.request = {
      requestContext := 0
      sge :=
        Server.readSge link.view link.answers.localToken
          link.window.width link.window.height
      remoteAddress := link.clientBuffer
      remoteToken := link.remoteToken
      flags := 0
    } :=
  (Server.run_encode link.started).request_eq

/-- Bytes transferred by one Read. -/
def readLength (link : Link) : Nat :=
  link.request.sge.bufferLength.toNat

/-- In range, a Read transfers exactly one packed frame. -/
theorem readLength_eq
    {link : Link}
    (fits : link.window.FrameFitsInt) :
    link.readLength = link.window.frameBytes := by
  rw [readLength, request_eq]
  exact Window.toNat_truncate_frameProduct fits

/-- A served Read copies the client's buffer to the server's view. -/
theorem serve_view
    (link : Link)
    (client server : Memory)
    {offset : Nat}
    (inside : offset < link.readLength) :
    link.request.serve client server (link.view.toNat + offset) =
      client (link.clientBuffer.toNat + offset) := by
  have served := link.request.serve_at client server inside
  simpa only [request_eq, Server.readSge] using served

end Link

namespace Window

/-- A captured frame has the extent announced by the window. -/
structure Announces (window : Window) (frame : Frame) : Prop where
  width : frame.width.toNat = window.width.toNat
  height : frame.height.toNat = window.height.toNat

namespace Announces

variable
  {window : Window}
  {frame : Frame}
  (announced : window.Announces frame)

include announced

/-- The copy loops run over the announced extent. -/
theorem extents :
    frame.rows = window.height.toNat ∧
      frame.columns = window.width.toNat := by
  have wide := window.width.toNat_lt
  have tall := window.height.toNat_lt
  have width := announced.width
  have height := announced.height
  constructor
  · rw [Frame.rows_of_lt (by omega), height]
  · rw [Frame.columns_of_lt (by omega), width]

/-- The packed image of an announced frame fills the announced size. -/
theorem packedBytes_eq :
    frame.packedBytes = window.frameBytes := by
  obtain ⟨rows, columns⟩ := announced.extents
  rw [Frame.packedBytes, rows, columns, frameBytes, Nat.mul_comm,
    Nat.mul_comm window.height.toNat]

/-- In range, the packed size of an announced frame is an `int`. -/
theorem packedBytes_le
    (fits : window.FrameFitsInt) :
    (frame.packedBytes : Int) ≤ WordArithmetic.intMax := by
  rw [announced.packedBytes_eq]
  exact fits

/-- A row of at most `2 ^ 16` pixels has `int` offsets. -/
theorem rowFitsInt : frame.RowFitsInt := by
  have columns := announced.extents.2
  have wide := window.width.toNat_lt
  unfold Frame.RowFitsInt WordArithmetic.intMax
  omega

end Announces

/--
Memory from `base` on is the packed image of the frame: every byte of it is a
blue, green or red channel of the pixel it belongs to.
-/
structure Shows
    (window : Window)
    (base : Int)
    (frame : Frame)
    (memory : Memory) : Prop where
  pixel :
    ∀ x y channel,
      x < window.width.toNat →
      y < window.height.toNat →
      channel < 3 →
      memory
          (base + (3 * (y * window.width.toNat + x) + channel : Nat)) =
        frame.channelAt x y channel
  determined :
    ∀ offset,
      offset < 3 * (window.width.toNat * window.height.toNat) →
      ∃ x y channel,
        x < window.width.toNat ∧
          y < window.height.toNat ∧
          channel < 3 ∧
          offset = 3 * (y * window.width.toNat + x) + channel ∧
          memory (base + offset) = frame.channelAt x y channel

/-- Holding every packed byte shows the frame. -/
theorem Announces.shows
    {window : Window}
    {frame : Frame}
    (announced : window.Announces frame)
    {base : Int}
    {memory : Memory}
    (packed :
      ∀ offset < window.frameBytes,
        memory (base + offset) = frame.packedByte offset) :
    window.Shows base frame memory := by
  obtain ⟨rows, columns⟩ := announced.extents
  refine {
    pixel := ?_
    determined := ?_
  }
  · intro x y channel column row colour
    have pixelInside :
        y * window.width.toNat + x <
          window.height.toNat * window.width.toNat :=
      LoopNest.position_lt row column
    rw [Nat.mul_comm window.height.toNat] at pixelInside
    rw [packed _ (by unfold frameBytes; omega), ← columns]
    exact frame.packedByte_position (by omega) colour
  · intro offset inside
    have packedInside : offset < frame.packedBytes := by
      rw [announced.packedBytes_eq]
      exact inside
    obtain ⟨row, column⟩ := Frame.counters_lt packedInside
    have pixel := Nat.div_add_mod' (offset / 3) frame.columns
    refine ⟨offset / 3 % frame.columns,
      offset / 3 / frame.columns, offset % 3, ?_, ?_, ?_, ?_, ?_⟩
    · omega
    · omega
    · omega
    · rw [← columns]
      omega
    · exact packed offset inside

end Window

end GameCapturer
