import GameCapturer.Foundation.StepFunction
import Mathlib.Tactic.Ring

namespace GameCapturer

/-!
# The part of the NetworkDirect interface the programs use

Status codes, registration flags and request records follow `ndstatus.h`,
`nddef.h` and `ndspi.h`.  The provider itself is outside the repository; the
only behaviour fixed here is what an RDMA Read does to the reader's memory.
-/

/-- `HRESULT`, a signed 32-bit status. -/
abbrev HResult := Int32

/-- `ND_SUCCESS` -/
def ndSuccess : HResult := 0

/-- `ND_PENDING` -/
def ndPending : HResult := 0x103

/-- `ND_CONNECTION_INVALID` -/
def ndConnectionInvalid : HResult := 0xC000023A

/-- `ND_CONNECTION_ABORTED` -/
def ndConnectionAborted : HResult := 0xC0000241

/-- `ND_BUFFER_OVERFLOW` -/
def ndBufferOverflow : HResult := 0x80000005

/-- `ND_UNSUCCESSFUL` -/
def ndUnsuccessful : HResult := 0xC0000001

/-- `ND_NO_MEMORY` -/
def ndNoMemory : HResult := 0xC0000017

/-- `ND_DEVICE_NOT_READY` -/
def ndDeviceNotReady : HResult := 0xC00000A3

/-- `ND_INVALID_PARAMETER_2` -/
def ndInvalidParameter2 : HResult := 0xC00000F0

/-- `ND_INVALID_ADDRESS` -/
def ndInvalidAddress : HResult := 0xC0000141

/-- `ND_NETWORK_UNREACHABLE` -/
def ndNetworkUnreachable : HResult := 0xC000023C

/-- The `FAILED` macro: the severity bit is the sign bit. -/
def Failed (status : HResult) : Prop :=
  status < 0

instance (status : HResult) : Decidable (Failed status) :=
  inferInstanceAs (Decidable (_ < _))

/-- `ND_MR_FLAG_ALLOW_REMOTE_READ` -/
def ndMrFlagAllowRemoteRead : UInt32 := 0x2

/-- `ND_MR_FLAG_ALLOW_REMOTE_WRITE`, which includes local write. -/
def ndMrFlagAllowRemoteWrite : UInt32 := 0x5

/-- The arguments of `IND2MemoryRegion::Register`. -/
structure Registration where
  buffer : UInt64
  cbBuffer : UInt64
  flags : UInt32
  deriving Repr, DecidableEq

/-- `ND2_SGE` -/
structure Sge where
  buffer : UInt64
  bufferLength : UInt32
  memoryRegionToken : UInt32
  deriving Repr, DecidableEq

/-- The arguments of `IND2QueuePair::Read` with a single scatter entry. -/
structure ReadRequest where
  requestContext : UInt64
  sge : Sge
  remoteAddress : UInt64
  remoteToken : UInt32
  flags : UInt32
  deriving Repr, DecidableEq

/-- The byte memory of one process. -/
abbrev Memory := Int → UInt8

namespace ReadRequest

/-- An address lies in the scatter entry of the request. -/
def Covers (request : ReadRequest) (address : Int) : Prop :=
  request.sge.buffer.toNat ≤ address ∧
    address <
      request.sge.buffer.toNat + request.sge.bufferLength.toNat

instance (request : ReadRequest) (address : Int) :
    Decidable (request.Covers address) :=
  inferInstanceAs (Decidable (_ ∧ _))

/--
A served Read copies `BufferLength` bytes from the remote address to the
scatter entry and changes nothing else.
-/
def serve
    (request : ReadRequest)
    (peer reader : Memory) : Memory :=
  fun address =>
    if request.Covers address then
      peer (request.remoteAddress.toNat +
        (address - request.sge.buffer.toNat))
    else
      reader address

/-- A served Read delivers the peer's byte at every offset of the entry. -/
theorem serve_at
    (request : ReadRequest)
    (peer reader : Memory)
    {offset : Nat}
    (inside : offset < request.sge.bufferLength.toNat) :
    request.serve peer reader (request.sge.buffer.toNat + offset) =
      peer (request.remoteAddress.toNat + offset) := by
  have covered :
      request.Covers (request.sge.buffer.toNat + offset) := by
    unfold Covers
    omega
  have distance :
      ((request.sge.buffer.toNat : Int) + offset) -
          request.sge.buffer.toNat =
        offset := by
    omega
  simp only [serve, covered, ↓reduceIte, distance]

/-- A served Read leaves every address outside the entry unchanged. -/
theorem serve_outside
    (request : ReadRequest)
    (peer reader : Memory)
    {address : Int}
    (outside : ¬ request.Covers address) :
    request.serve peer reader address = reader address := by
  simp only [serve, outside, ↓reduceIte]

end ReadRequest

end GameCapturer
