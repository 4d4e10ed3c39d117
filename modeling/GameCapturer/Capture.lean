import GameCapturer.NetworkDirect

namespace GameCapturer

/-!
# Capturing one desktop frame

`capture_frame` duplicates the desktop output, copies the acquired image into a
staging texture and reports its description; the first half of
`Client::save_frame` maps that texture.  The answers of the Direct3D and DXGI
calls are inputs, so every sequence of outcomes is covered.
-/

/-- The fields of `D3D11_TEXTURE2D_DESC` that the capture reads or sets. -/
structure Texture2DDesc where
  width : UInt32
  height : UInt32
  usage : UInt32
  bindFlags : UInt32
  cpuAccessFlags : UInt32
  miscFlags : UInt32
  deriving Repr, DecidableEq

/-- `D3D11_TEXTURE2D_DESC desc = {}` -/
def Texture2DDesc.zero : Texture2DDesc where
  width := 0
  height := 0
  usage := 0
  bindFlags := 0
  cpuAccessFlags := 0
  miscFlags := 0

/-- `D3D11_USAGE_STAGING` -/
def d3d11UsageStaging : UInt32 := 3

/-- `D3D11_CPU_ACCESS_READ` -/
def d3d11CpuAccessRead : UInt32 := 0x20000

/-- `D3D11_MAPPED_SUBRESOURCE`: the bytes from `pData` on and the pitch. -/
structure MappedSubresource where
  pData : Int → UInt8
  rowPitch : UInt32

/-- What the Direct3D and DXGI calls answer during one `save_frame`. -/
structure CaptureAnswers where
  createDevice : HResult
  duplicateOutput : HResult
  acquireNextFrame : HResult
  getDesc : Texture2DDesc
  createTexture2D : HResult
  mapInCapture : HResult
  mapInSave : HResult
  mapped : MappedSubresource

/-- Return value and outputs of `capture_frame`. -/
structure CaptureResult where
  code : Int32
  outTexture : Option Texture2DDesc
  outDesc : Option Texture2DDesc
  frameAcquired : Bool
  frameReleased : Bool
  deriving Repr, DecidableEq

/-- `descStaging` of `capture_frame`. -/
def Texture2DDesc.staging (desc : Texture2DDesc) : Texture2DDesc :=
  { desc with
    cpuAccessFlags := d3d11CpuAccessRead
    usage := d3d11UsageStaging
    bindFlags := 0
    miscFlags := 0 }

/--
`capture_frame`.  `device` and `context` say whether the caller passed them;
`outDesc` is `none` for a null pointer.  The last two fields record whether
`AcquireNextFrame` succeeded and whether `ReleaseFrame` was called.
-/
def captureFrame
    (answers : CaptureAnswers)
    (device context : Bool)
    (outTexture outDesc : Option Texture2DDesc) :
    CaptureResult :=
  let failedWith (code : Int32) : CaptureResult := {
    code
    outTexture
    outDesc
    frameAcquired := false
    frameReleased := false
  }
  if (!device || !context) ∧ Failed answers.createDevice then
    failedWith (-1)
  else if Failed answers.duplicateOutput then
    failedWith (-2)
  else if Failed answers.acquireNextFrame then
    failedWith (-3)
  else
    let outDesc := outDesc.map fun _ => answers.getDesc
    let descStaging := answers.getDesc.staging
    let releasedWith
        (code : Int32)
        (outTexture : Option Texture2DDesc) : CaptureResult := {
      code
      outTexture
      outDesc
      frameAcquired := true
      frameReleased := true
    }
    if Failed answers.createTexture2D then
      releasedWith (-4) outTexture
    else if Failed answers.mapInCapture then
      releasedWith (-5) outTexture
    else
      releasedWith 0 (some descStaging)

/-- Every call `capture_frame` checks succeeded. -/
def CaptureAnswers.Captured
    (answers : CaptureAnswers)
    (device context : Bool) : Prop :=
  ((device = false ∨ context = false) →
      ¬ Failed answers.createDevice) ∧
    ¬ Failed answers.duplicateOutput ∧
    ¬ Failed answers.acquireNextFrame ∧
    ¬ Failed answers.createTexture2D ∧
    ¬ Failed answers.mapInCapture

/-- `capture_frame` returns zero exactly when every checked call succeeded. -/
theorem captureFrame_code_eq_zero_iff
    (answers : CaptureAnswers)
    (device context : Bool)
    (outTexture outDesc : Option Texture2DDesc) :
    (captureFrame answers device context
        outTexture outDesc).code = 0 ↔
      answers.Captured device context := by
  unfold captureFrame CaptureAnswers.Captured
  split
  · rename_i noDevice
    simp_all
  · rename_i haveDevice
    split <;> simp_all
    split <;> simp_all
    split <;> simp_all
    split <;> simp_all

/-- On success the outputs are the acquired description and its copy. -/
theorem captureFrame_of_captured
    {answers : CaptureAnswers}
    {device context : Bool}
    (captured : answers.Captured device context)
    (outTexture outDesc : Option Texture2DDesc) :
    captureFrame answers device context outTexture outDesc =
      {
        code := 0
        outTexture := some answers.getDesc.staging
        outDesc := outDesc.map fun _ => answers.getDesc
        frameAcquired := true
        frameReleased := true
      } := by
  obtain ⟨haveDevice, duplicated, acquired, created, mapped⟩ :=
    captured
  simp_all [captureFrame]

/--
On every path an acquired frame is released, and a failing call leaves the
caller's texture alone.
-/
theorem captureFrame_releases
    (answers : CaptureAnswers)
    (device context : Bool)
    (outTexture outDesc : Option Texture2DDesc) :
    let result :=
      captureFrame answers device context outTexture outDesc
    result.frameReleased = result.frameAcquired ∧
      (result.code ≠ 0 → result.outTexture = outTexture) := by
  unfold captureFrame
  dsimp only
  split
  · exact ⟨rfl, fun _ => rfl⟩
  split
  · exact ⟨rfl, fun _ => rfl⟩
  split
  · exact ⟨rfl, fun _ => rfl⟩
  split
  · exact ⟨rfl, fun _ => rfl⟩
  split
  · exact ⟨rfl, fun _ => rfl⟩
  · exact ⟨rfl, fun nonzero => absurd rfl nonzero⟩

/-- A mapped frame as the copy loop of `Client::save_frame` sees it. -/
structure Frame where
  width : UInt32
  height : UInt32
  mapped : MappedSubresource

/-- Answers with which every call succeeds and the given frame is mapped. -/
def CaptureAnswers.succeeding (frame : Frame) : CaptureAnswers where
  createDevice := 0
  duplicateOutput := 0
  acquireNextFrame := 0
  getDesc := {
    Texture2DDesc.zero with
    width := frame.width
    height := frame.height
  }
  createTexture2D := 0
  mapInCapture := 0
  mapInSave := 0
  mapped := frame.mapped

namespace Client

/--
`Client::save_frame` up to its copy loop.  An error carries the line printed
before `exit(EXIT_FAILURE)`.
-/
def mapFrame (answers : CaptureAnswers) : Except String Frame :=
  let result :=
    captureFrame answers false false none
      (some Texture2DDesc.zero)
  if result.code ≠ 0 then
    .error ("capture_frame failed: " ++ toString result.code.toInt)
  else if Failed answers.mapInSave then
    .error "context->Map failed"
  else
    let desc := result.outDesc.getD Texture2DDesc.zero
    .ok {
      width := desc.width
      height := desc.height
      mapped := answers.mapped
    }

/-- The frame that is copied has the acquired description's extent. -/
theorem mapFrame_eq_ok_iff
    {answers : CaptureAnswers}
    {frame : Frame} :
    mapFrame answers = .ok frame ↔
      answers.Captured false false ∧
        ¬ Failed answers.mapInSave ∧
        frame = {
          width := answers.getDesc.width
          height := answers.getDesc.height
          mapped := answers.mapped
        } := by
  have zero :=
    captureFrame_code_eq_zero_iff answers false false none
      (some Texture2DDesc.zero)
  by_cases captured : answers.Captured false false
  · have result :=
      captureFrame_of_captured captured none
        (some Texture2DDesc.zero)
    simp only [mapFrame, result, ne_eq, not_true, ↓reduceIte,
      captured, true_and]
    by_cases failed : Failed answers.mapInSave
    · simp [failed]
    · simp [failed, eq_comm]
  · have nonzero := mt zero.mp captured
    simp [mapFrame, nonzero, captured]

/-- Any extent, pitch and contents can reach the copy loop. -/
theorem mapFrame_succeeding (frame : Frame) :
    mapFrame (.succeeding frame) = .ok frame := by
  rw [mapFrame_eq_ok_iff]
  have succeeded : ¬ Failed 0 := by decide
  exact ⟨⟨fun _ => succeeded, succeeded, succeeded, succeeded,
    succeeded⟩, succeeded, rfl⟩

end Client

end GameCapturer
