import GameCapturer.FrameRegion

namespace GameCapturer

open Foundation Foundation.StructLoad

/-!
# One session of `Server::run`

The server allocates as many bytes as `GetPrivateData` reports, has them filled
in and casts the block to `Channel *`.  Nothing compares the reported length
with `sizeof(Channel)`, nor looks at the result of either call.  The private
data below are the bytes that were reported and filled in, none if the fetch
fails.  The block is never freed or written again, so the read loop sees the
same contents on every call; what lies behind the private data is arbitrary.
-/

namespace Server

/-- Results of the two Win32 calls that `Server::run` checks, and the token. -/
structure MappingAnswers where
  fileMapping : UInt64
  fileMappingError : UInt32
  view : UInt64
  viewError : UInt32
  localToken : UInt32
  deriving Repr, DecidableEq

/-- A session whose region is registered and whose read loop is started. -/
structure Session where
  region : Region
  localToken : UInt32
  channel : Bytes

/-- A `read_frame` call of the session up to its `qp->Read`. -/
def Session.readFrame (session : Session) : Traced ReadRequest :=
  (Server.readFrame session.region.registration.buffer
    session.localToken).run session.channel

/-- The Read that every `read_frame` call of the session posts. -/
def Session.request (session : Session) : ReadRequest :=
  session.readFrame.result

/-- The Reads of the first calls of the read loop. -/
def Session.readFrames (session : Session) :
    Nat → Traced (List ReadRequest)
  | 0 => pure []
  | calls + 1 => do
      let request ← session.readFrame
      let requests ← session.readFrames calls
      return request :: requests

/--
One iteration of `Server::run` after the connection request, given the private
data, the memory behind it, and the Win32 results, with its reads through
`channel`.  An error carries the line printed before `exit(EXIT_FAILURE)`.
-/
def runTraced
    (privateData : List UInt8)
    (beyond : Bytes)
    (answers : MappingAnswers) : Traced (Except String Session) := do
  let channel := block privateData beyond
  -- `buffer_size` is computed before the first of the checks.
  let region ← (loadRegion answers.view).run channel
  if answers.fileMapping = 0 then
    return .error ("CreateFileMapping failed: " ++
      toString answers.fileMappingError.toNat)
  else if answers.view = 0 then
    return .error ("MapViewOfFile failed: " ++
      toString answers.viewError.toNat)
  else
    return .ok {
      region := region
      localToken := answers.localToken
      channel := channel
    }

/-- The outcome of that iteration. -/
def run
    (privateData : List UInt8)
    (beyond : Bytes)
    (answers : MappingAnswers) : Except String Session :=
  (runTraced privateData beyond answers).result

/-- The session starts exactly when both Win32 calls return non-null. -/
theorem run_eq_ok_iff
    {privateData : List UInt8}
    {beyond : Bytes}
    {answers : MappingAnswers}
    {session : Session} :
    run privateData beyond answers = .ok session ↔
      answers.fileMapping ≠ 0 ∧
        answers.view ≠ 0 ∧
        session = {
          region :=
            (loadRegion answers.view).value
              (block privateData beyond)
          localToken := answers.localToken
          channel := block privateData beyond
        } := by
  by_cases mapping : answers.fileMapping = 0
  · simp [run, runTraced, mapping]
  · by_cases view : answers.view = 0
    · simp [run, runTraced, mapping, view]
    · simp [run, runTraced, mapping, view, Load.run, eq_comm]

/-- Whatever the checks say, only the two extents are read. -/
theorem runTraced_reads
    (privateData : List UInt8)
    (beyond : Bytes)
    (answers : MappingAnswers) :
    (runTraced privateData beyond answers).reads =
      (loadRegion answers.view).footprint := by
  unfold runTraced
  simp only [Traced.reads_bind, Load.run]
  split
  · exact List.append_nil _
  · split
    · exact List.append_nil _
    · exact List.append_nil _

/-- Every field `Server::run` reads lies inside `sizeof(Channel)`. -/
theorem runTraced_below
    (privateData : List UInt8)
    (beyond : Bytes)
    (answers : MappingAnswers) :
    (runTraced privateData beyond answers).Below Channel.size := by
  intro offset member
  rw [runTraced_reads] at member
  change offset ∈ [52, 53, 54, 55] at member
  unfold Channel.size
  simp only [List.mem_cons, List.not_mem_nil, or_false] at member
  omega

/-- Every field `read_frame` reads lies inside `sizeof(Channel)`. -/
theorem readFrame_footprint_lt
    {view : UInt64}
    {localToken : UInt32}
    {offset : Nat}
    (member : offset ∈ (readFrame view localToken).footprint) :
    offset < Channel.size := by
  change
    offset ∈ [52, 53, 54, 55, 8, 9, 10, 11, 12, 13, 14, 15,
      0, 1, 2, 3] at member
  unfold Channel.size
  simp only [List.mem_cons, List.not_mem_nil, or_false] at member
  omega

/-- No call of the read loop reads beyond `sizeof(Channel)`. -/
theorem Session.readFrames_below (session : Session) (calls : Nat) :
    (session.readFrames calls).Below Channel.size := by
  have one : session.readFrame.Below Channel.size :=
    fun _ member => readFrame_footprint_lt member
  induction calls with
  | zero =>
      exact List.forall_mem_nil _
  | succ calls inductionHypothesis =>
      exact one.bind (inductionHypothesis.bind (List.forall_mem_nil _))

/-- Every call of the read loop posts the same Read. -/
theorem Session.readFrames_result (session : Session) (calls : Nat) :
    (session.readFrames calls).result =
      List.replicate calls session.request := by
  induction calls with
  | zero =>
      rfl
  | succ calls inductionHypothesis =>
      rw [List.replicate_succ, ← inductionHypothesis]
      rfl

/-- The region for long enough private data ignores what is behind it. -/
theorem loadRegion_block_of_long
    {privateData : List UInt8}
    (long : Channel.size ≤ privateData.length)
    (view : UInt64)
    (beyond otherBeyond : Bytes) :
    (loadRegion view).value (block privateData beyond) =
      (loadRegion view).value (block privateData otherBeyond) := by
  let answers : MappingAnswers := {
    fileMapping := 0
    fileMappingError := 0
    view
    viewError := 0
    localToken := 0
  }
  have below := (runTraced_below privateData beyond answers).trans long
  apply (loadRegion view).value_block_of_inside
  intro offset member
  exact below offset (runTraced_reads privateData beyond answers ▸ member)

/-- The Read posted for long enough private data ignores what is behind it. -/
theorem readFrame_block_of_long
    {privateData : List UInt8}
    (long : Channel.size ≤ privateData.length)
    (view : UInt64)
    (localToken : UInt32)
    (beyond otherBeyond : Bytes) :
    (readFrame view localToken).value (block privateData beyond) =
      (readFrame view localToken).value
        (block privateData otherBeyond) :=
  (readFrame view localToken).value_block_of_inside
    (fun _ member =>
      Nat.lt_of_lt_of_le (readFrame_footprint_lt member) long)
    beyond otherBeyond

/-!
### Handling untrusted private data
-/

/--
What `Server::run` reads, and what the read loop of a session it starts reads
in any number of calls, are bytes of the private data.
-/
def ReadsInside (privateData : List UInt8) : Prop :=
  ∀ (beyond : Bytes) (answers : MappingAnswers),
    (runTraced privateData beyond answers).Below privateData.length ∧
      ∀ session,
        run privateData beyond answers = .ok session →
        ∀ calls, (session.readFrames calls).Below privateData.length

/-- Data too short for a channel starts no session. -/
def RefusesShort (privateData : List UInt8) : Prop :=
  privateData.length < Channel.size →
  ∀ (beyond : Bytes) (answers : MappingAnswers),
    ∃ message, run privateData beyond answers = .error message

/-- A session that sees exactly the fields of a channel. -/
structure Session.Sees
    (session : Session)
    (answers : MappingAnswers)
    (channel : Channel) : Prop where
  width :
    Channel.loadWindowWidth.value session.channel =
      channel.window.width
  height :
    Channel.loadWindowHeight.value session.channel =
      channel.window.height
  remoteAddress :
    Channel.loadRemoteAddress.value session.channel =
      channel.remoteAddress
  remoteToken :
    Channel.loadRemoteToken.value session.channel =
      channel.remoteToken
  region :
    session.region =
      Server.region answers.view channel.window.width
        channel.window.height
  requests :
    ∀ calls,
      (session.readFrames calls).result =
        List.replicate calls {
          requestContext := 0
          sge :=
            readSge answers.view answers.localToken
              channel.window.width channel.window.height
          remoteAddress := channel.remoteAddress
          remoteToken := channel.remoteToken
          flags := 0
        }

/--
What a session must do with untrusted private data: read only the bytes that
were filled in, so that nothing behind them matters; refuse data too short for
a channel; and see exactly the fields of an encoded channel, padded or not.
-/
structure ReadsSafely (privateData : List UInt8) : Prop where
  inside : ReadsInside privateData
  unaffected :
    ∀ (beyond otherBeyond : Bytes) (answers : MappingAnswers)
      (session : Session),
      run privateData beyond answers = .ok session →
      ∃ other,
        run privateData otherBeyond answers = .ok other ∧
          other.region = session.region ∧
          ∀ calls,
            (other.readFrames calls).result =
              (session.readFrames calls).result
  refusesShort : RefusesShort privateData
  seesChannel :
    ∀ (channel : Channel) (padding : Vector UInt8 4)
      (trailing : List UInt8),
      privateData = channel.encode padding ++ trailing →
      ∀ (beyond : Bytes) (answers : MappingAnswers)
        (session : Session),
        run privateData beyond answers = .ok session →
        session.Sees answers channel

/-- The Read of a session that sees a channel. -/
theorem Session.Sees.request_eq
    {session : Session}
    {answers : MappingAnswers}
    {channel : Channel}
    (sees : session.Sees answers channel) :
    session.request = {
      requestContext := 0
      sge :=
        readSge answers.view answers.localToken
          channel.window.width channel.window.height
      remoteAddress := channel.remoteAddress
      remoteToken := channel.remoteToken
      flags := 0
    } := by
  have first := sees.requests 1
  rw [Session.readFrames_result] at first
  exact (List.cons.inj first).1

/-- An encoded channel is seen field by field, whatever follows it. -/
theorem run_encode
    {channel : Channel}
    {padding : Vector UInt8 4}
    {trailing : List UInt8}
    {beyond : Bytes}
    {answers : MappingAnswers}
    {session : Session}
    (started :
      run (channel.encode padding ++ trailing) beyond answers =
        .ok session) :
    session.Sees answers channel := by
  obtain ⟨-, -, rfl⟩ := run_eq_ok_iff.mp started
  have seen :=
    loadRegion_received answers.view channel padding trailing
      beyond
  unfold Channel.received at seen
  refine {
    width :=
      channel.loadWindowWidth_received padding trailing beyond
    height :=
      channel.loadWindowHeight_received padding trailing beyond
    remoteAddress :=
      channel.loadRemoteAddress_received padding trailing beyond
    remoteToken :=
      channel.loadRemoteToken_received padding trailing beyond
    region := seen
    requests := ?_
  }
  intro calls
  rw [Session.readFrames_result]
  congr 1
  simp only [Session.request, Session.readFrame, Load.run, seen]
  exact
    readFrame_received answers.view answers.localToken
      channel padding trailing beyond

/-- Win32 results with which `Server::run` goes on to its read loop. -/
def MappingAnswers.succeeding : MappingAnswers where
  fileMapping := 1
  fileMappingError := 0
  view := 0x20000
  viewError := 0
  localToken := 7

/-- Private data of any length starts a session when both calls succeed. -/
theorem exists_run_succeeding
    (privateData : List UInt8)
    (beyond : Bytes) :
    ∃ session, run privateData beyond .succeeding = .ok session :=
  ⟨_, run_eq_ok_iff.mpr ⟨by decide, by decide, rfl⟩⟩

/-- The bytes read are private data exactly when it is long enough. -/
theorem readsInside_iff (privateData : List UInt8) :
    ReadsInside privateData ↔ Channel.size ≤ privateData.length := by
  constructor
  · intro inside
    have extents := (inside (fun _ => 0) .succeeding).1
    -- The last byte of `window.height` is read before any check.
    refine extents 55 ?_
    rw [runTraced_reads]
    change 55 ∈ [52, 53, 54, 55]
    simp
  · intro long beyond answers
    exact ⟨(runTraced_below privateData beyond answers).trans long,
      fun session _ calls => (session.readFrames_below calls).trans long⟩

/-- Short data is refused exactly when the data is not short. -/
theorem refusesShort_iff (privateData : List UInt8) :
    RefusesShort privateData ↔ Channel.size ≤ privateData.length := by
  constructor
  · intro refuses
    by_contra short
    obtain ⟨session, started⟩ :=
      exists_run_succeeding privateData fun _ => 0
    obtain ⟨message, refused⟩ :=
      refuses (Nat.lt_of_not_le short) (fun _ => 0) .succeeding
    rw [started] at refused
    contradiction
  · intro long short
    exact absurd short (Nat.not_lt.mpr long)

/--
Private data is handled safely exactly when it is at least as long as the
channel layout.
-/
theorem readsSafely_iff (privateData : List UInt8) :
    ReadsSafely privateData ↔ 56 ≤ privateData.length := by
  constructor
  · intro safe
    exact (refusesShort_iff privateData).mp safe.refusesShort
  · intro long
    refine {
      inside := (readsInside_iff privateData).mpr long
      unaffected := ?_
      refusesShort := (refusesShort_iff privateData).mpr long
      seesChannel := ?_
    }
    · intro beyond otherBeyond answers session started
      obtain ⟨fileMapping, view, rfl⟩ := run_eq_ok_iff.mp started
      have region :=
        loadRegion_block_of_long long answers.view otherBeyond beyond
      refine ⟨_, run_eq_ok_iff.mpr ⟨fileMapping, view, rfl⟩, region, ?_⟩
      intro calls
      rw [Session.readFrames_result, Session.readFrames_result]
      simp only [Session.request, Session.readFrame, Load.run, region]
      rw [readFrame_block_of_long long _ _ otherBeyond beyond]
    · rintro channel padding trailing rfl beyond answers session
        started
      exact run_encode started

/-- Eight bytes of private data start a read loop that reads past them. -/
theorem not_readsSafely_short :
    (∃ session,
        run (List.replicate 8 0) (fun _ => 1) .succeeding =
          .ok session) ∧
      ¬ ReadsSafely (List.replicate 8 0) := by
  refine ⟨exists_run_succeeding _ _, ?_⟩
  intro safe
  have long := (readsInside_iff _).mp safe.inside
  exact absurd long (by decide)

end Server

end GameCapturer
