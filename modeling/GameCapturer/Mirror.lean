import GameCapturer.Link
import GameCapturer.Foundation.SharedRegister
import Mathlib.Data.List.Forall2

namespace GameCapturer

open Foundation Foundation.StepFunction

/-!
# Whole captures and whole reads

Complete `save_frame` calls and complete, successful `read_frame` calls are
taken as single steps, in any order.  At this granularity the client's buffer
behaves as an atomic register: the two programs simulate it, so every read
delivers the most recent capture.
-/

namespace Mirror

/-- Both memories, and what each read so far left in the server's memory. -/
structure State where
  client : Memory
  server : Memory
  delivered : List Memory

/-- A complete call of one of the two loops. -/
inductive Action where
  | saveFrame (answers : CaptureAnswers)
  | readFrame

/-- A `save_frame` that exits is not a step. -/
def step? (link : Link) : StepFunction State Action
  | state, .saveFrame answers =>
      match
        Client.saveFrame answers link.clientBuffer.toNat state.client
      with
      | .error _ => none
      | .ok client => some { state with client }
  | state, .readFrame =>
      let server := link.request.serve state.client state.server
      some {
        state with
        server
        delivered := state.delivered ++ [server]
      }

/-- The captured frame, if the call captures one. -/
def Action.frame? : Action → Option Frame
  | .saveFrame answers => (Client.mapFrame answers).toOption
  | .readFrame => none

/-- The register operation performed by a call. -/
def Action.operations :
    Action → List (SharedRegister.Operation Frame)
  | .saveFrame answers =>
      (Client.mapFrame answers).toOption.toList.map .write
  | .readFrame => [.read]

/-- Captured frames have the announced extent and addressable rows. -/
def Permits (window : Window) (action : Action) : Prop :=
  ∀ frame,
    action.frame? = some frame →
    window.Announces frame ∧ frame.RowsAddressable

/-- A complete capture is the copy of its mapped frame. -/
theorem step?_saveFrame_eq_some_iff
    {link : Link}
    {state next : State}
    {answers : CaptureAnswers} :
    step? link state (.saveFrame answers) = some next ↔
      ∃ frame,
        Client.mapFrame answers = .ok frame ∧
          next = {
            state with
            client :=
              Client.copyLoop frame link.clientBuffer.toNat
                state.client
          } := by
  cases mapped : Client.mapFrame answers with
  | error message =>
      simp [step?, Client.saveFrame, mapped, Except.map]
  | ok frame =>
      simp [step?, Client.saveFrame, mapped, Except.map, eq_comm]

/-- A capture that is permitted shows its frame in the client's buffer. -/
theorem copyLoop_shows
    {window : Window}
    (fits : window.FrameFitsInt)
    {frame : Frame}
    (announced : window.Announces frame)
    (addressable : frame.RowsAddressable)
    (buffer : Int)
    (memory : Memory) :
    ∀ offset < window.frameBytes,
      Client.copyLoop frame buffer memory (buffer + offset) =
        frame.packedByte offset := by
  intro offset inside
  rw [← announced.packedBytes_eq] at inside
  rw [Frame.copyLoop_inside (announced.packedBytes_le fits)
    buffer memory inside]
  exact Frame.savedByte_eq_packedByte addressable
    announced.rowFitsInt inside

/-- Memory from `base` on holds the last of the frames, if there is one. -/
def HoldsLatest
    (window : Window)
    (base : Int)
    (frames : List Frame)
    (memory : Memory) : Prop :=
  ∀ frame,
    frames.getLast? = some frame →
    window.Announces frame ∧
      ∀ offset < window.frameBytes,
        memory (base + offset) = frame.packedByte offset

/-- A served Read carries the latest frame over to the server's view. -/
theorem HoldsLatest.serve
    {link : Link}
    (fits : link.window.FrameFitsInt)
    {frames : List Frame}
    {client : Memory}
    (holds :
      HoldsLatest link.window link.clientBuffer.toNat frames client)
    (server : Memory) :
    HoldsLatest link.window link.view.toNat frames
      (link.request.serve client server) := by
  intro frame latest
  obtain ⟨announced, bytes⟩ := holds frame latest
  refine ⟨announced, ?_⟩
  intro offset inside
  have transferred : offset < link.readLength := by
    rw [Link.readLength_eq fits]
    exact inside
  rw [link.serve_view client server transferred]
  exact bytes offset inside

/-- The two programs simulate an atomic register of frames. -/
def simulation
    (link : Link)
    (fits : link.window.FrameFitsInt) :
    Simulation (step? link) SharedRegister.step?
      (fun _ => Permits link.window)
      (fun _ => Action.operations) where
  related state history :=
    HoldsLatest link.window link.clientBuffer.toNat
        history.written state.client ∧
      List.Forall₂ (HoldsLatest link.window link.view.toNat)
        history.reads state.delivered
  matched := by
    intro state next history action related permitted stepped
    obtain ⟨held, reads⟩ := related
    cases action with
    | saveFrame answers =>
        obtain ⟨frame, mapped, rfl⟩ :=
          step?_saveFrame_eq_some_iff.mp stepped
        obtain ⟨announced, addressable⟩ :=
          permitted frame (by simp [Action.frame?, mapped,
            Except.toOption])
        refine ⟨{
          history with written := history.written ++ [frame]
        }, ?_, ?_, reads⟩
        · simp only [Action.operations, mapped]
          rfl
        · intro latest isLatest
          rw [List.getLast?_concat, Option.some_inj] at isLatest
          subst isLatest
          exact ⟨announced,
            copyLoop_shows fits announced addressable _ _⟩
    | readFrame =>
        cases stepped
        refine ⟨{
          history with reads := history.reads ++ [history.written]
        }, rfl, held, ?_⟩
        exact List.rel_append reads
          (.cons (held.serve fits state.server) .nil)

/--
Read number `i` left in the server's memory the packed image of the last frame
captured before it; the frames captured before a read are a prefix of those
captured before the next.
-/
def DeliversLatest
    (link : Link)
    (actions : List Action)
    (final : State) : Prop :=
  ∃ history,
    run? SharedRegister.step? .empty
          (actions.flatMap Action.operations) =
        some history ∧
      history.reads.Pairwise (· <+: ·) ∧
      List.Forall₂
        (fun seen memory =>
          ∀ frame,
            seen.getLast? = some frame →
            link.window.Shows link.view.toNat frame memory)
        history.reads final.delivered

/--
In every run of whole captures and reads, each read that follows a capture
delivers exactly the packed image of the most recent frame.
-/
theorem deliversLatest_of_run
    (link : Link)
    (fits : link.window.FrameFitsInt)
    {actions : List Action}
    {start final : State}
    (fresh : start.delivered = [])
    (permitted :
      ∀ action ∈ actions, Permits link.window action)
    (ran : run? (step? link) start actions = some final) :
    DeliversLatest link actions final := by
  have related :
      (simulation link fits).related start .empty := by
    refine ⟨?_, ?_⟩
    · intro frame latest
      simp [SharedRegister.History.empty] at latest
    · rw [fresh]
      exact .nil
  obtain ⟨history, replayed, -, reads⟩ :=
    (simulation link fits).run related
      (everyStep_of_forall_mem
        (fun action member _ => permitted action member) start)
      ran
  rw [trace_eq_flatMap ran] at replayed
  refine ⟨history, replayed,
    (SharedRegister.History.Monotone.of_run replayed).forward, ?_⟩
  refine reads.imp ?_
  intro seen memory holds frame latest
  obtain ⟨announced, bytes⟩ := holds frame latest
  exact announced.shows bytes

/-- Both memories are zero and nothing has been read. -/
def State.blank : State where
  client := fun _ => 0
  server := fun _ => 0
  delivered := []

/-- A capture of the frame takes one step from any state. -/
theorem step?_succeeding
    (link : Link)
    (state : State)
    (frame : Frame) :
    step? link state (.saveFrame (.succeeding frame)) =
      some {
        state with
        client :=
          Client.copyLoop frame link.clientBuffer.toNat
            state.client
      } :=
  step?_saveFrame_eq_some_iff.mpr
    ⟨frame, Client.mapFrame_succeeding frame, rfl⟩

/-- A successful capture of each frame, each followed by a read. -/
def captureRounds (frames : List Frame) : List Action :=
  frames.flatMap fun frame =>
    [.saveFrame (.succeeding frame), .readFrame]

/-- The state after one more capture and one more read. -/
def State.round
    (link : Link)
    (state : State)
    (frame : Frame) : State :=
  let client :=
    Client.copyLoop frame link.clientBuffer.toNat state.client
  let server := link.request.serve client state.server
  { client, server, delivered := state.delivered ++ [server] }

/-- The state after such rounds from blank memories. -/
def State.afterRounds
    (link : Link)
    (frames : List Frame) : State :=
  frames.foldl (State.round link) .blank

/-- A capture and a read of each frame run from any state. -/
theorem run?_rounds
    (link : Link)
    (frames : List Frame)
    (state : State) :
    run? (step? link) state (captureRounds frames) =
      some (frames.foldl (State.round link) state) := by
  induction frames generalizing state with
  | nil =>
      rfl
  | cons frame frames inductionHypothesis =>
      rw [List.foldl_cons, ← inductionHypothesis]
      simp only [captureRounds, List.flatMap_cons, List.cons_append,
        List.nil_append, run?, step?_succeeding]
      rfl

/-- The rounds run from blank memories. -/
theorem run?_captureRounds (link : Link) (frames : List Frame) :
    run? (step? link) .blank (captureRounds frames) =
      some (.afterRounds link frames) :=
  run?_rounds link frames .blank

/-- The only frames captured are the given ones. -/
theorem mem_of_mem_captureRounds
    {frames : List Frame}
    {captured : Frame}
    {action : Action}
    (member : action ∈ captureRounds frames)
    (isCaptured : action.frame? = some captured) :
    captured ∈ frames := by
  obtain ⟨frame, among, isAction⟩ := List.mem_flatMap.mp member
  rcases List.mem_cons.mp isAction with rfl | later
  · simp only [Action.frame?, Client.mapFrame_succeeding,
      Except.toOption, Option.some_inj] at isCaptured
    exact isCaptured ▸ among
  · rw [List.mem_singleton.mp later] at isCaptured
    simp [Action.frame?] at isCaptured

/-- Two rows of two pixels, counting from a value, with the given pitch. -/
def countingSquare (first : UInt8) (pitch : UInt32) : Frame where
  width := 2
  height := 2
  mapped := {
    pData := fun offset => first + UInt8.ofNat offset.toNat
    rowPitch := pitch
  }

/-- Two frames of different pitch, each delivered by the read after it. -/
theorem deliversLatest_twoSquares :
    DeliversLatest (.sized 2 2)
      (captureRounds [countingSquare 0 12, countingSquare 100 20])
      (.afterRounds (.sized 2 2)
        [countingSquare 0 12, countingSquare 100 20]) := by
  apply deliversLatest_of_run (.sized 2 2) (by decide) rfl _
    (run?_captureRounds _ _)
  intro action member frame captured
  have among := mem_of_mem_captureRounds member captured
  rcases List.mem_cons.mp among with rfl | later
  · exact ⟨⟨rfl, rfl⟩, by decide⟩
  · rw [List.mem_singleton.mp later]
    exact ⟨⟨rfl, rfl⟩, by decide⟩

/-- Three rows of one pixel with a pitch of `2 ^ 31`; only byte 0 is lit. -/
def overlongPitch : Frame where
  width := 1
  height := 3
  mapped := {
    pData := fun offset => if offset = 0 then 1 else 0
    rowPitch := 0x80000000
  }

/-- A pitch of at least four bytes a pixel is not enough. -/
theorem not_forall_deliversLatest :
    ¬ ∀ (link : Link) (actions : List Action)
        (start final : State),
        link.window.FrameFitsInt →
        start.delivered = [] →
        (∀ action ∈ actions, ∀ frame,
          action.frame? = some frame →
          link.window.Announces frame ∧
            4 * link.window.width.toNat ≤
              frame.mapped.rowPitch.toNat) →
        run? (step? link) start actions = some final →
        DeliversLatest link actions final := by
  intro always
  have permitted :
      ∀ action ∈ captureRounds [overlongPitch], ∀ frame,
        action.frame? = some frame →
        (Link.sized 1 3).window.Announces frame ∧
          4 * (Link.sized 1 3).window.width.toNat ≤
            frame.mapped.rowPitch.toNat := by
    intro action member frame captured
    have among := mem_of_mem_captureRounds member captured
    rw [List.mem_singleton.mp among]
    exact ⟨⟨rfl, rfl⟩, by decide⟩
  obtain ⟨history, replayed, -, reads⟩ :=
    always (.sized 1 3) _ .blank _ (by decide) rfl permitted
      (run?_captureRounds _ _)
  have shown :
      (Link.sized 1 3).window.Shows
        (Link.sized 1 3).view.toNat overlongPitch
        (State.afterRounds (.sized 1 3) [overlongPitch]).server := by
    simp only [captureRounds, List.flatMap_cons,
      List.flatMap_nil, List.append_nil, Action.operations,
      Client.mapFrame_succeeding] at replayed
    cases replayed
    cases reads with
    | cons first _ =>
        exact first overlongPitch rfl
  -- The third row starts at `2 * 2 ^ 31`, which wraps to row zero.
  have third := shown.pixel 0 2 0 (by decide) (by decide) (by decide)
  exact absurd third (by decide)

end Mirror

end GameCapturer
