import GameCapturer.Interleaving

namespace GameCapturer

open Foundation Foundation.StepFunction

/-!
# Torn and whole frames

A Read delivers the buffer of the moment at which it is served.  Between two
`save_frame` calls that is one whole frame; inside a call it mixes the frame
in progress with the last finished one.  Whole captures and reads are the runs
in which no call is interrupted.
-/

namespace Interleaving

/-- The byte of the last finished frame, or the buffer's initial byte. -/
def Moment.settledByte
    (moment : Moment)
    (buffer : Int)
    (initial : Memory)
    (offset : Nat) : UInt8 :=
  match moment.finished.getLast? with
  | none => initial (buffer + offset)
  | some frame => frame.savedByte offset

/--
The byte at an offset of the buffer at a given moment: the assignment that
writes `offset` has number `mirrored offset` in its `save_frame` call.
-/
def Moment.byteAt
    (moment : Moment)
    (buffer : Int)
    (initial : Memory)
    (offset : Nat) : UInt8 :=
  match moment.writing with
  | none => moment.settledByte buffer initial offset
  | some progress =>
      if mirrored offset < progress.count then
        progress.frame.savedByte offset
      else
        moment.settledByte buffer initial offset

/--
The same by pixel and channel, for frames whose row offsets are exact: channel
`channel` of the frame in progress once the assignment that writes it is among
those performed, else that channel of the last finished frame.
-/
def Moment.channelAt
    (moment : Moment)
    (window : Window)
    (buffer : Int)
    (initial : Memory)
    (x y channel : Nat) : UInt8 :=
  let position := y * window.width.toNat + x
  let settled :=
    match moment.finished.getLast? with
    | none => initial (buffer + (3 * position + channel : Nat))
    | some frame => frame.channelAt x y channel
  match moment.writing with
  | none => settled
  | some progress =>
      if 3 * position + (2 - channel) < progress.count then
        progress.frame.channelAt x y channel
      else
        settled

/-- The frames that show at a moment have exact row offsets. -/
structure Moment.RowsAddressable (moment : Moment) : Prop where
  writing :
    ∀ progress,
      moment.writing = some progress →
      progress.frame.RowsAddressable
  settled :
    ∀ frame,
      moment.finished.getLast? = some frame →
      frame.RowsAddressable

section Bytes

variable
  {window : Window}
  (fits : window.FrameFitsInt)
  {moment : Moment}
  (announced : moment.Announced window)
  (buffer : Int)
  (initial : Memory)
  {offset : Nat}
  (inside : offset < window.frameBytes)

include fits announced inside

/-- Byte by byte, the settled buffer is the last finished frame. -/
theorem Moment.settled_at :
    moment.settled buffer initial (buffer + offset) =
      moment.settledByte buffer initial offset := by
  cases last : moment.finished.getLast? with
  | none =>
      simp only [settled, settledByte, last]
  | some frame =>
      have frameAnnounced :=
        announced.finished frame (List.mem_of_getLast? last)
      simp only [settled, settledByte, last]
      apply Frame.copyLoop_inside
        (frameAnnounced.packedBytes_le fits)
      rw [frameAnnounced.packedBytes_eq]
      exact inside

/-- Byte by byte, an interrupted call lies over the settled buffer. -/
theorem Moment.client_at :
    moment.client buffer initial (buffer + offset) =
      moment.byteAt buffer initial offset := by
  have settled :=
    Moment.settled_at fits announced buffer initial inside
  cases writing : moment.writing with
  | none =>
      simp only [client, byteAt, writing, settled]
  | some progress =>
      have frameAnnounced := announced.writing progress writing
      have packedInside :
          offset < progress.frame.packedBytes := by
        rw [frameAnnounced.packedBytes_eq]
        exact inside
      have written :=
        Frame.lastWritten_take
          (frameAnnounced.packedBytes_le fits)
          buffer progress.count packedInside
      simp only [client, byteAt, writing, Move.applyAll_apply,
        written, settled]
      split <;> rfl

end Bytes

/-- A copy stores every channel of an announced frame at its position. -/
theorem savedByte_channel
    {window : Window}
    {frame : Frame}
    (announced : window.Announces frame)
    (addressable : frame.RowsAddressable)
    {x y channel : Nat}
    (column : x < window.width.toNat)
    (row : y < window.height.toNat)
    (colour : channel < 3) :
    frame.savedByte (3 * (y * window.width.toNat + x) + channel) =
      frame.channelAt x y channel := by
  obtain ⟨rows, columns⟩ := announced.extents
  have pixel :
      y * frame.columns + x < frame.rows * frame.columns := by
    rw [rows, columns]
    exact LoopNest.position_lt row column
  rw [← columns] at column ⊢
  rw [Frame.savedByte_eq_packedByte addressable announced.rowFitsInt
    (by unfold Frame.packedBytes; omega)]
  exact frame.packedByte_position column colour

/-- The assignment that writes a channel of a pixel. -/
theorem mirrored_channel
    (position : Nat)
    {channel : Nat}
    (colour : channel < 3) :
    mirrored (3 * position + channel) =
      3 * position + (2 - channel) := by
  unfold mirrored
  omega

/-- With exact row offsets, bytes are channels. -/
theorem Moment.byteAt_channel
    {window : Window}
    {moment : Moment}
    (announced : moment.Announced window)
    (addressable : moment.RowsAddressable)
    (buffer : Int)
    (initial : Memory)
    {x y channel : Nat}
    (column : x < window.width.toNat)
    (row : y < window.height.toNat)
    (colour : channel < 3) :
    moment.byteAt buffer initial
        (3 * (y * window.width.toNat + x) + channel) =
      moment.channelAt window buffer initial x y channel := by
  have settled :
      moment.settledByte buffer initial
          (3 * (y * window.width.toNat + x) + channel) =
        match moment.finished.getLast? with
        | none =>
            initial
              (buffer +
                (3 * (y * window.width.toNat + x) + channel : Nat))
        | some frame => frame.channelAt x y channel := by
    unfold settledByte
    cases last : moment.finished.getLast? with
    | none =>
        rfl
    | some frame =>
        exact savedByte_channel
          (announced.finished frame (List.mem_of_getLast? last))
          (addressable.settled frame last) column row colour
  unfold byteAt channelAt
  cases writing : moment.writing with
  | none =>
      exact settled
  | some progress =>
      dsimp only
      rw [mirrored_channel _ colour, settled,
        savedByte_channel (announced.writing progress writing)
          (addressable.writing progress writing) column row colour]

/--
A completed Read in terms of the moment it was served: the client's buffer of
that moment; byte by byte the call in progress over the last finished frame, as
channels of the two frames where their row offsets are exact; and one whole
frame when no call was in progress.
-/
structure Delivery.Accounted
    (delivery : Delivery)
    (link : Link)
    (initial : Memory) : Prop where
  buffer :
    ∀ offset < link.readLength,
      delivery.memory (link.view.toNat + offset) =
        delivery.moment.client link.clientBuffer.toNat initial
          (link.clientBuffer.toNat + offset)
  mixture :
    link.window.FrameFitsInt →
    ∀ offset < link.window.frameBytes,
      delivery.memory (link.view.toNat + offset) =
        delivery.moment.byteAt link.clientBuffer.toNat
          initial offset
  channels :
    link.window.FrameFitsInt →
    delivery.moment.RowsAddressable →
    ∀ x y channel,
      x < link.window.width.toNat →
      y < link.window.height.toNat →
      channel < 3 →
      delivery.memory
          (link.view.toNat +
            (3 * (y * link.window.width.toNat + x) + channel : Nat)) =
        delivery.moment.channelAt link.window
          link.clientBuffer.toNat initial x y channel
  whole :
    link.window.FrameFitsInt →
    delivery.moment.writing = none →
    ∀ frame,
      delivery.moment.finished.getLast? = some frame →
      frame.RowsAddressable →
      link.window.Shows link.view.toNat frame delivery.memory

/-- What a moment explains is accounted for byte by byte. -/
theorem Delivery.Explained.accounted
    {delivery : Delivery}
    {link : Link}
    {initial : Memory}
    (explained : delivery.Explained link initial) :
    delivery.Accounted link initial := by
  have mixture :
      link.window.FrameFitsInt →
      ∀ offset < link.window.frameBytes,
        delivery.memory (link.view.toNat + offset) =
          delivery.moment.byteAt link.clientBuffer.toNat
            initial offset := by
    intro fits offset inside
    have transferred : offset < link.readLength := by
      rw [Link.readLength_eq fits]
      exact inside
    rw [explained.bytes offset transferred]
    exact Moment.client_at fits explained.announced _ _ inside
  refine {
    buffer := explained.bytes
    mixture := mixture
    channels := ?_
    whole := ?_
  }
  · intro fits addressable x y channel column row colour
    have pixel := LoopNest.position_lt row column
    rw [Nat.mul_comm link.window.height.toNat] at pixel
    rw [mixture fits _ (by unfold Window.frameBytes; omega)]
    exact Moment.byteAt_channel explained.announced addressable
      _ _ column row colour
  · intro fits idle frame last addressable
    have announced :=
      explained.announced.finished frame
        (List.mem_of_getLast? last)
    apply announced.shows
    intro offset inside
    have packedInside : offset < frame.packedBytes := by
      rw [announced.packedBytes_eq]
      exact inside
    have saved :
        delivery.moment.byteAt link.clientBuffer.toNat
            initial offset =
          frame.savedByte offset := by
      simp only [Moment.byteAt, idle, Moment.settledByte, last]
    rw [mixture fits offset inside, saved]
    exact Frame.savedByte_eq_packedByte addressable
      announced.rowFitsInt packedInside

/--
The deliveries of a run against its actions: one for each Read that the actions
complete, served at the moments that the actions say, each accounted for.
-/
structure DeliveriesAccounted
    (link : Link)
    (initial : Memory)
    (actions : List Action)
    (final : State) : Prop where
  count : final.delivered.length = completedReads actions
  moments :
    final.delivered.map Delivery.moment =
      (servedMoments .start actions).take (completedReads actions)
  accounted :
    ∀ delivery ∈ final.delivered, delivery.Accounted link initial

/--
In every interleaving, every completed Read delivers the buffer of the moment
it was served, and nothing older than the last finished frame once there is
one.
-/
theorem deliveries_accounted_of_run
    (link : Link)
    {actions : List Action}
    {start final : State}
    (fresh : start.Fresh)
    (permitted :
      ∀ action ∈ actions, Permits link.window action)
    (ran : run? (step? link) start actions = some final) :
    DeliveriesAccounted link start.client actions final where
  count := (fresh.moments_of_run ran).1
  moments := (fresh.moments_of_run ran).2
  accounted := fun delivery member =>
    ((coherent_of_run fresh permitted ran).delivered delivery
      member).accounted

/-- Copying part of an announced frame leaves the rest of memory alone. -/
theorem copy_outside
    {window : Window}
    (fits : window.FrameFitsInt)
    {frame : Frame}
    (announced : window.Announces frame)
    (buffer : Int)
    (count : Nat)
    (memory : Memory)
    {address : Int}
    (outside :
      address < buffer ∨ buffer + window.frameBytes ≤ address) :
    Move.applyAll frame.mapped.pData
        ((Client.copyMoves frame buffer).take count)
        memory address =
      memory address := by
  rw [← announced.packedBytes_eq] at outside
  rw [Move.applyAll_apply,
    Frame.lastWritten_outside
      (announced.packedBytes_le fits) buffer count outside]
  rfl

/-- No moment shows outside the announced buffer. -/
theorem Moment.client_outside
    {window : Window}
    (fits : window.FrameFitsInt)
    {moment : Moment}
    (announced : moment.Announced window)
    (buffer : Int)
    (initial : Memory)
    {address : Int}
    (outside :
      address < buffer ∨ buffer + window.frameBytes ≤ address) :
    moment.client buffer initial address = initial address := by
  have settled :
      moment.settled buffer initial address = initial address := by
    cases last : moment.finished.getLast? with
    | none =>
        simp only [Moment.settled, last]
    | some frame =>
        have frameAnnounced :=
          announced.finished frame (List.mem_of_getLast? last)
        have whole :=
          copy_outside fits frameAnnounced buffer
            (Client.copyMoves frame buffer).length initial outside
        rw [List.take_length, ← Client.copyLoop_eq_applyAll]
          at whole
        simp only [Moment.settled, last, whole]
  cases writing : moment.writing with
  | none =>
      simp only [client, writing, settled]
  | some progress =>
      simp only [client, writing]
      rw [copy_outside fits (announced.writing progress writing)
        buffer progress.count _ outside]
      exact settled

/--
When every captured frame has the announced extent, no run changes the
client's memory outside its buffer.
-/
theorem client_outside_of_run
    {link : Link}
    (fits : link.window.FrameFitsInt)
    {actions : List Action}
    {start final : State}
    (fresh : start.Fresh)
    (permitted :
      ∀ action ∈ actions, Permits link.window action)
    (ran : run? (step? link) start actions = some final)
    {address : Int}
    (outside :
      address < link.clientBuffer.toNat ∨
        link.clientBuffer.toNat + link.window.frameBytes ≤
          address) :
    final.client address = start.client address := by
  have coherent := coherent_of_run fresh permitted ran
  rw [coherent.client]
  exact Moment.client_outside fits coherent.announced _ _ outside

/-- A step of either loop changes the server's memory only in its view. -/
theorem server_outside_step
    {link : Link}
    {state next : State}
    {action : Action}
    (stepped : step? link state action = some next)
    {address : Int}
    (outside : ¬ link.request.Covers address) :
    next.server address = state.server address := by
  cases action with
  | mapFrame answers =>
      obtain ⟨-, frame, -, rfl⟩ :=
        step?_mapFrame_eq_some_iff.mp stepped
      rfl
  | copyByte =>
      obtain ⟨progress, move, -, -, rfl⟩ :=
        step?_copyByte_eq_some_iff.mp stepped
      rfl
  | unmap =>
      obtain ⟨progress, -, -, rfl⟩ :=
        step?_unmap_eq_some_iff.mp stepped
      rfl
  | postRead =>
      obtain ⟨-, rfl⟩ := step?_postRead_eq_some_iff.mp stepped
      rfl
  | serveRead =>
      obtain ⟨-, rfl⟩ := step?_serveRead_eq_some_iff.mp stepped
      exact link.request.serve_outside state.client state.server
        outside
  | completeRead =>
      obtain ⟨moment, -, rfl⟩ :=
        step?_completeRead_eq_some_iff.mp stepped
      rfl

/-- No run changes the server's memory outside the view it registered. -/
theorem server_outside_of_run
    {link : Link}
    {actions : List Action}
    {start final : State}
    (ran : run? (step? link) start actions = some final)
    {address : Int}
    (outside : ¬ link.request.Covers address) :
    final.server address = start.server address := by
  have kept :
      ∀ {state next : State} {action : Action},
        state.server address = start.server address →
        step? link state action = some next →
        next.server address = start.server address :=
    fun same stepped =>
      (server_outside_step stepped outside).trans same
  exact invariant_of_run kept rfl ran

/-!
### Whole steps are runs of the interleaving
-/

/-- The steps of a call that is not interrupted. -/
def uninterrupted (link : Link) : Mirror.Action → List Action
  | .saveFrame answers =>
      match Client.mapFrame answers with
      | .error _ => []
      | .ok frame =>
          .mapFrame answers ::
            (List.replicate
                (Client.copyMoves frame
                  link.clientBuffer.toNat).length
                .copyByte ++
              [.unmap])
  | .readFrame => [.postRead, .serveRead, .completeRead]

/-- Copying without interruption advances the call by any number of bytes. -/
theorem run?_copyBytes
    (link : Link)
    (frame : Frame)
    (before : Memory)
    {bytes count : Nat}
    {state : State}
    (bounded :
      count + bytes ≤
        (Client.copyMoves frame link.clientBuffer.toNat).length)
    (client :
      state.client =
        Move.applyAll frame.mapped.pData
          ((Client.copyMoves frame
            link.clientBuffer.toNat).take count) before)
    (writing : state.moment.writing = some { frame, count }) :
    run? (step? link) state (List.replicate bytes .copyByte) =
      some {
        state with
        client :=
          Move.applyAll frame.mapped.pData
            ((Client.copyMoves frame
              link.clientBuffer.toNat).take (count + bytes)) before
        moment := {
          state.moment with
          writing := some { frame, count := count + bytes }
        }
      } := by
  induction bytes generalizing count state with
  | zero =>
      simp only [Nat.add_zero, ← client, ← writing]
      rfl
  | succ bytes inductionHypothesis =>
      have small :
          count <
            (Client.copyMoves frame
              link.clientBuffer.toNat).length := by
        omega
      have following :
          ({ frame, count } : Progress).next?
              link.clientBuffer.toNat =
            some ((Client.copyMoves frame
              link.clientBuffer.toNat)[count]) :=
        List.getElem?_eq_getElem small
      have stepped :=
        step?_copyByte_eq_some_iff.mpr
          ⟨_, _, writing, following, rfl⟩
      have shape : count + (bytes + 1) = count + 1 + bytes := by
        omega
      rw [List.replicate_succ, shape]
      refine run?_cons_eq_some_iff.mpr ⟨_, stepped, ?_⟩
      refine inductionHypothesis (by omega) ?_ rfl
      rw [client]
      exact (Move.applyAll_take_succ following _).symm

/-- An uninterrupted call performs the whole copy. -/
theorem run?_uninterrupted_saveFrame
    {link : Link}
    {state : State}
    {answers : CaptureAnswers}
    {frame : Frame}
    (idle : state.moment.writing = none)
    (mapped : Client.mapFrame answers = .ok frame) :
    run? (step? link) state
        (uninterrupted link (.saveFrame answers)) =
      some {
        state with
        client :=
          Client.copyLoop frame link.clientBuffer.toNat state.client
        moment := {
          writing := none
          finished := state.moment.finished ++ [frame]
        }
      } := by
  let moves := Client.copyMoves frame link.clientBuffer.toNat
  let begun : State := {
    state with
    moment := {
      state.moment with
      writing := some { frame, count := 0 }
    }
  }
  have started :
      step? link state (.mapFrame answers) = some begun :=
    step?_mapFrame_eq_some_iff.mpr ⟨idle, frame, mapped, rfl⟩
  have copied :=
    run?_copyBytes link frame state.client
      (Nat.le_of_eq (Nat.zero_add moves.length))
      (show begun.client = _ from rfl) rfl
  have exhausted :
      ({ frame, count := 0 + moves.length } : Progress).next?
          link.clientBuffer.toNat =
        none :=
    List.getElem?_eq_none (by simp only [moves]; omega)
  have finished :=
    run?_snoc copied
      (step?_unmap_eq_some_iff.mpr ⟨_, rfl, exhausted, rfl⟩)
  simp only [uninterrupted, mapped]
  refine run?_cons_eq_some_iff.mpr ⟨begun, started, ?_⟩
  rw [finished, Client.copyLoop_eq_applyAll]
  simp only [Nat.zero_add, moves, List.take_length]
  rfl

/-- A call that is posted, served and completed at one moment. -/
theorem run?_uninterrupted_readFrame
    {link : Link}
    {state : State}
    (ready : state.reader = .posting) :
    run? (step? link) state (uninterrupted link .readFrame) =
      some {
        state with
        server := link.request.serve state.client state.server
        reader := .posting
        delivered :=
          state.delivered ++ [{
            moment := state.moment
            memory := link.request.serve state.client state.server
          }]
      } := by
  have posted :
      step? link state .postRead =
        some { state with reader := .posted } :=
    step?_postRead_eq_some_iff.mpr ⟨ready, rfl⟩
  exact run?_cons_eq_some_iff.mpr ⟨_, posted, rfl⟩

/-- Whole captures and reads are particular runs of the interleaving. -/
def wholeSteps (link : Link) :
    Simulation (Mirror.step? link) (step? link)
      (fun _ _ => True) (fun _ => uninterrupted link) where
  related state spec :=
    spec.client = state.client ∧
      spec.server = state.server ∧
      spec.moment.writing = none ∧
      spec.reader = .posting ∧
      spec.delivered.map Delivery.memory = state.delivered
  matched := by
    rintro state next spec action
      ⟨client, server, idle, reader, delivered⟩ - stepped
    cases action with
    | saveFrame answers =>
        obtain ⟨frame, mapped, rfl⟩ :=
          Mirror.step?_saveFrame_eq_some_iff.mp stepped
        refine ⟨_, run?_uninterrupted_saveFrame idle mapped,
          ?_, server, rfl, reader, delivered⟩
        rw [client]
    | readFrame =>
        cases stepped
        refine ⟨_, run?_uninterrupted_readFrame reader,
          client, ?_, idle, rfl, ?_⟩
        · rw [client, server]
        · rw [List.map_append, delivered, client, server]
          rfl

/-- Every run of whole captures and reads is a run of the interleaving. -/
theorem run?_of_wholeRun
    {link : Link}
    {actions : List Mirror.Action}
    {start final : Mirror.State}
    {spec : State}
    (related : (wholeSteps link).related start spec)
    (ran : run? (Mirror.step? link) start actions = some final) :
    ∃ finalSpec,
      run? (step? link) spec
            (actions.flatMap (uninterrupted link)) =
          some finalSpec ∧
        (wholeSteps link).related final finalSpec := by
  obtain ⟨finalSpec, matched, finalRelated⟩ :=
    (wholeSteps link).run related (everyStep_true start actions) ran
  rw [trace_eq_flatMap ran] at matched
  exact ⟨finalSpec, matched, finalRelated⟩

/-!
### A torn frame
-/

/-- Blank memories and no step taken. -/
def State.blank : State where
  client := fun _ => 0
  server := fun _ => 0
  moment := {
    writing := none
    finished := []
  }
  reader := .posting
  delivered := []

/-- A Read served after `count` assignments of the second of two captures. -/
def tornRead
    (link : Link)
    (first second : Frame)
    (count : Nat) : List Action :=
  uninterrupted link (.saveFrame (.succeeding first)) ++
    .mapFrame (.succeeding second) ::
      (List.replicate count .copyByte ++
        uninterrupted link .readFrame)

/-- The moment at which that Read is served. -/
def Moment.torn (first second : Frame) (count : Nat) : Moment where
  writing := some { frame := second, count }
  finished := [first]

/-- The client's memory at that moment, over blank contents. -/
def tornClient
    (link : Link)
    (first second : Frame)
    (count : Nat) : Memory :=
  (Moment.torn first second count).client
    link.clientBuffer.toNat State.blank.client

/-- What that Read delivers. -/
def Delivery.torn
    (link : Link)
    (first second : Frame)
    (count : Nat) : Delivery where
  moment := .torn first second count
  memory :=
    link.request.serve (tornClient link first second count)
      State.blank.server

/-- The state after that Read has completed. -/
def State.afterTornRead
    (link : Link)
    (first second : Frame)
    (count : Nat) : State where
  client := tornClient link first second count
  server := (Delivery.torn link first second count).memory
  moment := .torn first second count
  reader := .posting
  delivered := [.torn link first second count]

/-- A Read can be served after any number of assignments. -/
theorem run?_tornRead
    (link : Link)
    (first second : Frame)
    {count : Nat}
    (bounded :
      count ≤
        (Client.copyMoves second link.clientBuffer.toNat).length) :
    run? (step? link) .blank (tornRead link first second count) =
      some (.afterTornRead link first second count) := by
  let settled : State := {
    State.blank with
    client :=
      Client.copyLoop first link.clientBuffer.toNat
        State.blank.client
    moment := {
      writing := none
      finished := [first]
    }
  }
  have whole :
      run? (step? link) .blank
          (uninterrupted link (.saveFrame (.succeeding first))) =
        some settled :=
    run?_uninterrupted_saveFrame rfl
      (Client.mapFrame_succeeding first)
  let begun : State := {
    settled with
    moment := {
      settled.moment with
      writing := some { frame := second, count := 0 }
    }
  }
  have started :
      step? link settled (.mapFrame (.succeeding second)) =
        some begun :=
    step?_mapFrame_eq_some_iff.mpr
      ⟨rfl, second, Client.mapFrame_succeeding second, rfl⟩
  have copied :=
    run?_copyBytes link second settled.client
      (Nat.le_trans (Nat.le_of_eq (Nat.zero_add count)) bounded)
      (show begun.client = _ from rfl) rfl
  have read :=
    run?_append_eq_some_iff.mpr
      ⟨_, copied, run?_uninterrupted_readFrame rfl⟩
  have ran :=
    run?_append_eq_some_iff.mpr
      ⟨settled, whole,
        run?_cons_eq_some_iff.mpr ⟨begun, started, read⟩⟩
  rw [tornRead, ran]
  simp only [Nat.zero_add]
  rfl

/-- Both captures of that run have the announced extent. -/
theorem permits_tornRead
    {link : Link}
    {first second : Frame}
    (firstAnnounced : link.window.Announces first)
    (secondAnnounced : link.window.Announces second)
    {count : Nat} :
    ∀ action ∈ tornRead link first second count,
      Permits link.window action := by
  have permitted :
      ∀ {frame : Frame},
        link.window.Announces frame →
        Permits link.window (.mapFrame (.succeeding frame)) := by
    intro frame announced captured mapped
    rw [Client.mapFrame_succeeding] at mapped
    cases mapped
    exact announced
  intro action member
  cases action with
  | mapFrame answers =>
      simp only [tornRead, uninterrupted,
        Client.mapFrame_succeeding, List.mem_append, List.mem_cons,
        List.mem_replicate, reduceCtorEq, Action.mapFrame.injEq,
        and_false, or_false, List.not_mem_nil] at member
      rcases member with rfl | rfl
      · exact permitted firstAnnounced
      · exact permitted secondAnnounced
  | _ => trivial

/-- All frames whose capture has begun. -/
def Moment.frames (moment : Moment) : List Frame :=
  moment.finished ++ (moment.writing.map Progress.frame).toList

/-- Every completed Read delivered one of the captured frames. -/
def WholeFrames (link : Link) (state : State) : Prop :=
  ∀ delivery ∈ state.delivered,
    ∃ frame ∈ state.moment.frames,
      link.window.Shows link.view.toNat frame delivery.memory

/-- Two pixels of one uniform value. -/
def uniformPair (value : UInt8) : Frame where
  width := 2
  height := 1
  mapped := {
    pData := fun _ => value
    rowPitch := 8
  }

/-- A Read in the middle of the second capture is accounted for. -/
theorem delivery_accounted_tornRead :
    DeliveriesAccounted (.sized 2 1) State.blank.client
      (tornRead (.sized 2 1) (uniformPair 1) (uniformPair 2) 3)
      (.afterTornRead (.sized 2 1)
        (uniformPair 1) (uniformPair 2) 3) :=
  deliveries_accounted_of_run (.sized 2 1)
    { moment := rfl, reader := rfl, delivered := rfl }
    (permits_tornRead ⟨rfl, rfl⟩ ⟨rfl, rfl⟩)
    (run?_tornRead (.sized 2 1) (uniformPair 1) (uniformPair 2)
      (by decide))

/-- A torn capture leaves the byte before the buffer alone. -/
theorem client_outside_tornRead :
    (State.afterTornRead (.sized 2 1) (uniformPair 1) (uniformPair 2)
        3).client 0xFFFF = 0 :=
  client_outside_of_run (show (Link.sized 2 1).window.FrameFitsInt by decide)
    { moment := rfl, reader := rfl, delivered := rfl }
    (permits_tornRead ⟨rfl, rfl⟩ ⟨rfl, rfl⟩)
    (run?_tornRead (.sized 2 1) (uniformPair 1) (uniformPair 2)
      (by decide))
    (.inl (by decide))

/-- Two whole captures, each with a whole read, run in the interleaving. -/
theorem wholeRun_twoSquares :
    ∃ final : State,
      run? (step? (.sized 2 2)) .blank
            ((Mirror.captureRounds
                  [Mirror.countingSquare 0 12,
                    Mirror.countingSquare 100 20]).flatMap
              (uninterrupted (.sized 2 2))) =
          some final ∧
        final.delivered.length = 2 := by
  obtain ⟨final, ran, related⟩ :=
    run?_of_wholeRun
      (show (wholeSteps (.sized 2 2)).related Mirror.State.blank .blank from
        ⟨rfl, rfl, rfl, rfl, rfl⟩)
      (Mirror.run?_captureRounds _
        [Mirror.countingSquare 0 12, Mirror.countingSquare 100 20])
  have delivered := congrArg List.length related.2.2.2.2
  rw [List.length_map] at delivered
  exact ⟨final, ran, delivered⟩

/-- Half of each capture is delivered when the Read falls between. -/
theorem not_forall_wholeFrames :
    ¬ ∀ (link : Link) (actions : List Action)
        (start final : State),
        start.Fresh →
        (∀ action ∈ actions, Permits link.window action) →
        run? (step? link) start actions = some final →
        WholeFrames link final := by
  intro always
  have whole :=
    always (.sized 2 1) _ _ _
      { moment := rfl, reader := rfl, delivered := rfl }
      (permits_tornRead ⟨rfl, rfl⟩ ⟨rfl, rfl⟩)
      (run?_tornRead (.sized 2 1) (uniformPair 1) (uniformPair 2)
        (show 3 ≤ _ by decide))
  obtain ⟨frame, member, shows⟩ :=
    whole _ (List.mem_singleton.mpr rfl)
  have left := shows.pixel 0 0 0 (by decide) (by decide) (by decide)
  have right := shows.pixel 1 0 0 (by decide) (by decide) (by decide)
  rcases List.mem_cons.mp member with rfl | later
  · exact absurd left (by decide)
  · rw [List.mem_singleton.mp later] at right
    exact absurd right (by decide)

end Interleaving

end GameCapturer
