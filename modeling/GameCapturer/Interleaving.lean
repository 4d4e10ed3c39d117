import GameCapturer.Mirror

namespace GameCapturer

open Foundation Foundation.StepFunction

/-!
# The capture loop interleaved with the read loop

The capture loop stores one byte after another while the read loop posts a
Read, the provider serves it in one atomic step and `wait` returns.  The
programs exchange no message after the handshake, so every order of these
steps is a run.  The invariant says that the client's buffer depends only on
the moment: the assignments of the call in progress lie over the last finished
frame, and everything older is hidden.
-/

namespace Interleaving

/-- A `save_frame` call that has performed some of its assignments. -/
structure Progress where
  frame : Frame
  count : Nat

/-- The next byte assignment of the call, if any is left. -/
def Progress.next?
    (progress : Progress)
    (buffer : Int) : Option ByteMove :=
  (Client.copyMoves progress.frame buffer)[progress.count]?

/-- How far the capture loop has come. -/
structure Moment where
  writing : Option Progress
  finished : List Frame

/-- Where the read loop stands; a served Read remembers when it was served. -/
inductive Reader where
  | posting
  | posted
  | served (moment : Moment)

/-- The server's memory on return from `wait`, and when it was served. -/
structure Delivery where
  moment : Moment
  memory : Memory

/-- Both processes, and what every completed Read delivered. -/
structure State where
  client : Memory
  server : Memory
  moment : Moment
  reader : Reader
  delivered : List Delivery

/-- One step of either loop or of the provider. -/
inductive Action where
  | mapFrame (answers : CaptureAnswers)
  | copyByte
  | unmap
  | postRead
  | serveRead
  | completeRead

/-- Any interleaving of the two loops with an atomic provider. -/
def step? (link : Link) : StepFunction State Action
  | state, .mapFrame answers =>
      match state.moment.writing, Client.mapFrame answers with
      | none, .ok frame =>
          some {
            state with
            moment := {
              state.moment with
              writing := some { frame, count := 0 }
            }
          }
      | _, _ => none
  | state, .copyByte =>
      state.moment.writing.bind fun progress =>
        (progress.next? link.clientBuffer.toNat).map fun move => {
          state with
          client :=
            Move.apply progress.frame.mapped.pData
              state.client move
          moment := {
            state.moment with
            writing := some {
              progress with count := progress.count + 1
            }
          }
        }
  | state, .unmap =>
      state.moment.writing.bind fun progress =>
        match progress.next? link.clientBuffer.toNat with
        | some _ => none
        | none =>
            some {
              state with
              moment := {
                writing := none
                finished :=
                  state.moment.finished ++ [progress.frame]
              }
            }
  | state, .postRead =>
      match state.reader with
      | .posting => some { state with reader := .posted }
      | _ => none
  | state, .serveRead =>
      match state.reader with
      | .posted =>
          some {
            state with
            server := link.request.serve state.client state.server
            reader := .served state.moment
          }
      | _ => none
  | state, .completeRead =>
      match state.reader with
      | .served moment =>
          some {
            state with
            reader := .posting
            delivered :=
              state.delivered ++ [{ moment, memory := state.server }]
          }
      | _ => none

section Inversion

variable {link : Link} {state next : State}

/-- A call enters its copy loop only after the previous call returned. -/
theorem step?_mapFrame_eq_some_iff {answers : CaptureAnswers} :
    step? link state (.mapFrame answers) = some next ↔
      state.moment.writing = none ∧
        ∃ frame,
          Client.mapFrame answers = .ok frame ∧
            next = {
              state with
              moment := {
                state.moment with
                writing := some { frame, count := 0 }
              }
            } := by
  cases writing : state.moment.writing with
  | some progress =>
      simp [step?, writing]
  | none =>
      cases mapped : Client.mapFrame answers with
      | error message =>
          simp [step?, writing, mapped]
      | ok frame =>
          simp [step?, writing, mapped, eq_comm]

/-- One assignment of the call in progress. -/
theorem step?_copyByte_eq_some_iff :
    step? link state .copyByte = some next ↔
      ∃ progress move,
        state.moment.writing = some progress ∧
          progress.next? link.clientBuffer.toNat = some move ∧
          next = {
            state with
            client :=
              Move.apply progress.frame.mapped.pData
                state.client move
            moment := {
              state.moment with
              writing := some {
                progress with count := progress.count + 1
              }
            }
          } := by
  simp only [step?, Option.bind_eq_some_iff, Option.map_eq_some_iff]
  constructor
  · rintro ⟨progress, writing, move, following, rfl⟩
    exact ⟨progress, move, writing, following, rfl⟩
  · rintro ⟨progress, move, writing, following, rfl⟩
    exact ⟨progress, writing, move, following, rfl⟩

/-- A call returns when its loops have run out of assignments. -/
theorem step?_unmap_eq_some_iff :
    step? link state .unmap = some next ↔
      ∃ progress,
        state.moment.writing = some progress ∧
          progress.next? link.clientBuffer.toNat = none ∧
          next = {
            state with
            moment := {
              writing := none
              finished :=
                state.moment.finished ++ [progress.frame]
            }
          } := by
  simp only [step?, Option.bind_eq_some_iff]
  constructor
  · rintro ⟨progress, writing, returned⟩
    cases following :
        progress.next? link.clientBuffer.toNat with
    | some move =>
        simp [following] at returned
    | none =>
        simp only [following, Option.some_inj] at returned
        exact ⟨progress, writing, following, returned.symm⟩
  · rintro ⟨progress, writing, following, rfl⟩
    exact ⟨progress, writing, by simp [following]⟩

/-- A Read is posted when the previous one has completed. -/
theorem step?_postRead_eq_some_iff :
    step? link state .postRead = some next ↔
      state.reader = .posting ∧
        next = { state with reader := .posted } := by
  cases reader : state.reader <;> simp [step?, reader, eq_comm]

/-- A posted Read is served at one moment of the capture loop. -/
theorem step?_serveRead_eq_some_iff :
    step? link state .serveRead = some next ↔
      state.reader = .posted ∧
        next = {
          state with
          server := link.request.serve state.client state.server
          reader := .served state.moment
        } := by
  cases reader : state.reader <;> simp [step?, reader, eq_comm]

/-- `wait` returns after the Read has been served. -/
theorem step?_completeRead_eq_some_iff :
    step? link state .completeRead = some next ↔
      ∃ moment,
        state.reader = .served moment ∧
          next = {
            state with
            reader := .posting
            delivered :=
              state.delivered ++ [{ moment, memory := state.server }]
          } := by
  cases reader : state.reader <;> simp [step?, reader, eq_comm]

end Inversion

/-!
### The moments of a run

Which moments the Reads of a run are served at can be told from its actions
alone, without the states in between.
-/

/-- No call in progress and none finished. -/
def Moment.start : Moment where
  writing := none
  finished := []

/-- How far the capture loop has come after an action. -/
def Moment.after (moment : Moment) : Action → Moment
  | .mapFrame answers => {
      moment with
      writing :=
        (Client.mapFrame answers).toOption.map
          fun frame => { frame, count := 0 }
    }
  | .copyByte => {
      moment with
      writing :=
        moment.writing.map fun progress =>
          { progress with count := progress.count + 1 }
    }
  | .unmap => {
      writing := none
      finished :=
        moment.finished ++ (moment.writing.map Progress.frame).toList
    }
  | .postRead | .serveRead | .completeRead => moment

/-- The moment at which an action serves a Read. -/
def Moment.serves (moment : Moment) : Action → List Moment
  | .serveRead => [moment]
  | .mapFrame _ | .copyByte | .unmap | .postRead | .completeRead => []

/-- The moments at which the Reads of a list of actions are served. -/
def servedMoments : Moment → List Action → List Moment
  | _, [] => []
  | moment, action :: rest =>
      moment.serves action ++ servedMoments (moment.after action) rest

/-- Whether `wait` returns in an action. -/
def Action.completes : Action → Bool
  | .completeRead => true
  | .mapFrame _ | .copyByte | .unmap | .postRead | .serveRead => false

/-- The Reads that a list of actions completes. -/
def completedReads (actions : List Action) : Nat :=
  actions.countP Action.completes

/-- The moment of the Read that has been served and not completed. -/
def Reader.pending : Reader → List Moment
  | .posting | .posted => []
  | .served moment => [moment]

/-- What a step records is what its action says. -/
theorem recorded_step
    {link : Link}
    {state next : State}
    {action : Action}
    (stepped : step? link state action = some next) :
    next.moment = state.moment.after action ∧
      next.delivered.map Delivery.moment ++ next.reader.pending =
        state.delivered.map Delivery.moment ++
          state.reader.pending ++ state.moment.serves action ∧
      next.delivered.length =
        state.delivered.length + completedReads [action] := by
  cases action with
  | mapFrame answers =>
      obtain ⟨-, frame, mapped, rfl⟩ :=
        step?_mapFrame_eq_some_iff.mp stepped
      refine ⟨?_, (List.append_nil _).symm, rfl⟩
      simp only [Moment.after, mapped]
      rfl
  | copyByte =>
      obtain ⟨progress, move, writing, -, rfl⟩ :=
        step?_copyByte_eq_some_iff.mp stepped
      refine ⟨?_, (List.append_nil _).symm, rfl⟩
      simp only [Moment.after, writing]
      rfl
  | unmap =>
      obtain ⟨progress, writing, -, rfl⟩ :=
        step?_unmap_eq_some_iff.mp stepped
      refine ⟨?_, (List.append_nil _).symm, rfl⟩
      simp only [Moment.after, writing]
      rfl
  | postRead =>
      obtain ⟨posting, rfl⟩ := step?_postRead_eq_some_iff.mp stepped
      refine ⟨rfl, ?_, rfl⟩
      rw [posting]
      exact (List.append_nil _).symm
  | serveRead =>
      obtain ⟨posted, rfl⟩ := step?_serveRead_eq_some_iff.mp stepped
      refine ⟨rfl, ?_, rfl⟩
      rw [posted]
      simp only [Reader.pending, List.append_nil]
      rfl
  | completeRead =>
      obtain ⟨moment, served, rfl⟩ :=
        step?_completeRead_eq_some_iff.mp stepped
      refine ⟨rfl, ?_, List.length_append⟩
      rw [served]
      simp only [Reader.pending, Moment.serves, List.map_append,
        List.map_cons, List.map_nil, List.append_nil]

/-- What a run records is what its actions say. -/
theorem recorded_of_run
    {link : Link}
    {actions : List Action}
    {state final : State}
    (ran : run? (step? link) state actions = some final) :
    final.delivered.map Delivery.moment ++ final.reader.pending =
        state.delivered.map Delivery.moment ++
          state.reader.pending ++
          servedMoments state.moment actions ∧
      final.delivered.length =
        state.delivered.length + completedReads actions := by
  induction actions generalizing state with
  | nil =>
      cases ran
      exact ⟨(List.append_nil _).symm, rfl⟩
  | cons action rest inductionHypothesis =>
      obtain ⟨next, stepped, continued⟩ :=
        run?_cons_eq_some_iff.mp ran
      obtain ⟨moment, served, completed⟩ := recorded_step stepped
      obtain ⟨servedLater, completedLater⟩ :=
        inductionHypothesis continued
      constructor
      · rw [servedLater, served, moment, List.append_assoc]
        rfl
      · rw [completedLater, completed, Nat.add_assoc]
        simp only [completedReads, ← List.countP_append]
        rfl

/-!
### What a moment determines
-/

namespace Moment

/-- The buffer after the last finished frame, over its initial contents. -/
def settled
    (moment : Moment)
    (buffer : Int)
    (initial : Memory) : Memory :=
  match moment.finished.getLast? with
  | none => initial
  | some frame => Client.copyLoop frame buffer initial

/-- The first assignments of the call in progress, over the settled buffer. -/
def client
    (moment : Moment)
    (buffer : Int)
    (initial : Memory) : Memory :=
  match moment.writing with
  | none => moment.settled buffer initial
  | some progress =>
      Move.applyAll progress.frame.mapped.pData
        ((Client.copyMoves progress.frame buffer).take
          progress.count)
        (moment.settled buffer initial)

/-- All frames of the moment have the announced extent. -/
structure Announced (moment : Moment) (window : Window) : Prop where
  writing :
    ∀ progress,
      moment.writing = some progress →
      window.Announces progress.frame
  finished :
    ∀ frame ∈ moment.finished, window.Announces frame

end Moment

/-- Frames of one extent are copied to the same addresses. -/
theorem copyMoves_targets
    {window : Window}
    {frame other : Frame}
    (announced : window.Announces frame)
    (otherAnnounced : window.Announces other)
    (buffer : Int) :
    (Client.copyMoves frame buffer).map Move.target =
      (Client.copyMoves other buffer).map Move.target := by
  have width : frame.width = other.width :=
    UInt32.toNat_inj.mp
      (announced.width.trans otherAnnounced.width.symm)
  have height : frame.height = other.height :=
    UInt32.toNat_inj.mp
      (announced.height.trans otherAnnounced.height.symm)
  have targets : frame.targetAt buffer = other.targetAt buffer := by
    funext index
    simp only [Frame.targetAt, Frame.columns, width]
  rw [Frame.copyMoves_eq_map, Frame.copyMoves_eq_map,
    List.map_map, List.map_map]
  simp only [Frame.rows, Frame.columns, width, height]
  apply List.map_congr_left
  intro index _
  exact congrFun targets index

/-- A finished copy hides the copy before it. -/
theorem copyLoop_copyLoop
    {window : Window}
    {frame other : Frame}
    (announced : window.Announces frame)
    (otherAnnounced : window.Announces other)
    (buffer : Int)
    (memory : Memory) :
    Client.copyLoop frame buffer
        (Client.copyLoop other buffer memory) =
      Client.copyLoop frame buffer memory := by
  rw [Client.copyLoop_eq_applyAll, Client.copyLoop_eq_applyAll,
    Client.copyLoop_eq_applyAll]
  exact Move.applyAll_applyAll_of_targets
    (copyMoves_targets announced otherAnnounced buffer) memory

namespace Moment

/-- Returning from a call settles its frame. -/
theorem settled_return
    {moment : Moment}
    {window : Window}
    (announced : moment.Announced window)
    {progress : Progress}
    (writing : moment.writing = some progress)
    {buffer : Int}
    (last : progress.next? buffer = none)
    (initial : Memory) :
    ({
        writing := none
        finished := moment.finished ++ [progress.frame]
      } : Moment).client buffer initial =
      moment.client buffer initial := by
  have whole :
      (Client.copyMoves progress.frame buffer).take
          progress.count =
        Client.copyMoves progress.frame buffer :=
    List.take_of_length_le (List.getElem?_eq_none_iff.mp last)
  -- The returning call has written every cell the settled frame wrote.
  have hidden :
      Client.copyLoop progress.frame buffer
          (moment.settled buffer initial) =
        Client.copyLoop progress.frame buffer initial := by
    cases before : moment.finished.getLast? with
    | none =>
        simp only [settled, before]
    | some other =>
        have otherAnnounced :=
          announced.finished other
            (List.mem_of_getLast? before)
        simp only [settled, before]
        exact copyLoop_copyLoop
          (announced.writing progress writing) otherAnnounced
          buffer initial
  simp only [client, writing, whole,
    ← Client.copyLoop_eq_applyAll, hidden]
  simp only [settled, List.getLast?_concat]

end Moment

/-!
### The invariant of the interleaving
-/

/-- The delivered view is the client's buffer of that moment. -/
structure Delivery.Explained
    (delivery : Delivery)
    (link : Link)
    (initial : Memory) : Prop where
  announced : delivery.moment.Announced link.window
  bytes :
    ∀ offset < link.readLength,
      delivery.memory (link.view.toNat + offset) =
        delivery.moment.client link.clientBuffer.toNat initial
          (link.clientBuffer.toNat + offset)

/-- The client's memory is what its moment determines; so were all reads. -/
structure Coherent
    (link : Link)
    (initial : Memory)
    (state : State) : Prop where
  announced : state.moment.Announced link.window
  client :
    state.client =
      state.moment.client link.clientBuffer.toNat initial
  served :
    ∀ moment,
      state.reader = .served moment →
      Delivery.Explained { moment, memory := state.server }
        link initial
  delivered :
    ∀ delivery ∈ state.delivered, delivery.Explained link initial

/-- Frames that enter the copy loop have the announced extent. -/
def Permits (window : Window) : Action → Prop
  | .mapFrame answers =>
      ∀ frame,
        Client.mapFrame answers = .ok frame →
        window.Announces frame
  | _ => True

/-- Every step of either loop or of the provider keeps the invariant. -/
theorem Coherent.step
    {link : Link}
    {initial : Memory}
    {state next : State}
    {action : Action}
    (coherent : Coherent link initial state)
    (permitted : Permits link.window action)
    (stepped : step? link state action = some next) :
    Coherent link initial next := by
  cases action with
  | mapFrame answers =>
      obtain ⟨idle, frame, mapped, rfl⟩ :=
        step?_mapFrame_eq_some_iff.mp stepped
      refine {
        announced := {
          writing := ?_
          finished := coherent.announced.finished
        }
        client := ?_
        served := coherent.served
        delivered := coherent.delivered
      }
      · rintro progress ⟨⟩
        exact permitted frame mapped
      · rw [coherent.client]
        simp only [Moment.client, idle]
        rfl
  | copyByte =>
      obtain ⟨progress, move, writing, following, rfl⟩ :=
        step?_copyByte_eq_some_iff.mp stepped
      refine {
        announced := {
          writing := ?_
          finished := coherent.announced.finished
        }
        client := ?_
        served := coherent.served
        delivered := coherent.delivered
      }
      · rintro later ⟨⟩
        exact coherent.announced.writing progress writing
      · simp only [coherent.client, Moment.client, writing]
        exact (Move.applyAll_take_succ following _).symm
  | unmap =>
      obtain ⟨progress, writing, last, rfl⟩ :=
        step?_unmap_eq_some_iff.mp stepped
      refine {
        announced := {
          writing := ?_
          finished := ?_
        }
        client := ?_
        served := coherent.served
        delivered := coherent.delivered
      }
      · rintro later ⟨⟩
      · intro frame member
        rcases List.mem_append.mp member with earlier | isLast
        · exact coherent.announced.finished frame earlier
        · rw [List.mem_singleton.mp isLast]
          exact coherent.announced.writing progress writing
      · rw [Moment.settled_return coherent.announced writing last]
        exact coherent.client
  | postRead =>
      obtain ⟨-, rfl⟩ := step?_postRead_eq_some_iff.mp stepped
      exact {
        announced := coherent.announced
        client := coherent.client
        served := by rintro moment ⟨⟩
        delivered := coherent.delivered
      }
  | serveRead =>
      obtain ⟨-, rfl⟩ := step?_serveRead_eq_some_iff.mp stepped
      refine {
        announced := coherent.announced
        client := coherent.client
        served := ?_
        delivered := coherent.delivered
      }
      rintro moment ⟨⟩
      refine {
        announced := coherent.announced
        bytes := ?_
      }
      intro offset inside
      dsimp only
      rw [link.serve_view state.client state.server inside,
        coherent.client]
  | completeRead =>
      obtain ⟨moment, reader, rfl⟩ :=
        step?_completeRead_eq_some_iff.mp stepped
      refine {
        announced := coherent.announced
        client := coherent.client
        served := by rintro later ⟨⟩
        delivered := ?_
      }
      intro delivery member
      rcases List.mem_append.mp member with earlier | isLast
      · exact coherent.delivered delivery earlier
      · rw [List.mem_singleton.mp isLast]
        exact coherent.served moment reader

/-- A state in which neither loop has done anything yet. -/
structure State.Fresh (state : State) : Prop where
  moment : state.moment = .start
  reader : state.reader = .posting
  delivered : state.delivered = []

/-- Before the first step the invariant holds of any two memories. -/
theorem State.Fresh.coherent
    {state : State}
    (fresh : state.Fresh)
    (link : Link) :
    Coherent link state.client state := by
  refine {
    announced := {
      writing := ?_
      finished := ?_
    }
    client := ?_
    served := ?_
    delivered := ?_
  }
  · rw [fresh.moment]
    rintro progress ⟨⟩
  · rw [fresh.moment]
    exact List.forall_mem_nil _
  · rw [fresh.moment]
    rfl
  · rw [fresh.reader]
    rintro moment ⟨⟩
  · rw [fresh.delivered]
    exact List.forall_mem_nil _

/-- From a fresh state, the actions say when each delivery was served. -/
theorem State.Fresh.moments_of_run
    {link : Link}
    {actions : List Action}
    {start final : State}
    (fresh : start.Fresh)
    (ran : run? (step? link) start actions = some final) :
    final.delivered.length = completedReads actions ∧
      final.delivered.map Delivery.moment =
        (servedMoments .start actions).take
          (completedReads actions) := by
  obtain ⟨served, completed⟩ := recorded_of_run ran
  rw [fresh.moment, fresh.reader, fresh.delivered] at served
  rw [fresh.delivered] at completed
  have length : final.delivered.length = completedReads actions :=
    completed.trans (Nat.zero_add _)
  have mapped :
      (final.delivered.map Delivery.moment).length =
        completedReads actions := by
    rw [List.length_map, length]
  refine ⟨length, ?_⟩
  rw [← mapped]
  exact (List.take_left' rfl).symm.trans
    (congrArg (List.take _) served)

/-- The invariant holds after every run of captures of announced frames. -/
theorem coherent_of_run
    {link : Link}
    {actions : List Action}
    {start final : State}
    (fresh : start.Fresh)
    (permitted :
      ∀ action ∈ actions, Permits link.window action)
    (ran : run? (step? link) start actions = some final) :
    Coherent link start.client final :=
  invariant_of_everyStep Coherent.step (fresh.coherent link)
    (everyStep_of_forall_mem
      (fun action member _ => permitted action member) start)
    ran

end Interleaving

end GameCapturer
