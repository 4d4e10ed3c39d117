import GameCapturer.ServerRun
import GameCapturer.Foundation.CallSequence
import GameCapturer.Foundation.StepFunction

namespace GameCapturer

open Foundation Foundation.StepFunction Foundation.StructLoad
open Foundation.CallSequence

/-!
# Establishing a session

`Client::run` and `Server::run` are straight-line sequences of calls up to
their endless loops.  Every call may succeed, fail, or report `ND_PENDING` and
settle later; the two parties interleave in any order.  The client checks the
result of `Connect` and the server its two Win32 calls; every other result is
stored in a variable that nothing reads.
-/

/-- The result of a call: a status, or a handle or pointer of a Win32 call. -/
inductive Outcome where
  | status (result : HResult)
  | handle (value : UInt64)
  deriving Repr, DecidableEq

/-- `ND_SUCCESS` as an outcome. -/
def Outcome.success : Outcome :=
  .status ndSuccess

namespace Client

/-- The calls of `Client::run` before its capture loop. -/
inductive Call where
  | createConnector
  | bind
  | createQueuePair
  | createMemoryRegion
  | register
  | connect
  | completeConnect
  deriving Repr, DecidableEq

/-- The calls in program order. -/
def program : List Call :=
  [.createConnector, .bind, .createQueuePair, .createMemoryRegion,
    .register, .connect, .completeConnect]

/--
Four calls wait for the overlapped result when they are pending; only a
failed `Connect` ends the client.  After a failed `CreateConnector`,
`CreateQueuePair` or `CreateMemoryRegion` the source calls through a pointer
that nothing has set: going on there is an over-approximation of its runs.
-/
def discipline : Discipline Call Outcome where
  awaits call outcome :=
    call ∈ [.bind, .register, .connect, .completeConnect] ∧
      outcome = .status ndPending
  passes call outcome :=
    call ≠ .connect ∨ outcome = .success

end Client

namespace Server

/-- The calls of `Server::run` before its read loop. -/
inductive Call where
  | createConnector
  | getConnectionRequest
  | getPrivateDataLength
  | getPrivateData
  | createMemoryRegion
  | createFileMapping
  | mapViewOfFile
  | register
  | createQueuePair
  | accept
  deriving Repr, DecidableEq

/-- The calls in program order. -/
def program : List Call :=
  [.createConnector, .getConnectionRequest, .getPrivateDataLength,
    .getPrivateData, .createMemoryRegion, .createFileMapping,
    .mapViewOfFile, .register, .createQueuePair, .accept]

/--
Three calls wait for the overlapped result when they are pending; only a null
file mapping or view ends the server.  As on the client, going on after a
failed `CreateConnector`, `CreateMemoryRegion` or `CreateQueuePair`
over-approximates the source, which then calls through an unset pointer.
-/
def discipline : Discipline Call Outcome where
  awaits call outcome :=
    call ∈ [.getConnectionRequest, .register, .accept] ∧
      outcome = .status ndPending
  passes call outcome :=
    call ∉ [.createFileMapping, .mapViewOfFile] ∨
      outcome ≠ .handle 0

end Server

namespace Session

/--
The values a session depends on: the window, the results of `HeapAlloc`,
`GetRemoteToken` and `GetLocalToken`, the padding of the client's `Channel`,
and the memory that the server's `channel` points to.
-/
structure Setting where
  window : Window
  clientBuffer : UInt64
  remoteToken : UInt32
  padding : Vector UInt8 4
  channel : Bytes
  localToken : UInt32

/-- The private data that the client passes to `Connect`. -/
def Setting.privateData (setting : Setting) : List UInt8 :=
  (Client.channel setting.window setting.clientBuffer
    setting.remoteToken).encode setting.padding

/-- Both parties, and every Read the server has posted. -/
structure State where
  client : Progress Client.Call Outcome
  server : Progress Server.Call Outcome
  posted : List ReadRequest
  deriving Repr, DecidableEq

/-- Neither party has made a call. -/
def State.initial : State where
  client := .start Client.program
  server := .start Server.program
  posted := []

/-- `buffer` of `Server::run`: the view that `MapViewOfFile` returned. -/
def State.view (state : State) : UInt64 :=
  (state.server.done.findSome? fun
    | (.mapViewOfFile, .handle value) => some value
    | _ => none).getD 0

/-- A step of one party, or a Read posted by the server's read loop. -/
inductive Action where
  | client (event : Event Outcome)
  | server (event : Event Outcome)
  | postRead
  deriving Repr, DecidableEq

/-- The parties in any order; the read loop starts after the last call. -/
def step? (setting : Setting) : StepFunction State Action
  | state, .client event =>
      (state.client.advance? Client.discipline event).map
        fun client => { state with client }
  | state, .server event =>
      (state.server.advance? Server.discipline event).map
        fun server => { state with server }
  | state, .postRead =>
      if state.server.remaining = [] then
        some {
          state with
          posted :=
            state.posted ++
              [(Server.readFrame state.view
                setting.localToken).value setting.channel]
        }
      else
        none

/-- `channel` holds the private data of the connection request. -/
def Setting.Filled (setting : Setting) : Prop :=
  ∀ offset < Channel.size,
    setting.channel offset = setting.privateData.getD offset 0

instance (setting : Setting) : Decidable setting.Filled :=
  inferInstanceAs (Decidable (∀ _ < _, _))

/--
What the provider promises about calls that succeed: the private data of a
connection request is what the client passed to `Connect`, and `Accept`
completes when the client completes the connection.
-/
def Conforms
    (setting : Setting)
    (state : State)
    (action : Action) : Prop :=
  match action with
  | .server event =>
      match state.server.settled? Server.discipline event with
      | some (.getPrivateData, outcome) =>
          outcome = .success → setting.Filled
      | some (.accept, outcome) =>
          outcome = .success →
            state.client.Begun .completeConnect
      | _ => True
  | _ => True

instance
    (setting : Setting)
    (state : State)
    (action : Action) :
    Decidable (Conforms setting state action) := by
  unfold Conforms
  split <;> (try split) <;> infer_instance

/-- The client's calls whose result matters and is not checked. -/
def clientUnchecked : List Client.Call :=
  [.register]

/-- The server's calls whose result matters and is not checked. -/
def serverUnchecked : List Server.Call :=
  [.getConnectionRequest, .getPrivateData, .register,
    .createQueuePair, .accept]

/-- An unchecked call that settles in this step settles with success. -/
def Succeeds (state : State) : Action → Prop
  | .client event =>
      ∀ pair ∈ state.client.settled? Client.discipline event,
        pair.1 ∈ clientUnchecked → pair.2 = .success
  | .server event =>
      ∀ pair ∈ state.server.settled? Server.discipline event,
        pair.1 ∈ serverUnchecked → pair.2 = .success
  | .postRead => True

instance
    (state : State)
    (action : Action) :
    Decidable (Succeeds state action) := by
  cases action <;> unfold Succeeds <;> infer_instance

/-- Every call the session rests on has finished with success. -/
structure Established (state : State) : Prop where
  clientRegister :
    (Client.Call.register, Outcome.success) ∈ state.client.done
  clientConnect :
    (Client.Call.connect, Outcome.success) ∈ state.client.done
  getConnectionRequest :
    (Server.Call.getConnectionRequest, Outcome.success) ∈
      state.server.done
  getPrivateData :
    (Server.Call.getPrivateData, Outcome.success) ∈
      state.server.done
  serverRegister :
    (Server.Call.register, Outcome.success) ∈ state.server.done
  createQueuePair :
    (Server.Call.createQueuePair, Outcome.success) ∈
      state.server.done
  accept :
    (Server.Call.accept, Outcome.success) ∈ state.server.done

/-!
### What every session keeps to
-/

section Inversion

variable {setting : Setting} {state next : State}

/-- A step of the client changes the client alone. -/
theorem step?_client_eq_some_iff {event : Event Outcome} :
    step? setting state (.client event) = some next ↔
      ∃ client,
        state.client.advance? Client.discipline event =
            some client ∧
          next = { state with client } := by
  simp only [step?, Option.map_eq_some_iff]
  exact exists_congr fun _ => and_congr_right fun _ => eq_comm

/-- A step of the server changes the server alone. -/
theorem step?_server_eq_some_iff {event : Event Outcome} :
    step? setting state (.server event) = some next ↔
      ∃ server,
        state.server.advance? Server.discipline event =
            some server ∧
          next = { state with server } := by
  simp only [step?, Option.map_eq_some_iff]
  exact exists_congr fun _ => and_congr_right fun _ => eq_comm

/-- A Read is posted only by the read loop. -/
theorem step?_postRead_eq_some_iff :
    step? setting state .postRead = some next ↔
      state.server.remaining = [] ∧
        next = {
          state with
          posted :=
            state.posted ++
              [(Server.readFrame state.view
                setting.localToken).value setting.channel]
        } := by
  simp only [step?, Option.ite_none_right_eq_some, Option.some_inj]
  exact and_congr_right fun _ => eq_comm

end Inversion

/-- What holds in every state of a session, whatever its provider does. -/
structure Ordered (setting : Setting) (state : State) : Prop where
  client :
    state.client.Follows Client.discipline Client.program
  server :
    state.server.Follows Server.discipline Server.program
  posted :
    ∀ request ∈ state.posted,
      state.server.remaining = [] ∧
        request =
          (Server.readFrame state.view
            setting.localToken).value setting.channel

/-- Both programs are in order before the first call. -/
theorem ordered_initial (setting : Setting) :
    Ordered setting .initial where
  client := Progress.follows_start _ _
  server := Progress.follows_start _ _
  posted := List.forall_mem_nil _

/-- Every step keeps both programs in order. -/
theorem Ordered.step
    {setting : Setting}
    {state next : State}
    {action : Action}
    (ordered : Ordered setting state)
    (stepped : step? setting state action = some next) :
    Ordered setting next := by
  cases action with
  | client event =>
      obtain ⟨client, advanced, rfl⟩ :=
        step?_client_eq_some_iff.mp stepped
      exact { ordered with client := ordered.client.advance advanced }
  | server event =>
      obtain ⟨server, advanced, rfl⟩ :=
        step?_server_eq_some_iff.mp stepped
      refine {
        client := ordered.client
        server := ordered.server.advance advanced
        posted := ?_
      }
      intro request member
      have completed := (ordered.posted request member).1
      simp [Progress.advance?, completed] at advanced
  | postRead =>
      obtain ⟨completed, rfl⟩ :=
        step?_postRead_eq_some_iff.mp stepped
      refine { ordered with posted := ?_ }
      intro request member
      rcases List.mem_append.mp member with earlier | last
      · exact ordered.posted request earlier
      · exact ⟨completed, List.mem_singleton.mp last⟩

/-- After the last call of the server, each call has settled and passed. -/
theorem Ordered.server_settled
    {setting : Setting}
    {state : State}
    (ordered : Ordered setting state)
    (completed : state.server.remaining = [])
    (call : Server.Call) :
    ∃ outcome,
      (call, outcome) ∈ state.server.done ∧
        Server.discipline.passes call outcome := by
  have member : call ∈ Server.program := by
    cases call <;> decide
  exact ordered.server.settled_of_completed completed member

/-- The view is the one handle that `MapViewOfFile` has returned. -/
theorem Ordered.view_eq
    {setting : Setting}
    {state : State}
    (ordered : Ordered setting state)
    {view : UInt64}
    (viewed :
      (Server.Call.mapViewOfFile, Outcome.handle view) ∈
        state.server.done) :
    state.view = view := by
  have distinct : Server.program.Nodup := by
    decide
  let handle? : Server.Call × Outcome → Option UInt64 := fun
    | (.mapViewOfFile, .handle value) => some value
    | _ => none
  have found : (state.server.done.findSome? handle?).isSome :=
    List.findSome?_isSome_iff.mpr ⟨_, viewed, rfl⟩
  obtain ⟨value, first⟩ := Option.isSome_iff_exists.mp found
  obtain ⟨⟨call, outcome⟩, member, isValue⟩ :=
    List.exists_of_findSome?_eq_some first
  have settled :
      (call, outcome) =
        (Server.Call.mapViewOfFile, Outcome.handle value) := by
    cases call <;> cases outcome <;> simp_all [handle?]
  rw [settled] at member
  have same :=
    ordered.server.outcome_unique distinct member viewed
  rw [State.view]
  change (state.server.done.findSome? handle?).getD 0 = view
  rw [first, Option.getD_some]
  exact Outcome.handle.inj same

/-- The two Win32 calls return no null when they settle. -/
theorem Ordered.handle_ne_zero
    {setting : Setting}
    {state : State}
    (ordered : Ordered setting state)
    {call : Server.Call}
    (checked : call ∈ [Server.Call.createFileMapping, .mapViewOfFile])
    {value : UInt64}
    (settled : (call, Outcome.handle value) ∈ state.server.done) :
    value ≠ 0 := by
  have passes := ordered.server.passed _ settled
  rintro rfl
  simp only [Server.discipline, decide_eq_true_eq] at passes
  exact passes.elim (absurd checked) (absurd rfl)

/-- What a conforming provider adds. -/
structure Invariant (setting : Setting) (state : State) : Prop
    extends Ordered setting state where
  filled :
    (Server.Call.getPrivateData, Outcome.success) ∈
        state.server.done →
      setting.Filled
  completing :
    (Server.Call.accept, Outcome.success) ∈ state.server.done →
      state.client.Begun .completeConnect

/-- The invariant holds before the first call. -/
theorem invariant_initial (setting : Setting) :
    Invariant setting .initial where
  toOrdered := ordered_initial setting
  filled := by rintro ⟨⟩
  completing := by rintro ⟨⟩

/-- Every step of a conforming provider keeps the invariant. -/
theorem Invariant.step
    {setting : Setting}
    {state next : State}
    {action : Action}
    (invariant : Invariant setting state)
    (conforms : Conforms setting state action)
    (stepped : step? setting state action = some next) :
    Invariant setting next := by
  have ordered := invariant.toOrdered.step stepped
  cases action with
  | client event =>
      obtain ⟨client, advanced, rfl⟩ :=
        step?_client_eq_some_iff.mp stepped
      exact {
        toOrdered := ordered
        filled := invariant.filled
        completing := fun accepted =>
          (invariant.completing accepted).advance advanced
      }
  | server event =>
      obtain ⟨server, advanced, rfl⟩ :=
        step?_server_eq_some_iff.mp stepped
      refine {
        toOrdered := ordered
        filled := ?_
        completing := ?_
      }
      · intro fetched
        rcases Progress.done_advance advanced fetched with
          earlier | settles
        · exact invariant.filled earlier
        · simpa only [Conforms, settles, forall_const]
            using conforms
      · intro accepted
        rcases Progress.done_advance advanced accepted with
          earlier | settles
        · exact invariant.completing earlier
        · simpa only [Conforms, settles, forall_const]
            using conforms
  | postRead =>
      obtain ⟨-, rfl⟩ := step?_postRead_eq_some_iff.mp stepped
      exact {
        toOrdered := ordered
        filled := invariant.filled
        completing := invariant.completing
      }

/-- Every unchecked call that has settled has settled with success. -/
structure Unfailing (state : State) : Prop where
  client :
    ∀ pair ∈ state.client.done,
      pair.1 ∈ clientUnchecked → pair.2 = .success
  server :
    ∀ pair ∈ state.server.done,
      pair.1 ∈ serverUnchecked → pair.2 = .success

/-- A step in which no unchecked call fails keeps them unfailing. -/
theorem Unfailing.step
    {setting : Setting}
    {state next : State}
    {action : Action}
    (unfailing : Unfailing state)
    (succeeds : Succeeds state action)
    (stepped : step? setting state action = some next) :
    Unfailing next := by
  cases action with
  | client event =>
      obtain ⟨client, advanced, rfl⟩ :=
        step?_client_eq_some_iff.mp stepped
      refine { unfailing with client := ?_ }
      intro pair member
      rcases Progress.done_advance advanced member with
        earlier | settles
      · exact unfailing.client pair earlier
      · exact succeeds pair settles
  | server event =>
      obtain ⟨server, advanced, rfl⟩ :=
        step?_server_eq_some_iff.mp stepped
      refine { unfailing with server := ?_ }
      intro pair member
      rcases Progress.done_advance advanced member with
        earlier | settles
      · exact unfailing.server pair earlier
      · exact succeeds pair settles
  | postRead =>
      obtain ⟨-, rfl⟩ := step?_postRead_eq_some_iff.mp stepped
      exact { unfailing with }

/-- The loads of `read_frame` see a filled channel as the client sent it. -/
theorem Setting.Filled.readFrame
    {setting : Setting}
    (filled : setting.Filled)
    (view : UInt64) :
    (Server.readFrame view setting.localToken).value
        setting.channel =
      {
        requestContext := 0
        sge :=
          Server.readSge view setting.localToken
            setting.window.width setting.window.height
        remoteAddress := setting.clientBuffer
        remoteToken := setting.remoteToken
        flags := 0
      } := by
  have received :=
    Server.readFrame_received view setting.localToken
      (Client.channel setting.window setting.clientBuffer
        setting.remoteToken)
      setting.padding [] (fun _ => 0)
  refine Eq.trans ?_ received
  apply (Server.readFrame view setting.localToken).determined
  intro offset member
  have inside := Server.readFrame_footprint_lt member
  rw [filled offset inside, Channel.received, block,
    List.append_nil]
  rfl

end Session

end GameCapturer
