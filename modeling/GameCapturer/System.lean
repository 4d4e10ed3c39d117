import GameCapturer.ReadLoop
import GameCapturer.Tearing

namespace GameCapturer

open Foundation Foundation.StepFunction
open Foundation.CompletionQueue

/-!
# Both programs together

The server's threads and their completion queue are modelled without memory,
the interleaved loops without a queue.  Here the capture loop stores its bytes,
the session that `Server::run` starts posts its Reads, and the provider puts the
bytes of a Read in place as it queues the completion.  Every run of the whole
is a run of each of the two models.
-/

namespace System

/-- Both processes; `returned` is the server's memory at each end of `wait`. -/
structure State where
  loop : ReadLoop.State
  session : Option Server.Session
  client : Memory
  server : Memory
  moment : Interleaving.Moment
  returned : List Memory

/--
A step of the capture loop, or of the server, its peers and its provider; a
Read that fails leaves any memory behind.
-/
inductive Action where
  | mapFrame (answers : CaptureAnswers)
  | copyByte
  | unmap
  | server (action : ReadLoop.Action) (left : Memory)

/-- The same memories with a read loop that has done nothing. -/
def State.unread (state : State) : Interleaving.State where
  client := state.client
  server := state.server
  moment := state.moment
  reader := .posting
  delivered := []

/-- A step of the capture loop, which changes the client's side alone. -/
def State.capture?
    (link : Link)
    (state : State)
    (action : Interleaving.Action) : Option State :=
  (Interleaving.step? link state.unread action).map fun next =>
    { state with client := next.client, moment := next.moment }

/-- The session whose read loop runs after a step of the server. -/
def State.sessionAfter
    (state : State) : ReadLoop.Action → Option Server.Session
  | .startSession privateData beyond answers =>
      match Server.run privateData beyond answers with
      | .error _ => state.session
      | .ok session => some session
  | .arrive | .getConnectionRequest _ | .spin | .read .. | .complete ..
  | .getResults _ => state.session

/-- The server's memory after a step: a Read takes effect as it completes. -/
def State.serverAfter
    (state : State)
    (left : Memory) : ReadLoop.Action → Memory
  | .complete _ status =>
      if status ≠ ndSuccess then
        left
      else
        match state.session with
        | none => state.server
        | some session =>
            session.request.serve state.client state.server
  | .arrive | .getConnectionRequest _ | .startSession .. | .spin
  | .read .. | .getResults _ => state.server

/-- The memory with which `wait` returns in a step, if it returns. -/
def State.returns (state : State) : ReadLoop.Action → List Memory
  | .getResults _ =>
      match state.loop.provider.take? with
      | none => []
      | some (completion, _) =>
          if completion.status ≠ ndSuccess then [] else [state.server]
  | .arrive | .getConnectionRequest _ | .startSession .. | .spin
  | .read .. | .complete .. => []

/-- Any interleaving of the two programs and the provider. -/
def step? (link : Link) : StepFunction State Action
  | state, .mapFrame answers => state.capture? link (.mapFrame answers)
  | state, .copyByte => state.capture? link .copyByte
  | state, .unmap => state.capture? link .unmap
  | state, .server action left =>
      (ReadLoop.step? state.loop action).map fun loop => {
        state with
        loop
        session := state.sessionAfter action
        server := state.serverAfter left action
        returned := state.returned ++ state.returns action
      }

/-- Captured frames are announced, and a session is that of the link. -/
def Permits (link : Link) : Action → Prop
  | .mapFrame answers =>
      ∀ frame,
        Client.mapFrame answers = .ok frame →
        link.window.Announces frame
  | .server (.startSession privateData beyond answers) _ =>
      ∀ session,
        Server.run privateData beyond answers = .ok session →
        session = link.session
  | _ => True

/-- What the read loop of the interleaving does in a step of the server. -/
def State.readSteps
    (state : State) : ReadLoop.Action → List Interleaving.Action
  | .read _ result => if Failed result then [] else [.postRead]
  | .complete _ status =>
      if status ≠ ndSuccess then [] else [.serveRead]
  | .getResults thread =>
      (state.returns (.getResults thread)).map fun _ => .completeRead
  | .arrive | .getConnectionRequest _ | .startSession .. | .spin => []

/-- What the interleaving does in a step of the system. -/
def interleaved (state : State) : Action → List Interleaving.Action
  | .mapFrame answers => [.mapFrame answers]
  | .copyByte => [.copyByte]
  | .unmap => [.unmap]
  | .server action _ => state.readSteps action

/-!
### The server's Read in both models
-/

/--
Where the one outstanding Read of the server stands: in the provider and the
server's memory here, in the read loop and the memory of the interleaving there.
-/
inductive Tracks
    (provider : Provider Nat HResult)
    (server : Memory)
    (reader : Interleaving.Reader)
    (view : Memory) : Prop where
  | idle
      (outstanding : provider.outstanding = [])
      (standing : reader = .posting)
      (same : view = server)
  | posted
      (call : Nat)
      (inflight : provider.inflight = [call])
      (queue : provider.queue = [])
      (standing : reader = .posted)
      (same : view = server)
  | served
      (call : Nat)
      (moment : Interleaving.Moment)
      (inflight : provider.inflight = [])
      (queue : provider.queue = [⟨call, ndSuccess⟩])
      (standing : reader = .served moment)
      (same : view = server)
  | failed
      (completion : Completion Nat HResult)
      (inflight : provider.inflight = [])
      (queue : provider.queue = [completion])
      (status : completion.status ≠ ndSuccess)

namespace Tracks

variable
  {provider next : Provider Nat HResult}
  {server view : Memory}
  {reader : Interleaving.Reader}

/-- With nothing outstanding, the other read loop is about to post. -/
theorem of_outstanding_nil
    (tracks : Tracks provider server reader view)
    (idle : provider.outstanding = []) :
    reader = .posting ∧ view = server := by
  obtain ⟨noInflight, noQueue⟩ := List.append_eq_nil_iff.mp idle
  rw [List.map_eq_nil_iff] at noQueue
  cases tracks with
  | idle outstanding standing same =>
      exact ⟨standing, same⟩
  | posted call inflight queue standing same =>
      rw [noInflight] at inflight
      contradiction
  | served call moment inflight queue standing same =>
      rw [noQueue] at queue
      contradiction
  | failed completion inflight queue status =>
      rw [noQueue] at queue
      contradiction

/-- A Read in flight is the only one, and the other read loop has posted. -/
theorem of_mem_inflight
    {call : Nat}
    (tracks : Tracks provider server reader view)
    (member : call ∈ provider.inflight) :
    provider.inflight = [call] ∧ provider.queue = [] ∧
      reader = .posted ∧ view = server := by
  cases tracks with
  | idle outstanding standing same =>
      rw [(List.append_eq_nil_iff.mp outstanding).1] at member
      contradiction
  | posted other inflight queue standing same =>
      rw [inflight, List.mem_singleton] at member
      exact ⟨member ▸ inflight, queue, standing, same⟩
  | served other moment inflight queue standing same =>
      rw [inflight] at member
      contradiction
  | failed completion inflight queue status =>
      rw [inflight] at member
      contradiction

/-- A success that is taken has been served in the other model. -/
theorem of_take
    {completion : Completion Nat HResult}
    (tracks : Tracks provider server reader view)
    (took : provider.take? = some (completion, next))
    (succeeded : completion.status = ndSuccess) :
    next.outstanding = [] ∧
      (∃ moment, reader = .served moment) ∧ view = server := by
  obtain ⟨rest, queued, rfl⟩ := Provider.take?_eq_some_iff.mp took
  cases tracks with
  | idle outstanding standing same =>
      rw [Provider.take?_of_outstanding_nil outstanding] at took
      contradiction
  | posted call inflight queue standing same =>
      rw [queue] at queued
      contradiction
  | served call moment inflight queue standing same =>
      rw [queue] at queued
      obtain ⟨-, rfl⟩ := List.cons.inj queued
      refine ⟨?_, ⟨moment, standing⟩, same⟩
      simp only [Provider.outstanding, inflight, List.map_nil,
        List.append_nil]
  | failed other inflight queue status =>
      rw [queue] at queued
      obtain ⟨rfl, -⟩ := List.cons.inj queued
      exact absurd succeeded status

end Tracks

/-- The calls of `wait` that have returned. -/
def returnedCalls (loop : ReadLoop.State) : Nat :=
  loop.consumed.countP fun consumption =>
    consumption.completion.status = ndSuccess

/-- A state of the system next to a state of the interleaving. -/
structure Related
    (link : Link)
    (state : State)
    (spec : Interleaving.State) : Prop where
  loop : ReadLoop.Invariant state.loop
  session :
    state.loop.accept = .spinning → state.session = some link.session
  client : spec.client = state.client
  moment : spec.moment = state.moment
  returned :
    spec.delivered.map Interleaving.Delivery.memory = state.returned
  calls : state.returned.length = returnedCalls state.loop
  tracks :
    state.loop.exited = false →
    Tracks state.loop.provider state.server spec.reader spec.server

section Steps

variable
  {link : Link}
  {state next : State}
  {spec : Interleaving.State}

/-- A step of the capture loop is the same step of the interleaving. -/
theorem Related.capture
    (related : Related link state spec)
    {action : Interleaving.Action}
    (captures :
      (∃ answers, action = .mapFrame answers) ∨
        action = .copyByte ∨ action = .unmap)
    (captured : state.capture? link action = some next) :
    ∃ nextSpec,
      run? (Interleaving.step? link) spec [action] = some nextSpec ∧
        Related link next nextSpec := by
  obtain ⟨after, stepped, rfl⟩ := Option.map_eq_some_iff.mp captured
  have client : spec.client = state.unread.client := related.client
  have moment : spec.moment = state.unread.moment := related.moment
  rcases captures with ⟨answers, rfl⟩ | rfl | rfl
  · obtain ⟨idle, frame, mapped, rfl⟩ :=
      Interleaving.step?_mapFrame_eq_some_iff.mp stepped
    refine ⟨_, run?_cons_eq_some_iff.mpr ⟨_,
      Interleaving.step?_mapFrame_eq_some_iff.mpr
        ⟨moment ▸ idle, frame, mapped, rfl⟩, rfl⟩, ?_⟩
    exact { related with moment := by rw [moment] }
  · obtain ⟨progress, move, writing, following, rfl⟩ :=
      Interleaving.step?_copyByte_eq_some_iff.mp stepped
    refine ⟨_, run?_cons_eq_some_iff.mpr ⟨_,
      Interleaving.step?_copyByte_eq_some_iff.mpr
        ⟨progress, move, moment ▸ writing, following, rfl⟩, rfl⟩, ?_⟩
    exact {
      related with
      client := by rw [client]
      moment := by rw [moment]
    }
  · obtain ⟨progress, writing, last, rfl⟩ :=
      Interleaving.step?_unmap_eq_some_iff.mp stepped
    refine ⟨_, run?_cons_eq_some_iff.mpr ⟨_,
      Interleaving.step?_unmap_eq_some_iff.mpr
        ⟨progress, moment ▸ writing, last, rfl⟩, rfl⟩, ?_⟩
    exact { related with moment := by rw [moment] }

/-- A step of the server in which `wait` does not return. -/
theorem Related.unreturned
    (related : Related link state spec)
    {loop : ReadLoop.State}
    {session : Option Server.Session}
    {server view : Memory}
    {reader : Interleaving.Reader}
    (invariant : ReadLoop.Invariant loop)
    (started : loop.accept = .spinning → session = some link.session)
    (calls : returnedCalls loop = returnedCalls state.loop)
    (tracks :
      loop.exited = false → Tracks loop.provider server reader view) :
    Related link
      {
        state with
        loop
        session
        server
        returned := state.returned ++ []
      }
      { spec with reader, server := view } where
  loop := invariant
  session := started
  client := related.client
  moment := related.moment
  returned := by rw [related.returned, List.append_nil]
  calls := by rw [List.append_nil, related.calls, calls]
  tracks := tracks

/-- A step of the server that leaves its Reads alone. -/
theorem Related.quiet
    (related : Related link state spec)
    {loop : ReadLoop.State}
    {session : Option Server.Session}
    (invariant : ReadLoop.Invariant loop)
    (started : loop.accept = .spinning → session = some link.session)
    (provider : loop.provider = state.loop.provider)
    (consumed : loop.consumed = state.loop.consumed)
    (running : state.loop.exited = false) :
    Related link
      { state with loop, session, returned := state.returned ++ [] }
      spec :=
  related.unreturned invariant started
    (by rw [returnedCalls, returnedCalls, consumed])
    (fun _ => provider ▸ related.tracks running)

/-- A Read is posted in both models, or refused and in neither. -/
theorem Related.read
    (related : Related link state spec)
    {thread : Nat}
    {result : HResult}
    {loop : ReadLoop.State}
    (invariant : ReadLoop.Invariant loop)
    (running : state.loop.exited = false)
    (read : state.loop.read? thread result = some loop) :
    ∃ nextSpec,
      run? (Interleaving.step? link) spec
            (state.readSteps (.read thread result)) =
          some nextSpec ∧
        Related link
          { state with loop, returned := state.returned ++ [] }
          nextSpec := by
  obtain ⟨posting, rfl⟩ := ReadLoop.State.read?_eq_some_iff.mp read
  have idle := related.loop.outstanding_of_posting posting
  obtain ⟨standing, same⟩ :=
    (related.tracks running).of_outstanding_nil idle
  by_cases refused : Failed result
  · refine ⟨spec, by simp [State.readSteps, refused], ?_⟩
    refine related.unreturned invariant related.session rfl fun _ => ?_
    simp only [refused, ↓reduceIte]
    exact .idle idle standing same
  · have posted :
        Interleaving.step? link spec .postRead =
          some { spec with reader := .posted } :=
      Interleaving.step?_postRead_eq_some_iff.mpr ⟨standing, rfl⟩
    refine ⟨{ spec with reader := .posted }, ?_, ?_⟩
    · simp only [State.readSteps, refused, ↓reduceIte]
      exact run?_cons_eq_some_iff.mpr ⟨_, posted, rfl⟩
    · obtain ⟨inflight, queue⟩ := List.append_eq_nil_iff.mp idle
      refine related.unreturned invariant related.session rfl
        fun _ => ?_
      simp only [refused, ↓reduceIte, Provider.submit, inflight]
      exact .posted state.loop.calls rfl
        (List.map_eq_nil_iff.mp queue) rfl same

/-- A Read in flight belongs to a read loop, and that to a session. -/
theorem Related.session_of_mem_inflight
    (related : Related link state spec)
    {call : Nat}
    (member : call ∈ state.loop.provider.inflight) :
    state.session = some link.session := by
  refine related.session ?_
  by_contra notSpinning
  have aligned := related.loop.aligned
  rw [related.loop.unstarted notSpinning] at aligned
  rw [(List.append_eq_nil_iff.mp aligned).1] at member
  contradiction

/-- A Read that completes with success is served in both models. -/
theorem Related.complete
    (related : Related link state spec)
    {call : Nat}
    {status : HResult}
    {provider : Provider Nat HResult}
    {left : Memory}
    (invariant : ReadLoop.Invariant { state.loop with provider })
    (running : state.loop.exited = false)
    (finished :
      state.loop.provider.finish? call status = some provider) :
    ∃ nextSpec,
      run? (Interleaving.step? link) spec
            (state.readSteps (.complete call status)) =
          some nextSpec ∧
        Related link
          {
            state with
            loop := { state.loop with provider }
            server := state.serverAfter left (.complete call status)
            returned := state.returned ++ []
          }
          nextSpec := by
  obtain ⟨member, rfl⟩ := Provider.finish?_eq_some_iff.mp finished
  obtain ⟨inflight, queue, standing, same⟩ :=
    (related.tracks running).of_mem_inflight member
  have landed : state.loop.provider.inflight.erase call = [] := by
    rw [inflight, List.erase_cons_head]
  have queued :
      state.loop.provider.queue ++ [Completion.mk call status] =
        [⟨call, status⟩] := by
    rw [queue, List.nil_append]
  by_cases failed : status ≠ ndSuccess
  · refine ⟨spec, by simp [State.readSteps, failed], ?_⟩
    exact related.unreturned invariant related.session rfl
      fun _ => .failed _ landed queued failed
  · have succeeded : status = ndSuccess := not_not.mp failed
    subst succeeded
    have served :
        Interleaving.step? link spec .serveRead =
          some {
            spec with
            server := link.request.serve spec.client spec.server
            reader := .served spec.moment
          } :=
      Interleaving.step?_serveRead_eq_some_iff.mpr ⟨standing, rfl⟩
    refine ⟨_, run?_cons_eq_some_iff.mpr ⟨_, served, rfl⟩, ?_⟩
    refine related.unreturned invariant related.session rfl
      fun _ => .served call spec.moment landed queued rfl ?_
    simp only [State.serverAfter, ne_eq, not_true_eq_false, ↓reduceIte,
      related.session_of_mem_inflight member, related.client, same]
    rfl

/-- `wait` returns in both models, with the same memory. -/
theorem Related.getResults
    (related : Related link state spec)
    {thread : Nat}
    {loop : ReadLoop.State}
    (invariant : ReadLoop.Invariant loop)
    (running : state.loop.exited = false)
    (polled : state.loop.getResults? thread = some loop) :
    ∃ nextSpec,
      run? (Interleaving.step? link) spec
            (state.readSteps (.getResults thread)) =
          some nextSpec ∧
        Related link
          {
            state with
            loop
            returned :=
              state.returned ++ state.returns (.getResults thread)
          }
          nextSpec := by
  obtain ⟨call, waiting, ⟨empty, rfl⟩ | ⟨completion, provider, took, rest⟩⟩ :=
    ReadLoop.State.getResults?_cases polled
  · have quiet : state.returns (.getResults thread) = [] := by
      simp only [State.returns, empty]
    refine ⟨spec, by simp only [State.readSteps, quiet]; rfl, ?_⟩
    rw [quiet]
    exact related.quiet invariant related.session rfl rfl running
  rcases rest with ⟨failed, rfl⟩ | ⟨succeeded, rfl⟩
  · have quiet : state.returns (.getResults thread) = [] := by
      simp only [State.returns, took]
      exact if_pos failed
    refine ⟨spec, by simp only [State.readSteps, quiet]; rfl, ?_⟩
    rw [quiet]
    exact related.unreturned invariant related.session
      (by simp [returnedCalls, failed]) nofun
  · obtain ⟨idle, ⟨moment, standing⟩, same⟩ :=
      (related.tracks running).of_take took succeeded
    have returns :
        state.returns (.getResults thread) = [state.server] := by
      simp [State.returns, took, succeeded]
    have completed :
        Interleaving.step? link spec .completeRead =
          some {
            spec with
            reader := .posting
            delivered :=
              spec.delivered ++ [{ moment, memory := spec.server }]
          } :=
      Interleaving.step?_completeRead_eq_some_iff.mpr
        ⟨moment, standing, rfl⟩
    refine ⟨{
      spec with
      reader := .posting
      delivered :=
        spec.delivered ++ [{ moment, memory := spec.server }]
    }, ?_, ?_⟩
    · simp only [State.readSteps, returns, List.map_cons, List.map_nil]
      exact run?_cons_eq_some_iff.mpr ⟨_, completed, rfl⟩
    · rw [returns]
      exact {
        related with
        loop := invariant
        returned := by
          rw [List.map_append, related.returned, same]
          rfl
        calls := by
          simp [returnedCalls, succeeded, related.calls]
        tracks := fun _ => .idle idle rfl same
      }

/-- Every step of the server is matched by its read loop alone. -/
theorem Related.server
    (related : Related link state spec)
    {action : ReadLoop.Action}
    {left : Memory}
    (permitted : Permits link (.server action left))
    (stepped : step? link state (.server action left) = some next) :
    ∃ nextSpec,
      run? (Interleaving.step? link) spec (state.readSteps action) =
          some nextSpec ∧
        Related link next nextSpec := by
  obtain ⟨loop, moved, rfl⟩ := Option.map_eq_some_iff.mp stepped
  have invariant := related.loop.step moved
  obtain ⟨running, advanced⟩ := ReadLoop.step?_eq_some_iff.mp moved
  cases action with
  | arrive =>
      cases advanced
      exact ⟨spec, rfl,
        related.quiet invariant related.session rfl rfl running⟩
  | getConnectionRequest status =>
      obtain ⟨-, backlog, rfl⟩ :=
        ReadLoop.State.getConnectionRequest?_cases advanced
      exact ⟨spec, rfl,
        related.quiet invariant nofun rfl rfl running⟩
  | startSession privateData beyond answers =>
      refine ⟨spec, rfl, ?_⟩
      obtain ⟨establishing, shape⟩ :=
        ReadLoop.State.startSession?_cases advanced
      have started :
          loop.accept = .spinning →
          state.sessionAfter (.startSession privateData beyond answers) =
            some link.session := by
        intro spinning
        cases ran : Server.run privateData beyond answers with
        | error message =>
            simp only [ReadLoop.State.next?,
              ReadLoop.State.startSession?, establishing, ran]
              at advanced
            cases advanced
            contradiction
        | ok session =>
            simp only [State.sessionAfter, ran]
            exact congrArg some (permitted session ran)
      rcases shape with rfl | rfl
      · exact related.quiet invariant started rfl rfl running
      · exact related.quiet invariant started rfl rfl running
  | spin =>
      simp only [ReadLoop.State.next?, Option.ite_none_right_eq_some,
        Option.some_inj] at advanced
      obtain ⟨-, rfl⟩ := advanced
      exact ⟨spec, rfl,
        related.quiet invariant related.session rfl rfl running⟩
  | read thread result =>
      exact related.read invariant running advanced
  | complete call status =>
      obtain ⟨provider, finished, rfl⟩ :=
        Option.map_eq_some_iff.mp advanced
      exact related.complete invariant running finished
  | getResults thread =>
      exact related.getResults invariant running advanced

end Steps

/-- The interleaving simulates the system, whatever its queue does. -/
def simulation (link : Link) :
    Simulation (step? link) (Interleaving.step? link)
      (fun _ => Permits link) interleaved where
  related := Related link
  matched := by
    intro state next spec action related permitted stepped
    cases action with
    | mapFrame answers =>
        exact related.capture (.inl ⟨answers, rfl⟩) stepped
    | copyByte =>
        exact related.capture (.inr (.inl rfl)) stepped
    | unmap =>
        exact related.capture (.inr (.inr rfl)) stepped
    | server action left =>
        exact related.server permitted stepped

/-- The steps of the server alone. -/
def Action.served : Action → List ReadLoop.Action
  | .mapFrame _ | .copyByte | .unmap => []
  | .server action _ => [action]

/-- The server's threads never notice the memories. -/
def projection (link : Link) :
    Simulation (step? link) ReadLoop.step? (fun _ _ => True)
      (fun _ => Action.served) where
  related state loop := state.loop = loop
  matched := by
    rintro state next loop action rfl - stepped
    cases action with
    | mapFrame answers =>
        obtain ⟨after, -, rfl⟩ := Option.map_eq_some_iff.mp stepped
        exact ⟨state.loop, rfl, rfl⟩
    | copyByte =>
        obtain ⟨after, -, rfl⟩ := Option.map_eq_some_iff.mp stepped
        exact ⟨state.loop, rfl, rfl⟩
    | unmap =>
        obtain ⟨after, -, rfl⟩ := Option.map_eq_some_iff.mp stepped
        exact ⟨state.loop, rfl, rfl⟩
    | server action left =>
        obtain ⟨loop, moved, rfl⟩ := Option.map_eq_some_iff.mp stepped
        exact ⟨loop, run?_cons_eq_some_iff.mpr ⟨loop, moved, rfl⟩, rfl⟩

/-!
### Runs of the system
-/

/-- Neither program has done anything yet. -/
structure State.Fresh (state : State) : Prop where
  loop : state.loop = .initial
  moment : state.moment = .start
  returned : state.returned = []

namespace State.Fresh

variable {state : State} (fresh : state.Fresh)

include fresh

/-- The interleaving of a fresh system is fresh. -/
theorem unread : state.unread.Fresh where
  moment := fresh.moment
  reader := rfl
  delivered := rfl

/-- A fresh system is related to it. -/
theorem related (link : Link) : Related link state state.unread := by
  obtain ⟨loop, -, returned⟩ := fresh
  exact {
    loop := loop ▸ ReadLoop.invariant_initial
    session := by rw [loop]; nofun
    client := rfl
    moment := rfl
    returned := returned.symm
    calls := by rw [returned, loop]; rfl
    tracks := fun _ => by
      rw [loop]
      exact .idle rfl rfl rfl
  }

end State.Fresh

/-- What the interleaving does in a run of the system. -/
def interleavedRun
    (link : Link)
    (start : State)
    (actions : List Action) : List Interleaving.Action :=
  trace (step? link) interleaved start actions

/-- Permitted actions of the system are permitted in the interleaving. -/
theorem permits_interleavedRun
    {link : Link}
    {start : State}
    {actions : List Action}
    (permitted : ∀ action ∈ actions, Permits link action) :
    ∀ action ∈ interleavedRun link start actions,
      Interleaving.Permits link.window action := by
  refine forall_mem_trace (fun state action member => ?_) start
  have allowed := permitted action member
  cases action with
  | mapFrame answers =>
      exact List.forall_mem_singleton.mpr allowed
  | copyByte =>
      exact List.forall_mem_singleton.mpr trivial
  | unmap =>
      exact List.forall_mem_singleton.mpr trivial
  | server action left =>
      intro label present
      cases label with
      | mapFrame answers =>
          cases action <;> simp [interleaved, State.readSteps] at present
      | _ => trivial

/--
A run of the system against its actions: the server's part is a run of the read
loop, and `wait` returns once for each success it takes, every time with memory
that the moment of the Read accounts for.
-/
structure ReturnsAccounted
    (link : Link)
    (start : State)
    (actions : List Action)
    (final : State) : Prop where
  loop :
    run? ReadLoop.step? .initial (actions.flatMap Action.served) =
      some final.loop
  deliveries :
    ∃ deliveries : List Interleaving.Delivery,
      deliveries.map Interleaving.Delivery.memory = final.returned ∧
        deliveries.map Interleaving.Delivery.moment =
          (Interleaving.servedMoments .start
              (interleavedRun link start actions)).take
            (returnedCalls final.loop) ∧
        ∀ delivery ∈ deliveries, delivery.Accounted link start.client
  count : final.returned.length = returnedCalls final.loop

/-- Every return of `wait` is accounted for in every run of the system. -/
theorem returns_accounted_of_run
    (link : Link)
    {actions : List Action}
    {start final : State}
    (fresh : start.Fresh)
    (permitted : ∀ action ∈ actions, Permits link action)
    (ran : run? (step? link) start actions = some final) :
    ReturnsAccounted link start actions final := by
  obtain ⟨spec, matched, related⟩ :=
    (simulation link).run (fresh.related link)
      (everyStep_of_forall_mem
        (fun action member _ => permitted action member) start)
      ran
  obtain ⟨loop, projected, rfl⟩ :=
    (projection link).run rfl (everyStep_true start actions) ran
  rw [trace_eq_flatMap ran, fresh.loop] at projected
  have coherent :=
    Interleaving.coherent_of_run fresh.unread
      (permits_interleavedRun permitted) matched
  obtain ⟨completed, moments⟩ := fresh.unread.moments_of_run matched
  have count : spec.delivered.length = returnedCalls final.loop := by
    rw [← related.calls, ← related.returned, List.length_map]
  rw [← completed, count] at moments
  exact {
    loop := projected
    deliveries := ⟨spec.delivered, related.returned, moments,
      fun delivery member =>
        (coherent.delivered delivery member).accounted⟩
    count := related.calls
  }

/-- The server accepts the link's client and starts its session. -/
def connect (link : Link) : List ReadLoop.Action := [
  .arrive,
  .getConnectionRequest ndSuccess,
  .startSession
    ((Client.channel link.window link.clientBuffer
      link.remoteToken).encode link.padding ++ link.trailing)
    link.beyond link.answers
]

/-- A frame is captured, then one Read is posted, completed and taken. -/
def captureAndRead (link : Link) (frame : Frame) : List Action :=
  (connect link).map (.server · fun _ => 0) ++
    .mapFrame (.succeeding frame) ::
      (List.replicate
          (Client.copyMoves frame link.clientBuffer.toNat).length
          .copyByte ++
        .unmap ::
          [ReadLoop.Action.read 0 ndSuccess, .complete 0 ndSuccess,
            .getResults 0].map (.server · fun _ => 0))

/-- Blank memories and no step taken. -/
def State.blank : State where
  loop := .initial
  session := none
  client := fun _ => 0
  server := fun _ => 0
  moment := .start
  returned := []

/-- Such a run captures an announced frame for the session of the link. -/
theorem permits_captureAndRead
    {link : Link}
    {frame : Frame}
    (announced : link.window.Announces frame) :
    ∀ action ∈ captureAndRead link frame, Permits link action := by
  intro action member
  simp only [captureAndRead, connect, List.map_cons, List.map_nil,
    List.cons_append, List.nil_append, List.mem_cons, List.mem_append,
    List.mem_replicate, List.not_mem_nil, or_false] at member
  rcases member with rfl | rfl | rfl | rfl | ⟨-, rfl⟩ | rfl | rfl |
    rfl | rfl
  · trivial
  · trivial
  · intro session started
    exact Except.ok.inj (started.symm.trans link.started)
  · intro captured mapped
    rw [Client.mapFrame_succeeding] at mapped
    cases mapped
    exact announced
  all_goals trivial

/-- One Read after one capture returns with the captured frame. -/
theorem returns_accounted_sample :
    ∃ (final : State) (memory : Memory),
      run? (step? (.sized 2 1)) .blank
            (captureAndRead (.sized 2 1) (Interleaving.uniformPair 1)) =
          some final ∧
        final.returned = [memory] ∧
        (Link.sized 2 1).window.Shows (Link.sized 2 1).view.toNat
          (Interleaving.uniformPair 1) memory := by
  obtain ⟨final, ran⟩ :
      ∃ final,
        run? (step? (.sized 2 1)) .blank
            (captureAndRead (.sized 2 1)
              (Interleaving.uniformPair 1)) =
          some final :=
    ⟨_, rfl⟩
  have calls :
      (run? (step? (.sized 2 1)) .blank
          (captureAndRead (.sized 2 1)
            (Interleaving.uniformPair 1))).map
          (fun state => returnedCalls state.loop) =
        some 1 :=
    rfl
  rw [ran, Option.map_some, Option.some_inj] at calls
  have accounted :=
    returns_accounted_of_run (.sized 2 1)
      { loop := rfl, moment := rfl, returned := rfl }
      (permits_captureAndRead ⟨rfl, rfl⟩) ran
  obtain ⟨deliveries, memories, moments, all⟩ := accounted.deliveries
  have served :
      Interleaving.servedMoments .start
          (interleavedRun (.sized 2 1) .blank
            (captureAndRead (.sized 2 1)
              (Interleaving.uniformPair 1))) =
        [⟨none, [Interleaving.uniformPair 1]⟩] :=
    rfl
  rw [served, calls] at moments
  obtain ⟨delivery, rfl, moment⟩ := List.map_eq_singleton_iff.mp moments
  refine ⟨final, delivery.memory, ran, memories.symm, ?_⟩
  exact (all delivery (List.mem_singleton.mpr rfl)).whole (by decide)
    (by rw [moment]) (Interleaving.uniformPair 1) (by rw [moment]; rfl)
    (by decide)

end System

end GameCapturer
