import GameCapturer.ReadLoop

namespace GameCapturer

open Foundation Foundation.StepFunction
open Foundation.CompletionQueue

/-!
# What `wait` takes, and when it has nothing to take

Because the accepting thread spins after its first session, there is one read
loop and its `wait` can only take the completion of its own Read.  The same
argument fails to protect the loop from a refused Read: `read_frame` prints
the failure and enters `wait` all the same, and then nothing ever arrives.
-/

namespace ReadLoop

/-- Every call whose `wait` has returned took a successful completion. -/
def Returned (state : State) : Prop :=
  ∀ call < state.calls,
    .waiting call ∉ state.readers →
    ∃ consumption ∈ state.consumed,
      consumption.call = call ∧
        consumption.completion.status = ndSuccess

/-- Calls do not return by posting the next Read. -/
theorem Returned.read
    {state next : State}
    {thread : Nat}
    {result : HResult}
    (returned : Returned state)
    (invariant : Invariant state)
    (stepped : state.read? thread result = some next) :
    Returned next := by
  obtain ⟨posting, rfl⟩ := State.read?_eq_some_iff.mp stepped
  obtain ⟨only, first⟩ := invariant.aligned.eq_singleton posting
  intro call called elsewhere
  simp only [only, first, List.set_cons_zero, List.mem_singleton,
    ReaderThread.waiting.injEq] at elsewhere
  have earlier : call < state.calls :=
    Nat.lt_of_le_of_ne (Nat.le_of_lt_succ called) elsewhere
  refine returned call earlier ?_
  rw [only, List.mem_singleton]
  exact ReaderThread.noConfusion

/-- A call returns with the completion that it takes. -/
theorem Returned.getResults
    {state next : State}
    {thread : Nat}
    (returned : Returned state)
    (invariant : Invariant state)
    (stepped : state.getResults? thread = some next) :
    Returned next := by
  obtain ⟨call, waiting, ⟨-, rfl⟩ | ⟨completion, provider, -, rest⟩⟩ :=
    State.getResults?_cases stepped
  · exact returned
  obtain ⟨only, first⟩ := invariant.aligned.eq_singleton waiting
  rcases rest with ⟨-, rfl⟩ | ⟨succeeded, rfl⟩
  · intro other called elsewhere
    obtain ⟨consumption, member, found⟩ :=
      returned other called elsewhere
    exact ⟨consumption, List.mem_append_left _ member, found⟩
  · intro other called elsewhere
    by_cases same : other = call
    · exact ⟨_, List.mem_append_right _ (List.mem_singleton.mpr rfl),
        same.symm, succeeded⟩
    · have before : .waiting other ∉ state.readers := by
        rw [only, List.mem_singleton, ReaderThread.waiting.injEq]
        exact same
      obtain ⟨consumption, member, found⟩ :=
        returned other called before
      exact ⟨consumption, List.mem_append_left _ member, found⟩

/-- Every step of every party keeps what returned calls took. -/
theorem Returned.step
    {state next : State}
    {action : Action}
    (returned : Returned state)
    (invariant : Invariant state)
    (stepped : step? state action = some next) :
    Returned next := by
  have advanced := (step?_eq_some_iff.mp stepped).2
  cases action with
  | arrive =>
      cases advanced
      exact returned
  | getConnectionRequest status =>
      obtain ⟨-, backlog, rfl⟩ :=
        State.getConnectionRequest?_cases advanced
      exact returned
  | startSession privateData beyond answers =>
      obtain ⟨-, rfl | rfl⟩ := State.startSession?_cases advanced
      · exact returned
      · intro call called elsewhere
        exact returned call called fun waiting =>
          elsewhere (List.mem_append_left _ waiting)
  | spin =>
      simp only [State.next?, Option.ite_none_right_eq_some,
        Option.some_inj] at advanced
      rw [← advanced.2]
      exact returned
  | read thread result =>
      exact returned.read invariant advanced
  | complete call status =>
      obtain ⟨provider, -, rfl⟩ :=
        Option.map_eq_some_iff.mp advanced
      exact returned
  | getResults thread =>
      exact returned.getResults invariant advanced

/-- In every reachable state, calls returned with a completion of theirs. -/
theorem returned_of_run
    {actions : List Action}
    {final : State}
    (ran : run? step? .initial actions = some final) :
    Returned final := by
  have kept :
      ∀ {state next : State} {action : Action},
        Invariant state ∧ Returned state →
        step? state action = some next →
        Invariant next ∧ Returned next := by
    rintro state next action ⟨invariant, returned⟩ stepped
    exact ⟨invariant.step stepped, returned.step invariant stepped⟩
  exact (StepFunction.invariant_of_run kept
    ⟨invariant_initial, fun _ called => absurd called (Nat.not_lt_zero _)⟩
    ran).2

/--
Every completion `wait` took belongs to the call that took it, every call that
has returned took one, none was taken twice, and nothing is left over when the
next Read is posted.
-/
structure Accounted (state : State) : Prop where
  own :
    ∀ consumption ∈ state.consumed,
      consumption.completion.request = consumption.call
  returned : Returned state
  once :
    (state.consumed.map fun consumption =>
      consumption.completion.request).Nodup
  nothingLeft :
    ∀ thread result next,
      step? state (.read thread result) = some next →
      state.provider.queue = [] ∧ state.provider.inflight = []

/-- Completions are accounted for in every reachable state of the server. -/
theorem completions_accounted_of_run
    {actions : List Action}
    {final : State}
    (ran : run? step? .initial actions = some final) :
    Accounted final := by
  have invariant := invariant_of_run ran
  refine {
    own := invariant.own
    returned := returned_of_run ran
    once := ?_
    nothingLeft := ?_
  }
  · have takenOnce :
        (final.provider.taken.map Completion.request).Nodup :=
      (List.nodup_append.mp invariant.distinct).2.1
    rw [← invariant.recorded, List.map_map] at takenOnce
    exact takenOnce
  · intro thread result next stepped
    have posting :=
      (State.read?_eq_some_iff.mp
        (step?_eq_some_iff.mp stepped).2).1
    have idle := invariant.outstanding_of_posting posting
    obtain ⟨inflight, queue⟩ := List.append_eq_nil_iff.mp idle
    exact ⟨List.map_eq_nil_iff.mp queue, inflight⟩

/-- A peer connects and the server starts its read loop. -/
def connect : List Action :=
  [
    .arrive,
    .getConnectionRequest ndSuccess,
    .startSession (List.replicate 56 0) (fun _ => 0) .succeeding
  ]

/-- One `read_frame` call after the connection, and the end of its `wait`. -/
def readOnce : List Action :=
  connect ++
    [.read 0 ndSuccess, .complete 0 ndSuccess, .getResults 0]

/-- The server after that call. -/
def State.afterReadOnce : State where
  backlog := 0
  accept := .spinning
  readers := [.posting]
  calls := 1
  provider := {
    inflight := []
    queue := []
    taken := [{ request := 0, status := ndSuccess }]
  }
  exited := false
  entered := [{ call := 0, result := ndSuccess, outstanding := [0] }]
  consumed := [{
    call := 0
    completion := { request := 0, status := ndSuccess }
  }]

/-- One call runs to the end of its `wait`. -/
theorem run?_readOnce :
    run? step? .initial readOnce = some .afterReadOnce :=
  rfl

/-- The completion of one call is accounted for. -/
theorem completions_accounted_readOnce : Accounted .afterReadOnce :=
  completions_accounted_of_run run?_readOnce

/-!
### Entering `wait` with nothing outstanding
-/

/-- The result of `qp->Read`, for the actions that call it. -/
def Action.readResults : Action → List HResult
  | .read _ result => [result]
  | _ => []

/-- Only `read_frame` enters `wait`, once for each call of `qp->Read`. -/
theorem results_step
    {state next : State}
    {action : Action}
    (stepped : step? state action = some next) :
    next.entered.map WaitEntry.result =
      state.entered.map WaitEntry.result ++ action.readResults := by
  have advanced := (step?_eq_some_iff.mp stepped).2
  cases action with
  | arrive =>
      cases advanced
      simp [Action.readResults]
  | getConnectionRequest status =>
      obtain ⟨-, backlog, rfl⟩ :=
        State.getConnectionRequest?_cases advanced
      simp [Action.readResults]
  | startSession privateData beyond answers =>
      obtain ⟨-, rfl | rfl⟩ :=
        State.startSession?_cases advanced
      · simp [Action.readResults]
      · simp [Action.readResults]
  | spin =>
      simp only [State.next?, Option.ite_none_right_eq_some,
        Option.some_inj] at advanced
      simp [Action.readResults, advanced.2]
  | read thread result =>
      obtain ⟨-, rfl⟩ := State.read?_eq_some_iff.mp advanced
      simp [Action.readResults]
  | complete call status =>
      obtain ⟨provider, -, rfl⟩ :=
        Option.map_eq_some_iff.mp advanced
      simp [Action.readResults]
  | getResults thread =>
      obtain ⟨call, -, ⟨-, rfl⟩ | ⟨completion, provider, -, rest⟩⟩ :=
        State.getResults?_cases advanced
      · simp [Action.readResults]
      · rcases rest with ⟨-, rfl⟩ | ⟨-, rfl⟩ <;>
          simp [Action.readResults]

/-- A call enters `wait` with its own request outstanding unless refused. -/
theorem outstanding_eq_nil_iff
    {state : State}
    (invariant : Invariant state)
    {entry : WaitEntry}
    (member : entry ∈ state.entered) :
    entry.outstanding = [] ↔ Failed entry.result := by
  rw [invariant.entered entry member]
  by_cases failed : Failed entry.result
  · simp [failed]
  · simp [failed]

/--
In a run of the server, `wait` is never entered with nothing outstanding
exactly when no `qp->Read` of the run is refused.
-/
theorem outstanding_at_wait_iff
    {actions : List Action}
    {final : State}
    (ran : run? step? .initial actions = some final) :
    (∀ entry ∈ final.entered, entry.outstanding ≠ []) ↔
      ∀ thread result,
        .read thread result ∈ actions → ¬ Failed result := by
  have invariant := invariant_of_run ran
  have results :
      final.entered.map WaitEntry.result =
        actions.flatMap Action.readResults :=
    history_of_run
      (fun state => state.entered.map WaitEntry.result)
      Action.readResults results_step ran
  constructor
  · intro never thread result called failed
    have logged :
        result ∈ final.entered.map WaitEntry.result := by
      rw [results]
      exact List.mem_flatMap.mpr
        ⟨_, called, List.mem_singleton.mpr rfl⟩
    obtain ⟨entry, member, rfl⟩ := List.mem_map.mp logged
    exact never entry member
      ((outstanding_eq_nil_iff invariant member).mpr failed)
  · intro accepted entry member idle
    have failed :=
      (outstanding_eq_nil_iff invariant member).mp idle
    have called :
        entry.result ∈ actions.flatMap Action.readResults := by
      rw [← results]
      exact List.mem_map_of_mem member
    obtain ⟨action, actionMember, isResult⟩ :=
      List.mem_flatMap.mp called
    cases action with
    | read thread result =>
        rw [List.mem_singleton.mp isResult] at failed
        exact accepted thread result actionMember failed
    | _ => exact absurd isResult List.not_mem_nil

/-- In the run of one accepted Read, `wait` has a request to wait for. -/
theorem outstanding_at_wait_readOnce :
    (∀ entry ∈ State.afterReadOnce.entered,
        entry.outstanding ≠ []) ↔
      ∀ thread result,
        .read thread result ∈ readOnce → ¬ Failed result :=
  outstanding_at_wait_iff run?_readOnce

/-- The first Read is refused, as after a disconnect. -/
def readRefused : List Action :=
  connect ++ [.read 0 ndConnectionInvalid]

/-- The server after a refused Read: in `wait`, with nothing outstanding. -/
def State.afterReadRefused : State where
  backlog := 0
  accept := .spinning
  readers := [.waiting 0]
  calls := 1
  provider := .empty
  exited := false
  entered := [{
    call := 0
    result := ndConnectionInvalid
    outstanding := []
  }]
  consumed := []

/-- A refused Read enters `wait` with nothing outstanding. -/
theorem not_forall_outstanding_at_wait :
    ¬ ∀ (actions : List Action) (final : State),
        run? step? .initial actions = some final →
        ∀ entry ∈ final.entered, entry.outstanding ≠ [] := by
  intro always
  have ran :
      run? step? .initial readRefused = some .afterReadRefused :=
    rfl
  exact always readRefused .afterReadRefused ran _
    (List.mem_singleton.mpr rfl) rfl

/-- The read loop is in `wait` and nothing is outstanding. -/
structure Stuck (state : State) : Prop where
  spinning : state.accept = .spinning
  waiting : ∃ call, state.readers = [.waiting call]
  idle : state.provider.outstanding = []
  running : state.exited = false

/-- No step of any party lets a stuck `wait` return or exit. -/
theorem Stuck.step
    {state next : State}
    (stuck : Stuck state)
    {action : Action}
    (stepped : step? state action = some next) :
    Stuck next ∧ next.consumed = state.consumed := by
  have advanced := (step?_eq_some_iff.mp stepped).2
  obtain ⟨call, only⟩ := stuck.waiting
  cases action with
  | arrive =>
      cases advanced
      exact ⟨{ stuck with }, rfl⟩
  | getConnectionRequest status =>
      obtain ⟨accepting, -⟩ :=
        State.getConnectionRequest?_cases advanced
      rw [stuck.spinning] at accepting
      contradiction
  | startSession privateData beyond answers =>
      obtain ⟨establishing, -⟩ :=
        State.startSession?_cases advanced
      rw [stuck.spinning] at establishing
      contradiction
  | spin =>
      simp only [State.next?, Option.ite_none_right_eq_some,
        Option.some_inj] at advanced
      rw [← advanced.2]
      exact ⟨stuck, rfl⟩
  | read thread result =>
      obtain ⟨posting, -⟩ := State.read?_eq_some_iff.mp advanced
      rw [only] at posting
      cases thread <;> simp at posting
  | complete other status =>
      obtain ⟨provider, finished, rfl⟩ :=
        Option.map_eq_some_iff.mp advanced
      have moved := Provider.outstanding_finish finished
      rw [stuck.idle] at moved
      exact ⟨{ stuck with idle := moved.eq_nil }, rfl⟩
  | getResults thread =>
      obtain ⟨_, -, ⟨-, rfl⟩ | ⟨completion, provider, took, -⟩⟩ :=
        State.getResults?_cases advanced
      · exact ⟨stuck, rfl⟩
      · rw [Provider.take?_of_outstanding_nil stuck.idle] at took
        contradiction

/-- A stuck `wait` stays stuck and takes nothing. -/
theorem Stuck.run
    {state final : State}
    (stuck : Stuck state)
    {actions : List Action}
    (ran : run? step? state actions = some final) :
    Stuck final ∧ final.consumed = state.consumed := by
  have kept :
      ∀ {reached next : State} {action : Action},
        Stuck reached ∧ reached.consumed = state.consumed →
        step? reached action = some next →
        Stuck next ∧ next.consumed = state.consumed := by
    rintro reached next action ⟨stillStuck, same⟩ stepped
    obtain ⟨remains, unchanged⟩ := stillStuck.step stepped
    exact ⟨remains, unchanged.trans same⟩
  exact StepFunction.invariant_of_run kept ⟨stuck, rfl⟩ ran

/-- A refused Read makes `wait` stuck. -/
theorem Stuck.of_refused
    {state next : State}
    (invariant : Invariant state)
    {thread : Nat}
    {result : HResult}
    (refused : Failed result)
    (posted : step? state (.read thread result) = some next) :
    Stuck next ∧ next.consumed = state.consumed := by
  obtain ⟨running, advanced⟩ := step?_eq_some_iff.mp posted
  obtain ⟨posting, rfl⟩ := State.read?_eq_some_iff.mp advanced
  obtain ⟨only, first⟩ := invariant.aligned.eq_singleton posting
  have started : state.accept = .spinning := by
    by_contra notSpinning
    rw [invariant.unstarted notSpinning] at only
    contradiction
  have idle := invariant.outstanding_of_posting posting
  refine ⟨?_, rfl⟩
  exact {
    spinning := started
    waiting := ⟨state.calls, by rw [only, first]; rfl⟩
    idle := by simp only [refused, ↓reduceIte, idle]
    running := running
  }

/-- After a refused Read the read loop polls for ever. -/
theorem wait_never_returns
    {actions later : List Action}
    {state next final : State}
    {thread : Nat}
    {result : HResult}
    (ran : run? step? .initial actions = some state)
    (refused : Failed result)
    (posted : step? state (.read thread result) = some next)
    (continued : run? step? next later = some final) :
    Stuck final ∧ final.consumed = state.consumed := by
  obtain ⟨stuck, same⟩ :=
    Stuck.of_refused (invariant_of_run ran) refused posted
  obtain ⟨remains, unchanged⟩ := stuck.run continued
  exact ⟨remains, unchanged.trans same⟩

/-- The server before its first Read. -/
def State.afterConnect : State where
  backlog := 0
  accept := .spinning
  readers := [.posting]
  calls := 0
  provider := .empty
  exited := false
  entered := []
  consumed := []

/-- Polling after a refused Read finds nothing and goes on. -/
theorem wait_never_returns_readRefused :
    Stuck .afterReadRefused ∧ State.afterReadRefused.consumed = [] := by
  have connected :
      run? step? .initial connect = some .afterConnect :=
    rfl
  have posted :
      step? .afterConnect (.read 0 ndConnectionInvalid) =
        some .afterReadRefused :=
    rfl
  have polled :
      run? step? .afterReadRefused [.getResults 0, .getResults 0] =
        some .afterReadRefused :=
    rfl
  exact wait_never_returns connected (by decide) posted polled

end ReadLoop

end GameCapturer
