import GameCapturer.ServerRun
import GameCapturer.Foundation.CompletionQueue
import GameCapturer.Foundation.StepFunction

namespace GameCapturer

open Foundation Foundation.StepFunction Foundation.StructLoad
open Foundation.CompletionQueue

/-!
# The server's threads and their one completion queue

`Server::run` accepts a connection, starts a detached read loop and then
spins.  Every read loop posts a Read, ignores a failing result and polls the
completion queue of the whole server, taking whatever entry comes first.
Requests are named by the `read_frame` call that posts them; the code gives
all of them the context 0, so nothing in it depends on the name.
-/

namespace ReadLoop

/-- The accepting thread: in `GetConnectionRequest`, after it, or spinning. -/
inductive AcceptThread where
  | accepting
  | establishing
  | spinning
  deriving Repr, DecidableEq

/-- A detached read loop: about to post, or in `wait` for one call. -/
inductive ReaderThread where
  | posting
  | waiting (call : Nat)
  deriving Repr, DecidableEq

/-- One entry into `wait`, with the requests outstanding at that point. -/
structure WaitEntry where
  call : Nat
  result : HResult
  outstanding : List Nat
  deriving Repr, DecidableEq

/-- A completion taken by the `wait` of a call. -/
structure Consumption where
  call : Nat
  completion : Completion Nat HResult
  deriving Repr, DecidableEq

/-- The server process, its provider and what `wait` has done so far. -/
structure State where
  backlog : Nat
  accept : AcceptThread
  readers : List ReaderThread
  calls : Nat
  provider : Provider Nat HResult
  exited : Bool
  entered : List WaitEntry
  consumed : List Consumption
  deriving Repr, DecidableEq

/-- A constructed server that has not accepted a connection. -/
def State.initial : State where
  backlog := 0
  accept := .accepting
  readers := []
  calls := 0
  provider := .empty
  exited := false
  entered := []
  consumed := []

/-- One step of a peer, of a thread of the server or of the provider. -/
inductive Action where
  | arrive
  | getConnectionRequest (status : HResult)
  | startSession
      (privateData : List UInt8)
      (beyond : Bytes)
      (answers : Server.MappingAnswers)
  | spin
  | read (thread : Nat) (result : HResult)
  | complete (call : Nat) (status : HResult)
  | getResults (thread : Nat)

/-- `GetConnectionRequest` and its result, which is not checked. -/
def State.getConnectionRequest?
    (state : State)
    (status : HResult) : Option State :=
  if state.accept ≠ .accepting then
    none
  else if status ≠ ndSuccess then
    some { state with accept := .establishing }
  else if state.backlog = 0 then
    none
  else
    some {
      state with
      backlog := state.backlog - 1
      accept := .establishing
    }

/-- The rest of the iteration: a session with its read loop, or an exit. -/
def State.startSession?
    (state : State)
    (privateData : List UInt8)
    (beyond : Bytes)
    (answers : Server.MappingAnswers) : Option State :=
  if state.accept ≠ .establishing then
    none
  else
    match Server.run privateData beyond answers with
    | .error _ => some { state with exited := true }
    | .ok _ =>
        -- `while (true) {}`: the accept loop never comes round again.
        some {
          state with
          accept := .spinning
          readers := state.readers ++ [.posting]
        }

/-- `read_frame` up to `wait`: a failing result is printed and ignored. -/
def State.read?
    (state : State)
    (thread : Nat)
    (result : HResult) : Option State :=
  match state.readers[thread]? with
  | some .posting =>
      -- A refused Read is printed; control falls through to `wait`.
      let call := state.calls
      let provider :=
        if Failed result then
          state.provider
        else
          state.provider.submit call
      some {
        state with
        readers := state.readers.set thread (.waiting call)
        calls := call + 1
        provider
        entered :=
          state.entered ++ [{
            call
            result
            outstanding := provider.outstanding
          }]
      }
  | _ => none

/-- One iteration of the loop in `wait`. -/
def State.getResults?
    (state : State)
    (thread : Nat) : Option State :=
  match state.readers[thread]? with
  | some (.waiting call) =>
      match state.provider.take? with
      | none => some state
      | some (completion, provider) =>
          let consumed := state.consumed ++ [{ call, completion }]
          if completion.status ≠ ndSuccess then
            some { state with provider, consumed, exited := true }
          else
            some {
              state with
              readers := state.readers.set thread .posting
              provider
              consumed
            }
  | _ => none

/-- One step of a process that is still running. -/
def State.next? (state : State) : Action → Option State
  | .arrive =>
      some { state with backlog := state.backlog + 1 }
  | .getConnectionRequest status =>
      state.getConnectionRequest? status
  | .startSession privateData beyond answers =>
      state.startSession? privateData beyond answers
  | .spin =>
      if state.accept = .spinning then some state else none
  | .read thread result =>
      state.read? thread result
  | .complete call status =>
      (state.provider.finish? call status).map
        fun provider => { state with provider }
  | .getResults thread =>
      state.getResults? thread

/-- Any interleaving of the threads, the peers and the provider. -/
def step? : StepFunction State Action
  | state, action =>
      if state.exited then none else state.next? action

section Inversion

variable {state next : State}

/-- `GetConnectionRequest` only moves the accepting thread on. -/
theorem State.getConnectionRequest?_cases
    {status : HResult}
    (stepped : state.getConnectionRequest? status = some next) :
    state.accept = .accepting ∧
      ∃ backlog,
        next = { state with backlog, accept := .establishing } := by
  unfold getConnectionRequest? at stepped
  split at stepped
  · contradiction
  · rename_i accepting
    refine ⟨not_not.mp accepting, ?_⟩
    split at stepped
    · cases stepped
      exact ⟨_, rfl⟩
    · split at stepped
      · contradiction
      · cases stepped
        exact ⟨_, rfl⟩

/-- A session is started once per accepted request, or the process exits. -/
theorem State.startSession?_cases
    {privateData : List UInt8}
    {beyond : Bytes}
    {answers : Server.MappingAnswers}
    (stepped :
      state.startSession? privateData beyond answers = some next) :
    state.accept = .establishing ∧
      (next = { state with exited := true } ∨
        next = {
          state with
          accept := .spinning
          readers := state.readers ++ [.posting]
        }) := by
  unfold startSession? at stepped
  split at stepped
  · contradiction
  · rename_i establishing
    refine ⟨not_not.mp establishing, ?_⟩
    cases started : Server.run privateData beyond answers with
    | error message =>
        simp only [started, Option.some_inj] at stepped
        exact .inl stepped.symm
    | ok session =>
        simp only [started, Option.some_inj] at stepped
        exact .inr stepped.symm

/-- A read loop posts its Read, or not, and enters `wait` either way. -/
theorem State.read?_eq_some_iff
    {thread : Nat}
    {result : HResult} :
    state.read? thread result = some next ↔
      state.readers[thread]? = some .posting ∧
        next = {
          state with
          readers :=
            state.readers.set thread (.waiting state.calls)
          calls := state.calls + 1
          provider :=
            if Failed result then
              state.provider
            else
              state.provider.submit state.calls
          entered :=
            state.entered ++ [{
              call := state.calls
              result
              outstanding :=
                (if Failed result then
                  state.provider
                else
                  state.provider.submit state.calls).outstanding
            }]
        } := by
  unfold read?
  split
  · rename_i posting
    simp [posting, eq_comm]
  · rename_i notPosting
    simp only [reduceCtorEq, false_iff, not_and]
    intro posting
    exact absurd posting notPosting

/-- One poll finds nothing, or takes a completion and returns or exits. -/
theorem State.getResults?_cases
    {thread : Nat}
    (stepped : state.getResults? thread = some next) :
    ∃ call,
      state.readers[thread]? = some (.waiting call) ∧
        ((state.provider.take? = none ∧ next = state) ∨
          ∃ completion provider,
            state.provider.take? = some (completion, provider) ∧
              ((completion.status ≠ ndSuccess ∧
                  next = {
                    state with
                    provider
                    consumed :=
                      state.consumed ++ [{ call, completion }]
                    exited := true
                  }) ∨
                (completion.status = ndSuccess ∧
                  next = {
                    state with
                    readers := state.readers.set thread .posting
                    provider
                    consumed :=
                      state.consumed ++ [{ call, completion }]
                  }))) := by
  unfold getResults? at stepped
  split at stepped
  · rename_i call waiting
    refine ⟨call, waiting, ?_⟩
    split at stepped
    · rename_i empty
      cases stepped
      exact .inl ⟨empty, rfl⟩
    · rename_i completion provider took
      refine .inr ⟨completion, provider, took, ?_⟩
      split at stepped
      · rename_i failed
        cases stepped
        exact .inl ⟨failed, rfl⟩
      · rename_i succeeded
        cases stepped
        exact .inr ⟨not_not.mp succeeded, rfl⟩
  · contradiction

/-- A process that has exited takes no step. -/
theorem step?_eq_some_iff {action : Action} :
    step? state action = some next ↔
      state.exited = false ∧ state.next? action = some next := by
  cases exited : state.exited with
  | true =>
      simp [step?, exited]
  | false =>
      simp [step?, exited]

end Inversion

/-!
### At most one read loop, at most one outstanding request
-/

/--
There is at most one read loop.  Nothing is outstanding while it is about to
post; while it waits, at most the request of its own call is.
-/
def Aligned : List ReaderThread → List Nat → Prop
  | [], outstanding => outstanding = []
  | [.posting], outstanding => outstanding = []
  | [.waiting call], outstanding =>
      outstanding = [] ∨ outstanding = [call]
  | _, _ => False

/-- A thread that reads is the only one. -/
theorem Aligned.eq_singleton
    {readers : List ReaderThread}
    {outstanding : List Nat}
    (aligned : Aligned readers outstanding)
    {thread : Nat}
    {reader : ReaderThread}
    (running : readers[thread]? = some reader) :
    readers = [reader] ∧ thread = 0 := by
  match readers, aligned with
  | [], _ =>
      simp at running
  | [only], _ =>
      cases thread with
      | zero =>
          simpa using running
      | succ later =>
          simp at running
  | .posting :: _ :: _, impossible => exact impossible.elim
  | .waiting _ :: _ :: _, impossible => exact impossible.elim

/-- Alignment does not depend on where requests are outstanding. -/
theorem Aligned.of_perm
    {readers : List ReaderThread}
    {outstanding moved : List Nat}
    (aligned : Aligned readers outstanding)
    (perm : moved.Perm outstanding) :
    Aligned readers moved := by
  match readers, aligned with
  | [], idle =>
      subst idle
      exact perm.eq_nil
  | [.posting], idle =>
      subst idle
      exact perm.eq_nil
  | [.waiting call], .inl idle =>
      subst idle
      exact .inl perm.eq_nil
  | [.waiting call], .inr single =>
      subst single
      exact .inr (List.perm_singleton.mp perm)
  | .posting :: _ :: _, impossible => exact impossible.elim
  | .waiting _ :: _ :: _, impossible => exact impossible.elim

/-- The bookkeeping that no line of the code states. -/
structure Invariant (state : State) : Prop where
  unstarted : state.accept ≠ .spinning → state.readers = []
  aligned : Aligned state.readers state.provider.outstanding
  fresh :
    ∀ request ∈ state.provider.accepted, request < state.calls
  distinct : state.provider.accepted.Nodup
  recorded :
    state.consumed.map Consumption.completion =
      state.provider.taken
  own :
    ∀ consumption ∈ state.consumed,
      consumption.completion.request = consumption.call
  entered :
    ∀ entry ∈ state.entered,
      entry.outstanding =
        if Failed entry.result then [] else [entry.call]

/-- A constructed server satisfies the invariant. -/
theorem invariant_initial : Invariant .initial where
  unstarted := fun _ => rfl
  aligned := rfl
  fresh := by decide
  distinct := by decide
  recorded := rfl
  own := by decide
  entered := by decide

namespace Invariant

variable {state next : State} (invariant : Invariant state)

include invariant

/-- Starting a session starts the first and only read loop. -/
theorem startSession
    (establishing : state.accept = .establishing) :
    Invariant {
      state with
      accept := .spinning
      readers := state.readers ++ [.posting]
    } := by
  have none : state.readers = [] :=
    invariant.unstarted (by simp [establishing])
  have idle : state.provider.outstanding = [] := by
    have aligned := invariant.aligned
    rw [none] at aligned
    exact aligned
  exact {
    invariant with
    unstarted := fun notSpinning => absurd rfl notSpinning
    aligned := by
      rw [none]
      exact idle
  }

/-- A read loop that posts finds nothing outstanding. -/
theorem outstanding_of_posting
    {thread : Nat}
    (posting : state.readers[thread]? = some .posting) :
    state.provider.outstanding = [] := by
  have aligned := invariant.aligned
  rw [(aligned.eq_singleton posting).1] at aligned
  exact aligned

/-- Posting a Read leaves at most its own request outstanding. -/
theorem read
    {thread : Nat}
    {result : HResult}
    (stepped : state.read? thread result = some next) :
    Invariant next := by
  obtain ⟨posting, rfl⟩ := State.read?_eq_some_iff.mp stepped
  obtain ⟨only, first⟩ := invariant.aligned.eq_singleton posting
  have idle := invariant.outstanding_of_posting posting
  have started : state.accept = .spinning := by
    by_contra notSpinning
    rw [invariant.unstarted notSpinning] at only
    contradiction
  by_cases failed : Failed result
  · simp only [failed, ↓reduceIte]
    refine {
      unstarted := fun notSpinning => absurd started notSpinning
      aligned := ?_
      fresh := fun request member =>
        Nat.lt_succ_of_lt (invariant.fresh request member)
      distinct := invariant.distinct
      recorded := invariant.recorded
      own := invariant.own
      entered := ?_
    }
    · rw [only, first]
      exact .inl idle
    · intro entry member
      rcases List.mem_append.mp member with earlier | last
      · exact invariant.entered entry earlier
      · rw [List.mem_singleton.mp last]
        simp only [failed, ↓reduceIte, idle]
  · have accepted :
        (state.provider.submit state.calls).accepted.Perm
          (state.calls :: state.provider.accepted) :=
      Provider.accepted_submit state.calls
    have single :
        (state.provider.submit state.calls).outstanding =
          [state.calls] := by
      obtain ⟨inflight, queue⟩ := List.append_eq_nil_iff.mp idle
      simp only [Provider.outstanding, Provider.submit, inflight,
        queue, List.nil_append, List.append_nil]
    simp only [failed, ↓reduceIte]
    refine {
      unstarted := fun notSpinning => absurd started notSpinning
      aligned := ?_
      fresh := ?_
      distinct := ?_
      recorded := invariant.recorded
      own := invariant.own
      entered := ?_
    }
    · rw [only, first]
      exact .inr single
    · intro request member
      rcases List.mem_cons.mp (accepted.mem_iff.mp member) with
        rfl | earlier
      · exact Nat.lt_succ_self _
      · exact Nat.lt_succ_of_lt (invariant.fresh request earlier)
    · rw [accepted.nodup_iff, List.nodup_cons]
      refine ⟨?_, invariant.distinct⟩
      intro member
      exact Nat.lt_irrefl _ (invariant.fresh _ member)
    · intro entry member
      rcases List.mem_append.mp member with earlier | last
      · exact invariant.entered entry earlier
      · rw [List.mem_singleton.mp last]
        simp only [failed, ↓reduceIte, single]

/-- Finishing a Read moves it to the queue, nothing else. -/
theorem complete
    {call : Nat}
    {status : HResult}
    {provider : Provider Nat HResult}
    (finished :
      state.provider.finish? call status = some provider) :
    Invariant { state with provider } := by
  have outstanding := Provider.outstanding_finish finished
  have accepted := Provider.accepted_finish finished
  refine {
    invariant with
    aligned := ?_
    fresh := ?_
    distinct := ?_
    recorded := ?_
  }
  · exact invariant.aligned.of_perm outstanding
  · intro request member
    exact invariant.fresh request (accepted.mem_iff.mp member)
  · exact accepted.nodup_iff.mpr invariant.distinct
  · rw [Provider.taken_finish finished]
    exact invariant.recorded

/-- What `wait` takes is the completion of its own call, the only one. -/
theorem own_completion
    {thread call : Nat}
    {completion : Completion Nat HResult}
    {provider : Provider Nat HResult}
    (waiting : state.readers[thread]? = some (.waiting call))
    (took :
      state.provider.take? = some (completion, provider)) :
    completion.request = call ∧ provider.outstanding = [] := by
  have aligned := invariant.aligned
  rw [(aligned.eq_singleton waiting).1] at aligned
  -- A refused call has nothing to take, an accepted one only its own.
  rcases aligned with idle | single
  · rw [Provider.take?_of_outstanding_nil idle] at took
    contradiction
  · exact Provider.take_of_outstanding_singleton single took

/-- One poll takes nothing, or the completion of its own call. -/
theorem getResults
    {thread : Nat}
    (stepped : state.getResults? thread = some next) :
    Invariant next := by
  obtain ⟨call, waiting, ⟨-, rfl⟩ | ⟨completion, provider, took, rest⟩⟩ :=
    State.getResults?_cases stepped
  · exact invariant
  obtain ⟨only, first⟩ := invariant.aligned.eq_singleton waiting
  obtain ⟨own, idle⟩ := invariant.own_completion waiting took
  have accepted := Provider.accepted_take took
  have fresh :
      ∀ request ∈ provider.accepted, request < state.calls :=
    fun request member =>
      invariant.fresh request (accepted.mem_iff.mp member)
  have distinct : provider.accepted.Nodup :=
    accepted.nodup_iff.mpr invariant.distinct
  have recorded :
      (state.consumed ++ [Consumption.mk call completion]).map
          Consumption.completion =
        provider.taken := by
    rw [List.map_append, invariant.recorded,
      Provider.taken_take took]
    rfl
  have owned :
      ∀ consumption ∈
          state.consumed ++ [Consumption.mk call completion],
        consumption.completion.request = consumption.call := by
    intro consumption member
    rcases List.mem_append.mp member with earlier | last
    · exact invariant.own consumption earlier
    · rw [List.mem_singleton.mp last]
      exact own
  rcases rest with ⟨-, rfl⟩ | ⟨-, rfl⟩
  · refine {
      unstarted := invariant.unstarted
      aligned := ?_
      fresh := fresh
      distinct := distinct
      recorded := recorded
      own := owned
      entered := invariant.entered
    }
    rw [only]
    exact .inl idle
  · refine {
      unstarted := ?_
      aligned := ?_
      fresh := fresh
      distinct := distinct
      recorded := recorded
      own := owned
      entered := invariant.entered
    }
    · intro notSpinning
      rw [invariant.unstarted notSpinning] at only
      contradiction
    · rw [only, first]
      exact idle

/-- Every step of every party keeps the invariant. -/
theorem step
    {action : Action}
    (stepped : step? state action = some next) :
    Invariant next := by
  have advanced := (step?_eq_some_iff.mp stepped).2
  cases action with
  | arrive =>
      cases advanced
      exact { invariant with }
  | getConnectionRequest status =>
      obtain ⟨accepting, backlog, rfl⟩ :=
        State.getConnectionRequest?_cases advanced
      have none : state.readers = [] :=
        invariant.unstarted (by simp [accepting])
      exact { invariant with unstarted := fun _ => none }
  | startSession privateData beyond answers =>
      obtain ⟨establishing, rfl | rfl⟩ :=
        State.startSession?_cases advanced
      · exact { invariant with }
      · exact invariant.startSession establishing
  | spin =>
      simp only [State.next?, Option.ite_none_right_eq_some,
        Option.some_inj] at advanced
      rw [← advanced.2]
      exact invariant
  | read thread result =>
      exact invariant.read advanced
  | complete call status =>
      obtain ⟨provider, finished, rfl⟩ :=
        Option.map_eq_some_iff.mp advanced
      exact invariant.complete finished
  | getResults thread =>
      exact invariant.getResults advanced

end Invariant

/-- The invariant holds in every reachable state. -/
theorem invariant_of_run
    {actions : List Action}
    {final : State}
    (ran : run? step? .initial actions = some final) :
    Invariant final :=
  StepFunction.invariant_of_run
    (fun invariant stepped => invariant.step stepped)
    invariant_initial ran

end ReadLoop

end GameCapturer
