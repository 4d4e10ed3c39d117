import GameCapturer.CompletionAccounting

namespace GameCapturer

open Foundation Foundation.StepFunction
open Foundation.CompletionQueue

/-!
# How long the server goes on

The read loop posts Reads for as long as each of them completes with success.
The accepting thread, in contrast, serves one peer and then no other.
-/

namespace ReadLoop

variable {state next final : State} {action : Action}

/-!
### One Read after the other
-/

/-- The Read of a waiting call is in flight or has completed with success. -/
def Hopeful (state : State) : Prop :=
  ∀ call,
    .waiting call ∈ state.readers →
    call ∈ state.provider.inflight ∨
      { request := call, status := ndSuccess } ∈ state.provider.queue

/-- The read loop waits for a completion that cannot come. -/
structure Doomed (call : Nat) (state : State) : Prop where
  waiting : state.readers = [.waiting call]
  spinning : state.accept = .spinning
  landed : state.provider.inflight = []
  failed :
    ∀ completion ∈ state.provider.queue, completion.status ≠ ndSuccess

/-- A doomed read loop posts no further Read: it polls or the process exits. -/
theorem Doomed.step
    {call : Nat}
    (doomed : Doomed call state)
    (stepped : step? state action = some next) :
    Doomed call next ∧ next.calls = state.calls := by
  have advanced := (step?_eq_some_iff.mp stepped).2
  cases action with
  | arrive =>
      cases advanced
      exact ⟨{ doomed with }, rfl⟩
  | getConnectionRequest status =>
      obtain ⟨accepting, -⟩ :=
        State.getConnectionRequest?_cases advanced
      rw [doomed.spinning] at accepting
      contradiction
  | startSession privateData beyond answers =>
      obtain ⟨establishing, -⟩ :=
        State.startSession?_cases advanced
      rw [doomed.spinning] at establishing
      contradiction
  | spin =>
      simp only [State.next?, Option.ite_none_right_eq_some,
        Option.some_inj] at advanced
      rw [← advanced.2]
      exact ⟨doomed, rfl⟩
  | read thread result =>
      obtain ⟨posting, -⟩ := State.read?_eq_some_iff.mp advanced
      rw [doomed.waiting] at posting
      cases thread <;> simp at posting
  | complete other status =>
      obtain ⟨provider, finished, rfl⟩ :=
        Option.map_eq_some_iff.mp advanced
      simp [Provider.finish?, doomed.landed] at finished
  | getResults thread =>
      obtain ⟨_, -, ⟨-, rfl⟩ | ⟨completion, provider, took, rest⟩⟩ :=
        State.getResults?_cases advanced
      · exact ⟨doomed, rfl⟩
      · obtain ⟨later, queued, rfl⟩ := Provider.take?_eq_some_iff.mp took
        have failed := doomed.failed
        rw [queued, List.forall_mem_cons] at failed
        rcases rest with ⟨-, rfl⟩ | ⟨succeeded, -⟩
        · exact ⟨{ doomed with failed := failed.2 }, rfl⟩
        · exact absurd succeeded failed.1

/-- A waiting call has no other request outstanding than its own. -/
theorem Invariant.outstanding_of_waiting
    {call : Nat}
    (invariant : Invariant state)
    (only : state.readers = [.waiting call]) :
    state.provider.outstanding = [] ∨
      state.provider.outstanding = [call] := by
  have aligned := invariant.aligned
  rwa [only] at aligned

/-- A read loop runs only once its server spins. -/
theorem Invariant.spinning
    {reader : ReaderThread}
    (invariant : Invariant state)
    (only : state.readers = [reader]) :
    state.accept = .spinning := by
  by_contra notSpinning
  rw [invariant.unstarted notSpinning] at only
  contradiction

/-- A waiting call without hope is doomed. -/
theorem doomed_of_not_hopeful
    {call : Nat}
    (invariant : Invariant state)
    (only : state.readers = [.waiting call])
    (hopeless : ¬ Hopeful state) :
    Doomed call state := by
  have own :
      ∀ request ∈ state.provider.outstanding, request = call := by
    intro request present
    rcases invariant.outstanding_of_waiting only with idle | single
    · rw [idle] at present
      contradiction
    · rw [single] at present
      exact List.mem_singleton.mp present
  unfold Hopeful at hopeless
  simp only [only, List.mem_singleton, ReaderThread.waiting.injEq,
    forall_eq, not_or] at hopeless
  refine ⟨only, invariant.spinning only, ?_, ?_⟩
  · refine List.eq_nil_iff_forall_not_mem.mpr fun request present => ?_
    have same := own request (List.mem_append_left _ present)
    exact hopeless.1 (same ▸ present)
  · intro completion present succeeded
    have same :=
      own completion.request
        (List.mem_append_right _ (List.mem_map_of_mem present))
    have settled :
        completion = { request := call, status := ndSuccess } := by
      rw [← same, ← succeeded]
    exact hopeless.2 (settled ▸ present)

/-- A poll that finds a success ends the wait. -/
theorem step?_getResults
    {call : Nat}
    {completion : Completion Nat HResult}
    {rest : List (Completion Nat HResult)}
    (running : state.exited = false)
    (only : state.readers = [.waiting call])
    (queued : state.provider.queue = completion :: rest)
    (succeeded : completion.status = ndSuccess) :
    ∃ later,
      step? state (.getResults 0) = some later ∧
        later.readers = [.posting] ∧
        later.calls = state.calls ∧
        later.exited = false := by
  refine ⟨{
    state with
    readers := [.posting]
    provider := {
      state.provider with
      queue := rest
      taken := state.provider.taken ++ [completion]
    }
    consumed := state.consumed ++ [{ call, completion }]
  }, step?_eq_some_iff.mpr ⟨running, ?_⟩, rfl, rfl, running⟩
  simp [State.next?, State.getResults?, only, Provider.take?, queued,
    succeeded]

/-- With hope a wait can return. -/
theorem wait_returns
    {call : Nat}
    (invariant : Invariant state)
    (running : state.exited = false)
    (only : state.readers = [.waiting call])
    (hopeful : Hopeful state) :
    ∃ actions later,
      run? step? state actions = some later ∧
        later.readers = [.posting] ∧
        later.calls = state.calls ∧
        later.exited = false := by
  have single
      (request : Nat)
      (present : request ∈ state.provider.outstanding) :
      state.provider.outstanding = [call] := by
    rcases invariant.outstanding_of_waiting only with idle | single
    · rw [idle] at present
      contradiction
    · exact single
  rcases hopeful call (by rw [only]; exact List.mem_singleton_self _) with
    flying | landed
  · have one := single call (List.mem_append_left _ flying)
    rcases List.append_eq_singleton_iff.mp one with
      ⟨none, -⟩ | ⟨inflight, landed⟩
    · rw [none] at flying
      contradiction
    · have queued := List.map_eq_nil_iff.mp landed
      have completed :
          step? state (.complete call ndSuccess) =
            some {
              state with
              provider := {
                state.provider with
                inflight := []
                queue := [{ request := call, status := ndSuccess }]
              }
            } := by
        refine step?_eq_some_iff.mpr ⟨running, ?_⟩
        simp [State.next?, Provider.finish?, inflight, queued]
      obtain ⟨later, polled, facts⟩ :=
        @step?_getResults {
          state with
          provider := {
            state.provider with
            inflight := []
            queue := [{ request := call, status := ndSuccess }]
          }
        } call _ _ running only rfl rfl
      exact ⟨[.complete call ndSuccess, .getResults 0], later,
        run?_cons_eq_some_iff.mpr ⟨_, completed,
          run?_cons_eq_some_iff.mpr ⟨later, polled, rfl⟩⟩, facts⟩
  · have one :=
      single call
        (List.mem_append_right _ (List.mem_map.mpr ⟨_, landed, rfl⟩))
    rcases List.append_eq_singleton_iff.mp one with
      ⟨-, queued⟩ | ⟨-, none⟩
    · obtain ⟨completion, queued, -⟩ := List.map_eq_singleton_iff.mp queued
      rw [queued] at landed
      have first := List.mem_singleton.mp landed
      obtain ⟨later, polled, facts⟩ :=
        step?_getResults running only queued (by rw [← first])
      exact ⟨[.getResults 0], later,
        run?_cons_eq_some_iff.mpr ⟨later, polled, rfl⟩, facts⟩
    · rw [List.map_eq_nil_iff.mp none] at landed
      contradiction

/-- A read loop that can post goes on to wait with hope. -/
theorem step?_read
    (running : state.exited = false)
    (only : state.readers = [.posting]) :
    ∃ later,
      step? state (.read 0 ndSuccess) = some later ∧
        later.readers = [.waiting state.calls] ∧
        later.calls = state.calls + 1 ∧
        later.exited = false ∧
        Hopeful later := by
  have accepted : ¬ Failed ndSuccess := by decide
  refine ⟨_, step?_eq_some_iff.mpr ⟨running,
    State.read?_eq_some_iff.mpr ⟨by rw [only]; rfl, rfl⟩⟩, ?_, rfl,
      running, ?_⟩
  · simp [only]
  · intro call waiting
    simp only [only, List.set_cons_zero, List.mem_singleton,
      ReaderThread.waiting.injEq] at waiting
    subst waiting
    simp [accepted, Provider.submit]

/-- With hope another Read can be posted, and its wait has hope again. -/
theorem Hopeful.post
    {reader : ReaderThread}
    (hopeful : Hopeful state)
    (invariant : Invariant state)
    (only : state.readers = [reader])
    (running : state.exited = false) :
    ∃ actions later,
      run? step? state actions = some later ∧
        (∃ call, later.readers = [.waiting call]) ∧
        later.calls = state.calls + 1 ∧
        later.exited = false ∧
        Hopeful later := by
  cases reader with
  | posting =>
      obtain ⟨later, posted, waiting, calls, stillRunning, again⟩ :=
        step?_read running only
      exact ⟨[.read 0 ndSuccess], later,
        run?_cons_eq_some_iff.mpr ⟨later, posted, rfl⟩,
        ⟨_, waiting⟩, calls, stillRunning, again⟩
  | waiting call =>
      obtain ⟨actions, middle, ran, posting, calls, stillRunning⟩ :=
        wait_returns invariant running only hopeful
      obtain ⟨later, posted, waiting, more, goesOn, again⟩ :=
        step?_read stillRunning posting
      exact ⟨actions ++ [.read 0 ndSuccess], later, run?_snoc ran posted,
        ⟨_, waiting⟩, more.trans (by rw [calls]), goesOn, again⟩

/-- With hope any number of Reads can be posted. -/
theorem Hopeful.posts
    {reader : ReaderThread}
    (hopeful : Hopeful state)
    (invariant : Invariant state)
    (only : state.readers = [reader])
    (running : state.exited = false)
    (count : Nat) :
    ∃ actions final,
      run? step? state actions = some final ∧
        final.calls = state.calls + count := by
  induction count generalizing state reader with
  | zero =>
      exact ⟨[], state, rfl, rfl⟩
  | succ count inductionHypothesis =>
      obtain ⟨actions, middle, ran, ⟨call, waiting⟩, calls, goesOn, again⟩ :=
        hopeful.post invariant only running
      have kept :=
        StepFunction.invariant_of_run
          (fun invariant stepped => Invariant.step invariant stepped)
          invariant ran
      obtain ⟨later, final, continued, more⟩ :=
        inductionHypothesis again kept waiting goesOn
      refine ⟨actions ++ later, final,
        run?_append_eq_some_iff.mpr ⟨middle, ran, continued⟩, ?_⟩
      rw [more, calls, Nat.add_assoc, Nat.add_comm 1]

/--
In any reachable state of a running read loop, any number of further Reads can
be posted exactly when the Read it waits for, if it does wait, is in flight or
has completed with success.
-/
theorem reads_on_iff
    {actions : List Action}
    {reader : ReaderThread}
    (ran : run? step? .initial actions = some state)
    (only : state.readers = [reader])
    (running : state.exited = false) :
    (∀ count,
        ∃ later final,
          run? step? state later = some final ∧
            final.calls = state.calls + count) ↔
      Hopeful state := by
  constructor
  · intro further
    by_contra hopeless
    cases reader with
    | posting =>
        exact hopeless fun call waiting => by simp [only] at waiting
    | waiting call =>
        have doomed :=
          doomed_of_not_hopeful (invariant_of_run ran) only hopeless
        obtain ⟨later, final, continued, more⟩ := further 1
        have kept
            {reached next : State}
            {action : Action}
            (both : Doomed call reached ∧ reached.calls = state.calls)
            (stepped : step? reached action = some next) :
            Doomed call next ∧ next.calls = state.calls := by
          obtain ⟨remains, same⟩ := both.1.step stepped
          exact ⟨remains, same.trans both.2⟩
        obtain ⟨-, same⟩ :=
          StepFunction.invariant_of_run kept ⟨doomed, rfl⟩ continued
        rw [same] at more
        exact absurd more (Nat.ne_of_lt (Nat.lt_succ_self _))
  · intro hopeful
    exact hopeful.posts (invariant_of_run ran) only running

/-- After a refused Read no other is ever posted. -/
theorem reads_on_sample :
    ¬ ∀ count,
      ∃ later final,
        run? step? State.afterReadRefused later = some final ∧
          final.calls = 1 + count := by
  have ran :
      run? step? .initial readRefused = some .afterReadRefused :=
    rfl
  intro further
  have hopeful := (reads_on_iff ran rfl rfl).mp further
  rcases hopeful 0 (List.mem_singleton_self _) with flying | landed
  · contradiction
  · contradiction

/-!
### One session
-/

/-- A peer connects. -/
def Action.Arrives : Action → Prop
  | .arrive => True
  | _ => False

instance : DecidablePred Action.Arrives := fun action => by
  cases action <;> unfold Action.Arrives <;> infer_instance

/-- The peers that have connected, as far as the server has served them. -/
def State.peers (state : State) : Nat :=
  state.backlog + if state.accept = .accepting then 0 else 1

/-- At most one peer leaves the backlog, and only while accepting. -/
theorem peers_step
    (stepped : step? state action = some next) :
    state.peers + (if action.Arrives then 1 else 0) ≤ next.peers := by
  have advanced := (step?_eq_some_iff.mp stepped).2
  cases action with
  | arrive =>
      cases advanced
      simp only [State.peers, Action.Arrives, ↓reduceIte]
      omega
  | getConnectionRequest status =>
      simp only [Action.Arrives, ↓reduceIte, Nat.add_zero]
      simp only [State.next?, State.getConnectionRequest?] at advanced
      split at advanced
      · contradiction
      · rename_i accepting
        rw [not_not] at accepting
        split at advanced
        · cases advanced
          simp [State.peers, accepting]
        · split at advanced
          · contradiction
          · rename_i waiting
            cases advanced
            simp only [State.peers, accepting, reduceCtorEq, ↓reduceIte,
              Nat.add_zero]
            exact Nat.le_of_eq
              (Nat.sub_add_cancel (Nat.pos_of_ne_zero waiting)).symm
  | startSession privateData beyond answers =>
      obtain ⟨establishing, rfl | rfl⟩ :=
        State.startSession?_cases advanced
      · exact Nat.le_refl _
      · simp [State.peers, establishing, Action.Arrives]
  | spin =>
      simp only [State.next?, Option.ite_none_right_eq_some,
        Option.some_inj] at advanced
      rw [← advanced.2]
      exact Nat.le_refl _
  | read thread result =>
      obtain ⟨-, rfl⟩ := State.read?_eq_some_iff.mp advanced
      exact Nat.le_refl _
  | complete call status =>
      obtain ⟨provider, -, rfl⟩ := Option.map_eq_some_iff.mp advanced
      exact Nat.le_refl _
  | getResults thread =>
      obtain ⟨call, -, ⟨-, rfl⟩ | ⟨completion, provider, -, rest⟩⟩ :=
        State.getResults?_cases advanced
      · exact Nat.le_refl _
      · rcases rest with ⟨-, rfl⟩ | ⟨-, rfl⟩
        · exact Nat.le_refl _
        · exact Nat.le_refl _

/-- Over a run the peers grow by those that connect. -/
theorem peers_run
    {actions : List Action}
    (ran : run? step? state actions = some final) :
    state.peers + actions.countP (fun action => action.Arrives) ≤
      final.peers := by
  induction actions generalizing state with
  | nil =>
      cases ran
      exact Nat.le_refl _
  | cons action rest inductionHypothesis =>
      obtain ⟨middle, stepped, later⟩ := run?_cons_eq_some_iff.mp ran
      have first := peers_step stepped
      have others := inductionHypothesis later
      rw [List.countP_cons]
      simp only [decide_eq_true_eq]
      omega

/--
However many peers connect, in every run at most one of them is ever served: the
others stay in the backlog, and there is at most one read loop.
-/
theorem one_session_of_run
    {actions : List Action}
    (ran : run? step? .initial actions = some final) :
    actions.countP (fun action => action.Arrives) ≤ final.backlog + 1 ∧
      final.readers.length ≤ 1 := by
  constructor
  · have grown := peers_run ran
    have served : final.peers ≤ final.backlog + 1 := by
      unfold State.peers
      split <;> omega
    exact Nat.le_trans (Nat.le_of_add_left_le grown) served
  · have aligned := (invariant_of_run ran).aligned
    match readers : final.readers with
    | [] => exact Nat.zero_le 1
    | [_] => exact Nat.le_refl 1
    | .posting :: _ :: _ =>
        rw [readers] at aligned
        exact aligned.elim
    | .waiting _ :: _ :: _ =>
        rw [readers] at aligned
        exact aligned.elim

/-- Of three peers that connect, at least two stay in the backlog. -/
theorem one_session_sample :
    ∃ final : State,
      run? step? .initial (connect ++ [.arrive, .arrive]) = some final ∧
        2 ≤ final.backlog := by
  obtain ⟨final, ran⟩ : ∃ final,
      run? step? .initial (connect ++ [.arrive, .arrive]) = some final :=
    ⟨_, rfl⟩
  have served := (one_session_of_run ran).1
  have arrived :
      (connect ++ [Action.arrive, .arrive]).countP
          (fun action => action.Arrives) = 3 :=
    rfl
  rw [arrived] at served
  exact ⟨final, ran, Nat.le_of_succ_le_succ served⟩

end ReadLoop

end GameCapturer
