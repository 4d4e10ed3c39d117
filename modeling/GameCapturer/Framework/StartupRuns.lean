import GameCapturer.Framework.Startup

namespace GameCapturer.Framework

open Foundation Foundation.StepFunction Foundation.SpinLock

/-!
# Interleavings of startups, cleanups and calls

The lock keeps the globals in step for any clients.  That a call finds a usable
framework needs more: its client must hold a reference of its own.
-/

namespace Runtime

variable {state next : Runtime} {action : Action}

/-- What holds in every state, whatever clients call. -/
structure Invariant (state : Runtime) : Prop where
  guarded : Guarded Place.Owns state.gInitializing state.places
  expected :
    ∀ client,
      (state.places client).Owns →
      Expected (state.places client) state.shared
  settled :
    (∀ client, ¬ (state.places client).Owns) → Settled state.shared

/-- The reference count does not overflow in the next step. -/
def Room (state : Runtime) (_ : Action) : Prop :=
  state.shared.holders.length + 1 < 2 ^ 32

instance (state : Runtime) (action : Action) :
    Decidable (Room state action) :=
  inferInstanceAs (Decidable (_ < _))

/-- The invariant holds before the first call. -/
theorem invariant_initial : initial.Invariant where
  guarded := .free rfl fun _ => id
  expected := fun _ own => absurd own id
  settled := fun _ => .inl ⟨rfl, rfl, rfl, rfl, rfl, rfl⟩

/-- A client that does not touch the lock leaves the invariant alone. -/
theorem Invariant.put
    {client : Client}
    {place : Place}
    (invariant : state.Invariant)
    (before : ¬ (state.places client).Owns)
    (after : ¬ place.Owns) :
    (state.put client place).Invariant where
  guarded := invariant.guarded.move (iff_of_false after before)
  expected := by
    intro other own
    by_cases here : other = client
    · subst here
      simp only [Runtime.put, Function.update_self] at own
      exact absurd own after
    · simp only [Runtime.put, Function.update_of_ne here] at own ⊢
      exact invariant.expected other own
  settled := by
    intro none
    refine invariant.settled fun other own => ?_
    by_cases here : other = client
    · exact before (here ▸ own)
    · have still := none other
      simp only [Runtime.put, Function.update_of_ne here] at still
      exact still own

/-- The owner of the lock moves on with what it has changed. -/
theorem Invariant.own
    {client : Client}
    {place : Place}
    {shared : Shared}
    (invariant : state.Invariant)
    (before : (state.places client).Owns)
    (after : place.Owns)
    (expected : Expected place shared) :
    ({ state with shared }.put client place).Invariant where
  guarded := invariant.guarded.move (iff_of_true after before)
  expected := by
    intro other own
    by_cases here : other = client
    · subst here
      simp only [Runtime.put, Function.update_self]
      exact expected
    · simp only [Runtime.put, Function.update_of_ne here] at own
      exact absurd (invariant.guarded.unique before own) here
  settled := by
    intro none
    have still := none client
    simp only [Runtime.put, Function.update_self] at still
    exact absurd after still

/-- Taking the lock, a client finds a settled state. -/
theorem Invariant.acquire
    {client : Client}
    {entry : Entry}
    (invariant : state.Invariant)
    (notOne : state.gInitializing ≠ 1) :
    ({
      state with
      gInitializing := compareExchange state.gInitializing 1 0
    }.put client (.test entry)).Invariant := by
  obtain ⟨-, none⟩ := invariant.guarded.none_of_ne_one notOne
  have owns : (Place.test entry).Owns := trivial
  refine ⟨invariant.guarded.acquire notOne owns, ?_, ?_⟩
  · intro other own
    by_cases here : other = client
    · subst here
      simp only [Runtime.put, Function.update_self]
      exact invariant.settled none
    · simp only [Runtime.put, Function.update_of_ne here] at own
      exact absurd own (none other)
  · intro nobody
    have still := nobody client
    simp only [Runtime.put, Function.update_self] at still
    exact absurd owns still

/-- Giving the lock back, a client leaves a settled state. -/
theorem Invariant.release
    {client : Client}
    {status : HResult}
    (invariant : state.Invariant)
    (here : state.places client = .unlock status) :
    ({
      state with gInitializing := state.gInitializing - 1
    }.put client .idle).Invariant := by
  have owns : (state.places client).Owns := by
    rw [here]
    trivial
  have settled := invariant.expected client owns
  rw [here] at settled
  refine ⟨invariant.guarded.release owns id, ?_, fun _ => settled⟩
  intro other own
  by_cases same : other = client
  · subst same
    simp only [Runtime.put, Function.update_self] at own
    exact absurd own id
  · simp only [Runtime.put, Function.update_of_ne same] at own
    exact absurd (invariant.guarded.unique owns own) same

/-- What one access of a client does, by where the client is. -/
inductive Accessed (state : Runtime) (client : Client) : Runtime → Prop
  | waits
      (entry : Entry)
      (here : state.places client = .spin entry) :
      Accessed state client state
  | takes
      (entry : Entry)
      (here : state.places client = .spin entry)
      (notOne : state.gInitializing ≠ 1) :
      Accessed state client
        ({
          state with
          gInitializing := compareExchange state.gInitializing 1 0
        }.put client (.test entry))
  | gives
      (status : HResult)
      (here : state.places client = .unlock status) :
      Accessed state client
        ({
          state with gInitializing := state.gInitializing - 1
        }.put client .idle)
  | refused (here : state.places client = .check) :
      Accessed state client (state.put client .idle)
  | checked (here : state.places client = .check) :
      Accessed state client (state.put client .load)
  | loaded
      (object : Nat)
      (here : state.places client = .load)
      (pointer : state.shared.gpFramework = some object) :
      Accessed state client (state.put client (.inside object))
  | owned
      (place : Place)
      (shared : Shared)
      (owns : (state.places client).Owns)
      (kept :
        Kept client (state.places client) state.shared place shared) :
      Accessed state client ({ state with shared }.put client place)

/-- The owner of the lock always has a next access. -/
theorem access?_of_owns
    {client : Client}
    (answer : Answer)
    (invariant : state.Invariant)
    (room :
      state.places client = .addRef →
      state.shared.holders.length + 1 < 2 ^ 32)
    (owns : (state.places client).Owns) :
    (∃ status,
        state.places client = .unlock status ∧
          state.access? client answer =
            some ({
              state with gInitializing := state.gInitializing - 1
            }.put client .idle)) ∨
      ∃ place shared,
        state.access? client answer =
            some ({ state with shared }.put client place) ∧
          Kept client (state.places client) state.shared place shared := by
  have expected := invariant.expected client owns
  by_cases last : ∃ status, state.places client = .unlock status
  · obtain ⟨status, here⟩ := last
    exact .inl ⟨status, here, by simp only [access?, here]⟩
  · have locked (status : HResult) :
        state.places client ≠ .unlock status :=
      fun here => last ⟨status, here⟩
    obtain ⟨place, shared, changed, kept⟩ :=
      @critical?_spec client answer _ _ room expected locked
    refine .inr ⟨place, shared, ?_, kept⟩
    cases here : state.places client with
    | idle | spin | check | load | inside =>
        rw [here] at owns
        exact absurd owns id
    | unlock status =>
        exact absurd here (locked status)
    | test | createHeap | allocate | init | addRef | release | forget |
        destroyHeap =>
        rw [here] at changed
        simp only [access?, here, changed]
        rfl

/-- The accesses of a client, by where it is. -/
theorem access?_cases
    {client : Client}
    {answer : Answer}
    (invariant : state.Invariant)
    (room : state.shared.holders.length + 1 < 2 ^ 32)
    (accessed : state.access? client answer = some next) :
    Accessed state client next := by
  by_cases owns : (state.places client).Owns
  · rcases access?_of_owns answer invariant (fun _ => room) owns with
      ⟨status, here, gives⟩ | ⟨place, shared, moves, kept⟩
    · rw [accessed] at gives
      cases gives
      exact .gives status here
    · rw [accessed] at moves
      cases moves
      exact .owned place shared owns kept
  · cases here : state.places client with
    | idle | inside =>
        simp only [access?, here] at accessed
        contradiction
    | spin entry =>
        simp only [access?, here] at accessed
        split at accessed
        · cases accessed
          exact .waits entry here
        · rename_i notOne
          cases accessed
          exact .takes entry here notOne
    | check =>
        simp only [access?, here] at accessed
        split at accessed
        · cases accessed
          exact .refused here
        · cases accessed
          exact .checked here
    | load =>
        simp only [access?, here] at accessed
        obtain ⟨object, pointer, answered⟩ :=
          Option.map_eq_some_iff.mp accessed
        cases answered
        exact .loaded object here pointer
    | test | createHeap | allocate | init | addRef | release | forget |
        destroyHeap | unlock =>
        rw [here] at owns
        exact absurd trivial owns

/-- Every step keeps the invariant. -/
theorem Invariant.step
    (invariant : state.Invariant)
    (room : Room state action)
    (stepped : step? state action = some next) :
    next.Invariant := by
  obtain ⟨client, move⟩ := action
  cases move with
  | enter entry =>
      obtain ⟨idle, answered⟩ :=
        Option.ite_none_right_eq_some.mp stepped
      cases answered
      exact invariant.put (by rw [idle]; exact id) id
  | call checked =>
      obtain ⟨idle, answered⟩ :=
        Option.ite_none_right_eq_some.mp stepped
      cases answered
      refine invariant.put (by rw [idle]; exact id) ?_
      cases checked <;> exact id
  | finish =>
      simp only [step?] at stepped
      split at stepped
      · rename_i object here
        cases stepped
        exact invariant.put (by rw [here]; exact id) id
      · contradiction
  | access answer =>
      cases access?_cases invariant room stepped with
      | waits entry here =>
          exact invariant
      | takes entry here notOne =>
          exact invariant.acquire notOne
      | gives status here =>
          exact invariant.release here
      | refused here =>
          exact invariant.put (by rw [here]; exact id) id
      | checked here =>
          exact invariant.put (by rw [here]; exact id) id
      | loaded object here pointer =>
          exact invariant.put (by rw [here]; exact id) id
      | owned place shared owns kept =>
          exact invariant.own owns kept.owns kept.expected

/-- The invariant holds after every run. -/
theorem invariant_of_run
    {actions : List Action}
    (room : EveryStep step? Room initial actions)
    (ran : run? step? initial actions = some state) :
    state.Invariant :=
  invariant_of_everyStep
    (fun invariant room stepped => invariant.step room stepped)
    invariant_initial room ran

/-!
### Clients that hold a reference
-/

/--
A client calls a function, or `NdCleanup`, only while it holds a reference.
Nothing in the library checks this.
-/
def Disciplined (state : Runtime) : Action → Prop
  | ⟨client, .enter .cleanup⟩ => client ∈ state.shared.holders
  | ⟨client, .call _⟩ => client ∈ state.shared.holders
  | _ => True

instance (state : Runtime) : DecidablePred state.Disciplined :=
  fun action => by
    obtain ⟨client, move⟩ := action
    cases move with
    | enter entry =>
        cases entry <;> unfold Disciplined <;> infer_instance
    | call checked =>
        unfold Disciplined
        infer_instance
    | access answer =>
        unfold Disciplined
        infer_instance
    | finish =>
        unfold Disciplined
        infer_instance

/-- What holds in addition while all clients are disciplined. -/
structure Backed (state : Runtime) : Prop where
  invariant : state.Invariant
  holds :
    ∀ client,
      (state.places client).Relies → client ∈ state.shared.holders
  current :
    ∀ client object,
      state.places client = .inside object →
      state.shared.gpFramework = some object

/-- No client needs a reference before the first call. -/
theorem backed_initial : initial.Backed where
  invariant := invariant_initial
  holds := fun _ relies => absurd relies id
  current := fun _ _ inside => by
    simp [initial] at inside

/-- A client that does not touch the lock relies on its own reference. -/
theorem Backed.put
    {client : Client}
    {place : Place}
    (backed : state.Backed)
    (before : ¬ (state.places client).Owns)
    (after : ¬ place.Owns)
    (holds : place.Relies → client ∈ state.shared.holders)
    (current :
      ∀ object,
        place = .inside object → state.shared.gpFramework = some object) :
    (state.put client place).Backed where
  invariant := backed.invariant.put before after
  holds := by
    intro other relies
    by_cases here : other = client
    · subst here
      simp only [Runtime.put, Function.update_self] at relies
      exact holds relies
    · simp only [Runtime.put, Function.update_of_ne here] at relies
      exact backed.holds other relies
  current := by
    intro other object inside
    by_cases here : other = client
    · subst here
      simp only [Runtime.put, Function.update_self] at inside
      exact current object inside
    · simp only [Runtime.put, Function.update_of_ne here] at inside
      exact backed.current other object inside

/-- A client keeps its reference while another one owns the lock. -/
theorem mem_heldAfter
    {client other : Client}
    {place : Place}
    {holders : List Client}
    (held : other ∈ holders)
    (different : other ≠ client)
    (releases : place = .release → client ∈ holders) :
    other ∈ heldAfter client place holders := by
  unfold heldAfter
  split
  · exact List.mem_cons_of_mem _ held
  · rw [if_pos (releases rfl)]
    exact (List.mem_erase_of_ne different).mpr held
  · exact held

/-- The owner of the lock takes nothing from the other clients. -/
theorem Backed.own
    {client : Client}
    {place : Place}
    {shared : Shared}
    (backed : state.Backed)
    (owns : (state.places client).Owns)
    (kept : Kept client (state.places client) state.shared place shared) :
    ({ state with shared }.put client place).Backed where
  invariant := backed.invariant.own owns kept.owns kept.expected
  holds := by
    intro other relies
    by_cases here : other = client
    · subst here
      simp only [Runtime.put, Function.update_self] at relies ⊢
      have before := kept.relies relies
      rw [kept.holders, before]
      exact backed.holds other (by rw [before]; trivial)
    · simp only [Runtime.put, Function.update_of_ne here] at relies ⊢
      rw [kept.holders]
      refine mem_heldAfter (backed.holds other relies) here ?_
      intro releases
      exact backed.holds client (by rw [releases]; trivial)
  current := by
    intro other object inside
    by_cases here : other = client
    · subst here
      simp only [Runtime.put, Function.update_self] at inside
      rw [inside] at kept
      exact absurd kept.owns id
    · simp only [Runtime.put, Function.update_of_ne here] at inside ⊢
      have held := backed.holds other (by rw [inside]; trivial)
      rw [kept.pointer (List.ne_nil_of_mem held)]
      exact backed.current other object inside

/-- Taking or giving back the lock moves no reference. -/
theorem Backed.relock
    {client : Client}
    {place : Place}
    {word : Int32}
    (backed : state.Backed)
    (invariant :
      ({ state with gInitializing := word }.put client place).Invariant)
    (holds : place.Relies → client ∈ state.shared.holders)
    (outside : ∀ object, place ≠ .inside object) :
    ({ state with gInitializing := word }.put client place).Backed where
  invariant := invariant
  holds := by
    intro other relies
    by_cases here : other = client
    · subst here
      simp only [Runtime.put, Function.update_self] at relies
      exact holds relies
    · simp only [Runtime.put, Function.update_of_ne here] at relies
      exact backed.holds other relies
  current := by
    intro other object inside
    by_cases here : other = client
    · subst here
      simp only [Runtime.put, Function.update_self] at inside
      exact absurd inside (outside object)
    · simp only [Runtime.put, Function.update_of_ne here] at inside
      exact backed.current other object inside

/-- Every step of disciplined clients keeps references and pointers. -/
theorem Backed.step
    (backed : state.Backed)
    (room : Room state action)
    (disciplined : state.Disciplined action)
    (stepped : step? state action = some next) :
    next.Backed := by
  obtain ⟨client, move⟩ := action
  cases move with
  | enter entry =>
      obtain ⟨idle, answered⟩ :=
        Option.ite_none_right_eq_some.mp stepped
      cases answered
      refine backed.put (by rw [idle]; exact id) id ?_ (by simp)
      cases entry with
      | startup =>
          exact False.elim
      | cleanup =>
          exact fun _ => disciplined
  | call checked =>
      obtain ⟨idle, answered⟩ :=
        Option.ite_none_right_eq_some.mp stepped
      cases answered
      cases checked with
      | true =>
          exact backed.put (by rw [idle]; exact id) id
            (fun _ => disciplined) (by simp)
      | false =>
          exact backed.put (by rw [idle]; exact id) id
            (fun _ => disciplined) (by simp)
  | finish =>
      simp only [step?] at stepped
      split at stepped
      · rename_i object here
        cases stepped
        exact backed.put (by rw [here]; exact id) id False.elim (by simp)
      · contradiction
  | access answer =>
      cases access?_cases backed.invariant room stepped with
      | waits entry here =>
          exact backed
      | takes entry here notOne =>
          refine backed.relock (backed.invariant.acquire notOne) ?_
            (by simp)
          cases entry with
          | startup =>
              exact False.elim
          | cleanup =>
              exact fun _ => backed.holds client (by rw [here]; trivial)
      | gives status here =>
          exact backed.relock (backed.invariant.release here) False.elim
            (by simp)
      | refused here =>
          exact backed.put (by rw [here]; exact id) id False.elim (by simp)
      | checked here =>
          exact backed.put (by rw [here]; exact id) id
            (fun _ => backed.holds client (by rw [here]; trivial))
            (by simp)
      | loaded object here pointer =>
          refine backed.put (by rw [here]; exact id) id
            (fun _ => backed.holds client (by rw [here]; trivial)) ?_
          rintro other ⟨⟩
          exact pointer
      | owned place shared owns kept =>
          exact backed.own owns kept

/-- A framework with a holder is running, wherever the lock is. -/
theorem Invariant.running
    (invariant : state.Invariant)
    (held : state.shared.holders ≠ []) :
    Running state.shared := by
  cases invariant.guarded with
  | free zero none =>
      rcases invariant.settled none with closed | ⟨running, -⟩
      · exact absurd closed.holders held
      · exact running
  | taken one owner own only =>
      exact running_of_held (invariant.expected owner own) held

/-- No disciplined client meets a missing or unready framework. -/
theorem Backed.not_faults
    (backed : state.Backed)
    (client : Client) :
    ¬ state.Faults client := by
  rintro (⟨here, null⟩ | ⟨object, here, broken⟩)
  · have held := backed.holds client (by rw [here]; trivial)
    obtain ⟨framework, single, -⟩ :=
      backed.invariant.running (List.ne_nil_of_mem held)
    obtain ⟨object, pointer, -⟩ := single.frameworks
    rw [null] at pointer
    contradiction
  · have held := backed.holds client (by rw [here]; trivial)
    have pointer := backed.current client object here
    obtain ⟨framework, single, ready⟩ :=
      backed.invariant.running (List.ne_nil_of_mem held)
    obtain ⟨other, same, only⟩ := single.frameworks
    rw [pointer] at same
    cases same
    obtain ⟨heap, heapPointer, heaps⟩ := single.heap
    refine broken ⟨⟨framework, ?_, ready.1⟩, heap, ?_, heapPointer⟩
    · rw [only, Function.update_self]
    · rw [heaps]
      exact List.mem_cons_self

/-!
### What clients can rely on
-/

/-- The system gives everything that it is asked for. -/
def granting : Answer where
  succeeds := true
  lastError := 0
  init := {
    wsaStartup := 0
    createIocp := true
    createSocket := true
    bindSocket := true
    providerChange := true
    bindProviderChange := true
    addressListChange := true
    post := true
    lastError := 0
  }

/-- A client takes the next accesses of its call. -/
def accesses (client : Client) (count : Nat) : List Action :=
  List.replicate count ⟨client, .access granting⟩

/-- Client 1 starts the framework. -/
def starting : List Action :=
  ⟨1, .enter .startup⟩ :: accesses 1 7

/-- Client 1 calls a function, returns and closes the framework. -/
def closing : List Action :=
  ⟨1, .call true⟩ :: accesses 1 2 ++
    ⟨1, .finish⟩ :: ⟨1, .enter .cleanup⟩ :: accesses 1 6

section Runs

variable
  {actions later : List Action}
  {client : Client}

/--
While clients call functions only with a reference of their own, no call meets a
framework that is null, deleted or not yet initialised, however the calls
interleave with other clients that start up and clean up.
-/
theorem disciplined_never_fault_of_run
    (room : EveryStep step? Room initial actions)
    (disciplined : EveryStep step? Disciplined initial actions)
    (ran : run? step? initial actions = some state)
    (client : Client) :
    ¬ state.Faults client := by
  have both :
      EveryStep step?
        (fun state action => Room state action ∧ state.Disciplined action)
        initial actions :=
    room.and disciplined
  have backed :=
    invariant_of_everyStep
      (fun backed permitted stepped =>
        Backed.step backed permitted.1 permitted.2 stepped)
      backed_initial both ran
  exact backed.not_faults client

/-- A client that has started the framework may call it. -/
theorem disciplined_never_fault_sample :
    ∃ state,
      run? step? initial (starting ++ closing.take 3) = some state ∧
        ¬ state.Faults 1 := by
  have enabled :
      (run? step? initial (starting ++ closing.take 3)).isSome := by
    decide +kernel
  obtain ⟨state, ran⟩ := Option.isSome_iff_exists.mp enabled
  exact ⟨state, ran,
    disciplined_never_fault_of_run (by decide +kernel)
      (by decide +kernel) ran 1⟩

-- A client without a reference can be in a framework that is not ready.
example :
    (run? step? initial
          (⟨1, .enter .startup⟩ :: accesses 1 4 ++
            ⟨2, .call true⟩ :: accesses 2 2)).map
        (fun state =>
          (state.places 2,
            (state.shared.frameworks 1).map (·.initialised))) =
      some (.inside 1, some false) := by
  decide +kernel

/-- No step gives a reference on Winsock back. -/
theorem Invariant.winsock_le
    (invariant : state.Invariant)
    (room : Room state action)
    (stepped : step? state action = some next) :
    state.shared.winsock ≤ next.shared.winsock := by
  obtain ⟨client, move⟩ := action
  cases move with
  | enter entry =>
      obtain ⟨-, answered⟩ := Option.ite_none_right_eq_some.mp stepped
      cases answered
      exact Nat.le_refl _
  | call checked =>
      obtain ⟨-, answered⟩ := Option.ite_none_right_eq_some.mp stepped
      cases answered
      exact Nat.le_refl _
  | finish =>
      simp only [step?] at stepped
      split at stepped
      · cases stepped
        exact Nat.le_refl _
      · contradiction
  | access answer =>
      cases access?_cases invariant room stepped with
      | owned place shared owns kept =>
          exact kept.winsock
      | _ =>
          exact Nat.le_refl _

/--
Once a framework has run, the last `NdCleanup` closes everything that was opened
except the reference on Winsock, which is never given back.
-/
theorem closing_keeps_winsock_of_run
    {middle : Runtime}
    (room : EveryStep step? Room initial actions)
    (started : run? step? initial actions = some middle)
    (held : middle.shared.holders ≠ [])
    (laterRoom : EveryStep step? Room middle later)
    (ran : run? step? middle later = some state)
    (free : state.gInitializing = 0)
    (released : state.shared.holders = []) :
    Closed state.shared ∧ 0 < state.shared.winsock := by
  have invariant := invariant_of_run room started
  obtain ⟨framework, -, -, positive⟩ := invariant.running held
  obtain ⟨final, more⟩ :=
    @invariant_of_everyStep _ _ step? Room
      (fun state => state.Invariant ∧ 0 < state.shared.winsock)
      (fun both fits stepped =>
        ⟨both.1.step fits stepped,
          Nat.lt_of_lt_of_le both.2 (both.1.winsock_le fits stepped)⟩)
      _ _ _ ⟨invariant, positive⟩ laterRoom ran
  refine ⟨?_, more⟩
  have unowned := (final.guarded.none_of_ne_one (free ▸ by decide)).2
  rcases final.settled unowned with closed | ⟨-, held⟩
  · exact closed
  · exact absurd released held

/-- The last `NdCleanup` closes everything but a reference on Winsock. -/
theorem closing_keeps_winsock_sample :
    ∃ state,
      run? step? initial (starting ++ closing) = some state ∧
        Closed state.shared ∧ 0 < state.shared.winsock := by
  have opened :
      (run? step? initial starting).map
          (fun state => state.shared.holders) =
        some [1] := by
    decide +kernel
  obtain ⟨middle, started, holders⟩ := Option.map_eq_some_iff.mp opened
  have finished :
      (run? step? initial (starting ++ closing)).map
          (fun state => (state.gInitializing, state.shared.holders)) =
        some (0, []) := by
    decide +kernel
  obtain ⟨state, ran, facts⟩ := Option.map_eq_some_iff.mp finished
  obtain ⟨other, first, later⟩ := run?_append_eq_some_iff.mp ran
  rw [started] at first
  cases first
  have laterRoom : EveryStep step? Room middle closing := by
    have whole : EveryStep step? Room initial (starting ++ closing) := by
      decide +kernel
    exact whole.of_append started
  exact ⟨state, ran,
    closing_keeps_winsock_of_run (by decide +kernel) started
      (holders ▸ List.cons_ne_nil 1 []) laterRoom later
      (congrArg Prod.fst facts) (congrArg Prod.snd facts)⟩

end Runs

end Runtime

end GameCapturer.Framework
