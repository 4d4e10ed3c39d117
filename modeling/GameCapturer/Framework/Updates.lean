import GameCapturer.Foundation.ChangeNotification
import GameCapturer.Foundation.SpinLock
import GameCapturer.Framework.RegistryRuns

namespace GameCapturer.Framework

open Foundation Foundation.StepFunction
open Foundation.ChangeNotification Foundation.SpinLock

/-!
# Following the changes of the system

`ProcessUpdates` polls a completion port for changes of the provider catalog and
of the addresses.  It handles a change under the lock: first it issues the
request for the next change, then it rebuilds the lists.  Any number of threads
do so at the same time.
-/

/-- `ND_NOTIFY_TYPE`, the completion keys. -/
inductive Notify where
  | providerChange
  | addrChange
  deriving Repr, DecidableEq

/-- Where a thread is in a call of the framework. -/
inductive UpdatePlace where
  | outside
  | polling
  | dequeued (key : Notify)
  | rearming (key : Notify)
  | processing (key : Notify)
  | ready
  deriving Repr, DecidableEq

/-- The places inside the lock of the framework. -/
def UpdatePlace.Locked : UpdatePlace → Prop
  | .rearming _ | .processing _ => True
  | _ => False

instance : DecidablePred UpdatePlace.Locked := fun place => by
  cases place <;> unfold UpdatePlace.Locked <;> infer_instance

/-- Between dequeuing a completion and issuing the next request. -/
def UpdatePlace.Takes (key : Notify) (place : UpdatePlace) : Prop :=
  place = .dequeued key ∨ place = .rearming key

/--
The framework with the catalog of the system.  `current` says that nothing of a
kind has changed since the lists were last built; at first they are empty.
-/
structure Updates where
  catalog : List ProtocolInfo
  armed : Notify → Bool
  queue : List Notify
  lock : Option Nat
  places : Nat → UpdatePlace
  registry : Registry
  current : Notify → Bool

/-- What the system and the libraries answer while a change is processed. -/
structure ProcessAnswers where
  sizeReported : Bool
  allocated : Bool
  enumerated : Bool
  init : Nat → Provider.InitAnswers
  scan : Nat → Registry.ScanAnswers
  canUnloadNow : Provider.CanUnloadNow

/-- The catalog can be read. -/
def ProcessAnswers.reads (answers : ProcessAnswers) : Bool :=
  answers.sizeReported && answers.allocated && answers.enumerated

/-- The locked section that handles a change. -/
def ProcessAnswers.action
    (answers : ProcessAnswers)
    (catalog : List ProtocolInfo) : Notify → Registry.Action
  | .providerChange =>
      .providerChange {
        sizeReported := answers.sizeReported
        allocated := answers.allocated
        protocols := if answers.enumerated then some catalog else none
        init := answers.init
      } answers.scan answers.canUnloadNow
  | .addrChange =>
      .addressChange answers.scan answers.canUnloadNow

/-- What may happen next. -/
inductive UpdateAction where
  | catalogChanges (catalog : List ProtocolInfo)
  | addressesChange
  | enter (thread : Nat)
  | poll (thread : Nat)
  | acquire (thread : Nat)
  | rearm (thread : Nat) (succeeds : Bool)
  | process (thread : Nat) (answers : ProcessAnswers)
  | openAdapter
      (thread : Nat)
      (iid : Iid)
      (sockaddr : List UInt8)
      (answers : Nat → Provider.OpenAnswers)
  | read (thread : Nat)
  | flush (thread : Nat) (canUnloadNow : Provider.CanUnloadNow)
  | releaseAdapter (object : Nat)

/-- What a key stands for changes. -/
def UpdateAction.Changes (key : Notify) : UpdateAction → Prop
  | .catalogChanges _ => key = .providerChange
  | .addressesChange => key = .addrChange
  | _ => False

/-- The libraries involved keep their counts. -/
def UpdateAction.Counts : UpdateAction → Prop
  | .process _ answers =>
      (∀ round, (answers.scan round).Counts) ∧
        Provider.Counts answers.canUnloadNow
  | .openAdapter _ _ _ answers =>
      ∀ attempt, Provider.Counts (answers attempt).canUnloadNow
  | .flush _ canUnloadNow =>
      Provider.Counts canUnloadNow
  | _ => True

/-- Requests are issued, the catalog is read and `Init` succeeds. -/
def UpdateAction.Succeeds : UpdateAction → Prop
  | .rearm _ succeeds => succeeds = true
  | .process _ answers =>
      answers.reads = true ∧
        ∀ index, ¬ Failed (Provider.init (answers.init index))
  | _ => True

namespace Updates

/-- The state that a successful `Init` leaves. -/
def initial (catalog : List ProtocolInfo) : Updates where
  catalog
  armed := fun key => key = .addrChange
  queue := [.providerChange]
  lock := none
  places := fun _ => .outside
  registry := .initial
  current := fun key => key = .addrChange

/-- Put a thread at a place. -/
def put (system : Updates) (thread : Nat) (place : UpdatePlace) : Updates :=
  { system with places := Function.update system.places thread place }

/-- A change completes the request if it is armed. -/
def change (system : Updates) (key : Notify) : Updates :=
  { system with
    armed := Function.update system.armed key false
    queue :=
      if system.armed key then system.queue ++ [key] else system.queue
    current := Function.update system.current key false }

/-- Which lists are up to date after a change has been processed. -/
def processed
    (answers : ProcessAnswers)
    (current : Notify → Bool) : Notify → Notify → Bool
  | .providerChange =>
      if answers.reads then fun _ => true else current
  | .addrChange =>
      Function.update current .addrChange true

/-- One step of the system or of a thread. -/
def step? : StepFunction Updates UpdateAction
  | system, .catalogChanges catalog =>
      some { system.change .providerChange with catalog }
  | system, .addressesChange =>
      some (system.change .addrChange)
  | system, .enter thread =>
      if system.places thread = .outside then
        some (system.put thread .polling)
      else
        none
  | system, .poll thread =>
      if system.places thread = .polling then
        match system.queue with
        | [] => some (system.put thread .ready)
        | key :: rest =>
            some ({ system with queue := rest }.put thread
              (.dequeued key))
      else
        none
  | system, .acquire thread =>
      match system.places thread with
      | .dequeued key =>
          if system.lock = none then
            some ({ system with lock := some thread }.put thread
              (.rearming key))
          else
            none
      | _ => none
  | system, .rearm thread succeeds =>
      match system.places thread with
      | .rearming key =>
          some ({
            system with
            armed := Function.update system.armed key succeeds
          }.put thread (.processing key))
      | _ => none
  | system, .process thread answers =>
      match system.places thread with
      | .processing key => do
          let registry ←
            Registry.step? system.registry
              (answers.action system.catalog key)
          return {
            system with
            registry
            lock := none
            current := processed answers system.current key
          }.put thread .polling
      | _ => none
  | system, .openAdapter thread iid sockaddr answers =>
      if system.places thread = .ready ∧ system.lock = none then do
        let registry ←
          Registry.step? system.registry
            (.openAdapter iid sockaddr answers)
        return { system with registry }.put thread .outside
      else
        none
  | system, .read thread =>
      if system.places thread = .ready ∧ system.lock = none then
        some (system.put thread .outside)
      else
        none
  | system, .flush thread canUnloadNow =>
      if system.places thread = .outside ∧ system.lock = none then do
        let registry ←
          Registry.step? system.registry
            (.flushProvidersForUser canUnloadNow)
        return { system with registry }
      else
        none
  | system, .releaseAdapter object => do
      let registry ←
        Registry.step? system.registry (.releaseAdapter object)
      return { system with registry }

/-!
### One kind of change

For each key the steps are those of a request for notification.
-/

/-- What a step means for the request of a key. -/
def events (key : Notify) (system : Updates) :
    UpdateAction → List (Event Nat)
  | .catalogChanges _ =>
      if key = .providerChange then [.change] else []
  | .addressesChange =>
      if key = .addrChange then [.change] else []
  | .poll thread =>
      if system.queue.head? = some key then [.take thread] else []
  | .rearm thread succeeds =>
      if system.places thread = .rearming key then
        [.rearm thread succeeds]
      else
        []
  | .process thread answers =>
      if system.places thread = .processing key then
        [.refresh thread (key = .addrChange || answers.reads)]
      else if key = .addrChange ∧ answers.reads then
        [.renew]
      else
        []
  | _ => []

/-- A request follows the system for one key. -/
structure Follows
    (key : Notify)
    (system : Updates)
    (watch : Watch Nat) : Prop where
  single : ChangeNotification.Single watch
  armed : watch.armed = system.armed key
  queued : system.queue.count key = if watch.queued then 1 else 0
  taken :
    Tracks (UpdatePlace.Takes key) watch.taken system.places
  refreshing :
    Tracks (· = UpdatePlace.processing key) watch.refreshing system.places
  locked : Tracks UpdatePlace.Locked system.lock system.places
  current : watch.current = system.current key

section Requests

variable
  {key other : Notify}
  {system next : Updates}
  {watch : Watch Nat}
  {action : UpdateAction}

/-- A thread that has nothing to do with the request of a key moves. -/
theorem Follows.put
    {thread : Nat}
    {place : UpdatePlace}
    (follows : Follows key system watch)
    (takes : place.Takes key ↔ (system.places thread).Takes key)
    (processes :
      place = .processing key ↔ system.places thread = .processing key)
    (locked : place.Locked ↔ (system.places thread).Locked) :
    Follows key (system.put thread place) watch :=
  { follows with
    taken := follows.taken.move takes
    refreshing := follows.refreshing.move processes
    locked := follows.locked.move locked }

/-- A change of one kind is an event of its request only. -/
theorem Follows.change
    (follows : Follows key system watch) :
    ∃ later,
      run? ChangeNotification.step? watch
            (if key = other then [.change] else []) =
          some later ∧
        Follows key (system.change other) later := by
  by_cases same : key = other
  · subst same
    rw [if_pos rfl]
    refine ⟨_, rfl, ?_⟩
    have single :=
      @ChangeNotification.Single.step _ _ watch _ .change follows.single rfl
    refine { follows with single, armed := ?_, queued := ?_, current := ?_ }
    · simp [Updates.change]
    · have count := follows.queued
      have armed := follows.armed
      simp only [Updates.change]
      split
      · rename_i issued
        rw [issued] at armed
        have unqueued := (follows.single.armed armed).1
        rw [List.count_append, count, unqueued, armed]
        simp
      · rename_i idle
        rw [Bool.not_eq_true] at idle
        rw [idle] at armed
        rw [count, armed, Bool.or_false]
    · simp [Updates.change]
  · rw [if_neg same]
    refine ⟨watch, rfl, ?_⟩
    refine { follows with armed := ?_, queued := ?_, current := ?_ }
    · simp [Updates.change, same, follows.armed]
    · simp only [Updates.change]
      split
      · rw [List.count_append, follows.queued]
        simp [Ne.symm same]
      · exact follows.queued
    · simp [Updates.change, same, follows.current]

/-- Dequeuing a completion takes the request of its key. -/
theorem Follows.dequeue
    {thread : Nat}
    {rest : List Notify}
    (follows : Follows key system watch)
    (polling : system.places thread = .polling)
    (completion : system.queue = other :: rest) :
    ∃ later,
      run? ChangeNotification.step? watch
            (if some other = some key then [.take thread] else []) =
          some later ∧
        Follows key
          ({ system with queue := rest }.put thread (.dequeued other))
          later := by
  have count := follows.queued
  rw [completion, List.count_cons] at count
  have processes {place : UpdatePlace} :
      UpdatePlace.dequeued other = .processing key ↔
        system.places thread = .processing key := by
    simp [polling]
  have locked :
      (UpdatePlace.dequeued other).Locked ↔
        (system.places thread).Locked := by
    rw [polling]
    exact Iff.rfl
  by_cases same : other = key
  · subst same
    have queued : watch.queued = true := by
      by_contra unqueued
      rw [if_neg unqueued] at count
      simp at count
    have untaken := follows.single.queued queued
    have stepped :
        ChangeNotification.step? watch (.take thread) =
          some { watch with queued := false, taken := some thread } :=
      if_pos ⟨queued, untaken⟩
    rw [if_pos rfl]
    refine ⟨_, run?_cons_eq_some_iff.mpr ⟨_, stepped, rfl⟩, ?_⟩
    have tracks := follows.taken
    rw [untaken] at tracks
    exact {
      follows with
      single := follows.single.step stepped
      queued := by
        rw [queued] at count
        have none : rest.count other = 0 := by simpa using count
        exact none
      taken := tracks.gain (.inl rfl)
      refreshing := follows.refreshing.move (@processes .polling)
      locked := follows.locked.move locked
    }
  · rw [if_neg fun equal => same (Option.some_inj.mp equal)]
    refine ⟨watch, rfl, ?_⟩
    exact {
      follows with
      queued := by
        rw [if_neg (by simpa using same), Nat.add_zero] at count
        exact count
      taken := follows.taken.move (by
        simp [UpdatePlace.Takes, polling, same])
      refreshing := follows.refreshing.move (@processes .polling)
      locked := follows.locked.move locked
    }

/-- The lock belongs to a thread in a locked section. -/
theorem Follows.owner
    {thread : Nat}
    (follows : Follows key system watch)
    (inside : (system.places thread).Locked) :
    system.lock = some thread :=
  (follows.locked thread).mpr inside

/-- While a thread issues a request, no thread reads. -/
theorem Follows.unrefreshing
    {thread : Nat}
    (follows : Follows key system watch)
    (here : system.places thread = .rearming other) :
    watch.refreshing = none := by
  by_contra processed
  obtain ⟨busy, refreshing⟩ := Option.ne_none_iff_exists'.mp processed
  have processing := (follows.refreshing busy).mp refreshing
  have owner := @Follows.owner _ _ _ thread follows (by rw [here]; trivial)
  have alsoOwner :=
    @Follows.owner _ _ _ busy follows (by rw [processing]; trivial)
  rw [owner] at alsoOwner
  cases alsoOwner
  rw [here] at processing
  contradiction

/-- Issuing the next request puts the request of its key back in place. -/
theorem Follows.rearm
    {thread : Nat}
    {succeeds : Bool}
    (follows : Follows key system watch)
    (here : system.places thread = .rearming other) :
    ∃ later,
      run? ChangeNotification.step? watch
            (if system.places thread = .rearming key then
              [.rearm thread succeeds]
            else
              []) =
          some later ∧
        Follows key
          ({
            system with
            armed := Function.update system.armed other succeeds
          }.put thread (.processing other))
          later := by
  have locked :
      (UpdatePlace.processing other).Locked ↔
        (system.places thread).Locked := by
    rw [here]
    exact Iff.rfl
  by_cases same : other = key
  · subst same
    have taken : watch.taken = some thread :=
      (follows.taken thread).mpr (.inr here)
    have settled := follows.unrefreshing here
    have stepped :
        ChangeNotification.step? watch (.rearm thread succeeds) =
          some {
            watch with
            armed := succeeds
            taken := none
            refreshing := some thread
          } :=
      if_pos ⟨taken, settled⟩
    rw [if_pos here]
    refine ⟨_, run?_cons_eq_some_iff.mpr ⟨_, stepped, rfl⟩, ?_⟩
    have takes := follows.taken
    have refreshes := follows.refreshing
    rw [taken] at takes
    rw [settled] at refreshes
    exact {
      follows with
      single := follows.single.step stepped
      armed := by simp [Updates.put]
      taken := takes.lose (by simp [UpdatePlace.Takes])
      refreshing := refreshes.gain rfl
      locked := follows.locked.move locked
    }
  · rw [if_neg (by simpa [here] using same)]
    refine ⟨watch, rfl, ?_⟩
    exact {
      follows with
      armed := by
        simp [Updates.put, Ne.symm same, follows.armed]
      taken := follows.taken.move (by
        simp [UpdatePlace.Takes, here, same])
      refreshing := follows.refreshing.move (by simp [here, same])
      locked := follows.locked.move locked
    }

/-- A thread that has processed a change leaves the lock. -/
theorem Follows.unlocked
    {thread : Nat}
    (follows : Follows key system watch)
    (here : system.places thread = .processing other) :
    Tracks UpdatePlace.Locked none
      (Function.update system.places thread .polling) := by
  have locks := follows.locked
  rw [follows.owner (by rw [here]; trivial)] at locks
  exact locks.lose (@id (UpdatePlace.Locked .polling))

/-- Processing a change of its own key ends the reading of a request. -/
theorem Follows.process_own
    {thread : Nat}
    {answers : ProcessAnswers}
    {registry : Registry}
    (follows : Follows key system watch)
    (here : system.places thread = .processing key) :
    ∃ later,
      run? ChangeNotification.step? watch
            [.refresh thread (key = .addrChange || answers.reads)] =
          some later ∧
        Follows key
          ({
            system with
            registry
            lock := none
            current := processed answers system.current key
          }.put thread .polling)
          later := by
  have refreshing : watch.refreshing = some thread :=
    (follows.refreshing thread).mpr here
  have refreshes := follows.refreshing
  rw [refreshing] at refreshes
  have stepped :
      ChangeNotification.step? watch
          (.refresh thread (key = .addrChange || answers.reads)) =
        some {
          watch with
          refreshing := none
          current :=
            (key = .addrChange || answers.reads) || watch.current
        } :=
    if_pos refreshing
  refine ⟨_, run?_cons_eq_some_iff.mpr ⟨_, stepped, rfl⟩, ?_⟩
  exact {
    follows with
    single := follows.single.step stepped
    taken := follows.taken.move (by simp [UpdatePlace.Takes, here])
    refreshing := refreshes.lose (by simp)
    locked := follows.unlocked here
    current := by
      cases key with
      | providerChange =>
          cases read : answers.reads <;>
            simp [Updates.put, processed, read, follows.current]
      | addrChange =>
          simp [Updates.put, processed]
  }

/-- Processing a change of the other key leaves the request in its place. -/
theorem Follows.process_other
    {thread : Nat}
    {answers : ProcessAnswers}
    {registry : Registry}
    (follows : Follows key system watch)
    (here : system.places thread = .processing other)
    (different : other ≠ key) :
    ∃ later,
      run? ChangeNotification.step? watch
            (if key = .addrChange ∧ answers.reads = true then
              [.renew]
            else
              []) =
          some later ∧
        Follows key
          ({
            system with
            registry
            lock := none
            current := processed answers system.current other
          }.put thread .polling)
          later := by
  have takes :
      UpdatePlace.polling.Takes key ↔ (system.places thread).Takes key := by
    simp [UpdatePlace.Takes, here]
  have moved :
      Tracks (· = UpdatePlace.processing key) watch.refreshing
        (Function.update system.places thread .polling) :=
    follows.refreshing.move (by simp [here, different])
  by_cases renews : key = .addrChange ∧ answers.reads = true
  · have provider : other = .providerChange := by
      cases other with
      | providerChange =>
          rfl
      | addrChange =>
          exact absurd renews.1.symm different
    rw [if_pos renews]
    refine ⟨_, rfl, ?_⟩
    exact {
      follows with
      single := ⟨follows.single.armed, follows.single.queued⟩
      taken := follows.taken.move takes
      refreshing := moved
      locked := follows.unlocked here
      current := by
        simp [Updates.put, processed, provider, renews.2]
    }
  · rw [if_neg renews]
    refine ⟨watch, rfl, ?_⟩
    exact {
      follows with
      taken := follows.taken.move takes
      refreshing := moved
      locked := follows.unlocked here
      current := by
        rw [follows.current]
        cases other with
        | providerChange =>
            cases key with
            | providerChange =>
                exact absurd rfl different
            | addrChange =>
                have unread : answers.reads = false := by
                  simpa using renews
                simp [Updates.put, processed, unread]
        | addrChange =>
            simp [Updates.put, processed, Ne.symm different]
    }

/-- Processing a change reads what its key stands for. -/
theorem Follows.process
    {thread : Nat}
    {answers : ProcessAnswers}
    {registry : Registry}
    (follows : Follows key system watch)
    (here : system.places thread = .processing other) :
    ∃ later,
      run? ChangeNotification.step? watch
            (events key system (.process thread answers)) =
          some later ∧
        Follows key
          ({
            system with
            registry
            lock := none
            current := processed answers system.current other
          }.put thread .polling)
          later := by
  by_cases same : other = key
  · subst same
    have own :
        events other system (.process thread answers) =
          [.refresh thread (other = .addrChange || answers.reads)] :=
      if_pos here
    rw [own]
    exact follows.process_own here
  · have elsewhere : system.places thread ≠ .processing key := by
      simp [here, same]
    have others :
        events key system (.process thread answers) =
          if key = .addrChange ∧ answers.reads = true then
            [.renew]
          else
            [] :=
      if_neg elsewhere
    rw [others]
    exact follows.process_other here same

/-- Taking the lock for a completion. -/
theorem Follows.acquire
    {thread : Nat}
    (follows : Follows key system watch)
    (here : system.places thread = .dequeued other)
    (free : system.lock = none) :
    Follows key
      ({ system with lock := some thread }.put thread (.rearming other))
      watch := by
  have locks := follows.locked
  rw [free] at locks
  exact {
    follows with
    taken := follows.taken.move (by simp [UpdatePlace.Takes, here])
    refreshing := follows.refreshing.move (by simp [here])
    locked := locks.gain trivial
  }

/-- A section of another kind leaves the requests alone. -/
theorem Follows.registry
    (follows : Follows key system watch)
    (registry : Registry) :
    Follows key { system with registry } watch :=
  { follows with }

/-- Every step of the system is a run of the request of each key. -/
theorem Follows.step
    (follows : Follows key system watch)
    (stepped : step? system action = some next) :
    ∃ later,
      run? ChangeNotification.step? watch (events key system action) =
          some later ∧
        Follows key next later := by
  cases action with
  | catalogChanges catalog =>
      cases stepped
      obtain ⟨later, ran, follows⟩ :=
        @Follows.change _ .providerChange _ _ follows
      exact ⟨later, ran, { follows with }⟩
  | addressesChange =>
      cases stepped
      exact follows.change
  | enter thread =>
      obtain ⟨here, answered⟩ := Option.ite_none_right_eq_some.mp stepped
      cases answered
      exact ⟨watch, rfl,
        follows.put (by simp [UpdatePlace.Takes, here]) (by simp [here])
          (by rw [here]; exact Iff.rfl)⟩
  | poll thread =>
      obtain ⟨here, answered⟩ := Option.ite_none_right_eq_some.mp stepped
      split at answered
      · rename_i empty
        cases answered
        have nothing : events key system (.poll thread) = [] :=
          if_neg (by simp [empty])
        rw [nothing]
        exact ⟨watch, rfl,
          follows.put (by simp [UpdatePlace.Takes, here])
            (by simp [here]) (by rw [here]; exact Iff.rfl)⟩
      · rename_i other rest completion
        cases answered
        have taken :
            events key system (.poll thread) =
              if some other = some key then [.take thread] else [] := by
          simp [events, completion]
        rw [taken]
        exact follows.dequeue here completion
  | acquire thread =>
      simp only [step?] at stepped
      split at stepped
      · rename_i here
        obtain ⟨free, answered⟩ :=
          Option.ite_none_right_eq_some.mp stepped
        cases answered
        exact ⟨watch, rfl, follows.acquire here free⟩
      · contradiction
  | rearm thread succeeds =>
      simp only [step?] at stepped
      split at stepped
      · rename_i here
        cases stepped
        exact follows.rearm here
      · contradiction
  | process thread answers =>
      simp only [step?] at stepped
      split at stepped
      · rename_i here
        obtain ⟨registry, -, answered⟩ := Option.bind_eq_some_iff.mp stepped
        cases answered
        exact follows.process here
      · contradiction
  | openAdapter thread iid sockaddr answers =>
      obtain ⟨⟨here, -⟩, opened⟩ := Option.ite_none_right_eq_some.mp stepped
      obtain ⟨registry, -, answered⟩ := Option.bind_eq_some_iff.mp opened
      cases answered
      exact ⟨watch, rfl,
        (follows.registry registry).put
          (by simp [UpdatePlace.Takes, here]) (by simp [here])
          (by rw [here]; exact Iff.rfl)⟩
  | read thread =>
      obtain ⟨⟨here, -⟩, answered⟩ :=
        Option.ite_none_right_eq_some.mp stepped
      cases answered
      exact ⟨watch, rfl,
        follows.put (by simp [UpdatePlace.Takes, here]) (by simp [here])
          (by rw [here]; exact Iff.rfl)⟩
  | flush thread canUnloadNow =>
      obtain ⟨-, flushed⟩ := Option.ite_none_right_eq_some.mp stepped
      obtain ⟨registry, -, answered⟩ := Option.bind_eq_some_iff.mp flushed
      cases answered
      exact ⟨watch, rfl, follows.registry registry⟩
  | releaseAdapter object =>
      obtain ⟨registry, -, answered⟩ := Option.bind_eq_some_iff.mp stepped
      cases answered
      exact ⟨watch, rfl, follows.registry registry⟩

end Requests

/-!
### The lists
-/

/-- What a step means for the lists of the framework. -/
inductive Effect (system next : Updates) (action : UpdateAction) : Prop where
  /-- The catalog changes, and nothing of the framework. -/
  | outdated
      (outdates : ∃ catalog, action = .catalogChanges catalog)
      (registry : next.registry = system.registry)
      (stale : next.current .providerChange = false)
  /-- A provider change is processed. -/
  | provider
      (thread : Nat)
      (answers : ProcessAnswers)
      (processes : action = .process thread answers)
      (here : system.places thread = .processing .providerChange)
      (stepped :
        Registry.step? system.registry
            (answers.action system.catalog .providerChange) =
          some next.registry)
      (catalog : next.catalog = system.catalog)
      (current :
        next.current .providerChange =
          (answers.reads || system.current .providerChange))
  /-- Another section runs, or none. -/
  | other
      (catalog : next.catalog = system.catalog)
      (current :
        next.current .providerChange = system.current .providerChange)
      (registry :
        next.registry = system.registry ∨
          ∃ locked : Registry.Action,
            (action.Counts → locked.Counts) ∧
              (∀ catalog answers canUnloadNow,
                locked ≠
                  .providerChange catalog answers canUnloadNow) ∧
              Registry.step? system.registry locked =
                some next.registry)

/-- Every step has one of these effects. -/
theorem effect_of_step
    {system next : Updates}
    {action : UpdateAction}
    (stepped : step? system action = some next) :
    Effect system next action := by
  cases action with
  | catalogChanges catalog =>
      cases stepped
      exact .outdated ⟨catalog, rfl⟩ rfl (by simp [change])
  | addressesChange =>
      cases stepped
      exact .other rfl (by simp [change]) (.inl rfl)
  | enter thread =>
      obtain ⟨-, answered⟩ := Option.ite_none_right_eq_some.mp stepped
      cases answered
      exact .other rfl rfl (.inl rfl)
  | poll thread =>
      obtain ⟨-, answered⟩ := Option.ite_none_right_eq_some.mp stepped
      split at answered <;> cases answered <;>
        exact .other rfl rfl (.inl rfl)
  | acquire thread =>
      simp only [step?] at stepped
      split at stepped
      · obtain ⟨-, answered⟩ :=
          Option.ite_none_right_eq_some.mp stepped
        cases answered
        exact .other rfl rfl (.inl rfl)
      · contradiction
  | rearm thread succeeds =>
      simp only [step?] at stepped
      split at stepped
      · cases stepped
        exact .other rfl rfl (.inl rfl)
      · contradiction
  | process thread answers =>
      simp only [step?] at stepped
      split at stepped
      · rename_i key here
        obtain ⟨registry, ran, answered⟩ :=
          Option.bind_eq_some_iff.mp stepped
        cases answered
        cases key with
        | providerChange =>
            refine .provider thread answers rfl here ran rfl ?_
            cases read : answers.reads <;> simp [put, processed, read]
        | addrChange =>
            refine .other rfl (by simp [put, processed]) (.inr ?_)
            exact ⟨.addressChange answers.scan answers.canUnloadNow,
              id, nofun, ran⟩
      · contradiction
  | openAdapter thread iid sockaddr answers =>
      obtain ⟨-, opened⟩ := Option.ite_none_right_eq_some.mp stepped
      obtain ⟨registry, ran, answered⟩ := Option.bind_eq_some_iff.mp opened
      cases answered
      exact .other rfl rfl
        (.inr ⟨.openAdapter iid sockaddr answers, id, nofun, ran⟩)
  | read thread =>
      obtain ⟨-, answered⟩ := Option.ite_none_right_eq_some.mp stepped
      cases answered
      exact .other rfl rfl (.inl rfl)
  | flush thread canUnloadNow =>
      obtain ⟨-, flushed⟩ := Option.ite_none_right_eq_some.mp stepped
      obtain ⟨registry, ran, answered⟩ := Option.bind_eq_some_iff.mp flushed
      cases answered
      exact .other rfl rfl
        (.inr ⟨.flushProvidersForUser canUnloadNow, id, nofun, ran⟩)
  | releaseAdapter object =>
      obtain ⟨registry, ran, answered⟩ := Option.bind_eq_some_iff.mp stepped
      cases answered
      exact .other rfl rfl
        (.inr ⟨.releaseAdapter object, id, nofun, ran⟩)

end Updates

end GameCapturer.Framework
