import GameCapturer.Framework.Updates

namespace GameCapturer.Framework

open Foundation Foundation.StepFunction Foundation.ChangeNotification
open Registry (Active Cataloged Obtainable)

/-!
# What the threads of the framework keep up to date

Every run of the system is, for each kind of change, a run of one request for
notification.  So the request is never issued twice at a time, and as long as
the calls succeed no change is lost.  A call that fails is not repeated.
-/

namespace Updates

/-- No completion of a key is on its way, and nobody is about to read. -/
structure Idle (key : Notify) (system : Updates) : Prop where
  unqueued : key ∉ system.queue
  untaken : ∀ thread, ¬ (system.places thread).Takes key
  settled : ∀ thread, system.places thread ≠ .processing key

/-- The request of a key in the initial state. -/
def initialWatch (key : Notify) : Watch Nat where
  armed := key = .addrChange
  queued := key = .providerChange
  taken := none
  refreshing := none
  current := key = .addrChange

/-- The initial state has one request of each key. -/
theorem follows_initial
    (key : Notify)
    (catalog : List ProtocolInfo) :
    Follows key (initial catalog) (initialWatch key) where
  single := by
    cases key <;> exact ⟨by decide, by decide⟩
  armed := rfl
  queued := by cases key <;> rfl
  taken := fun thread => by simp [initialWatch, initial, UpdatePlace.Takes]
  refreshing := fun thread => by simp [initialWatch, initial]
  locked := fun thread => by simp [initial, UpdatePlace.Locked]
  current := rfl

/-- The initial state has lost no change. -/
theorem attentive_initialWatch (key : Notify) :
    Attentive (initialWatch key) where
  single := by
    cases key <;> exact ⟨by decide, by decide⟩
  somewhere := by cases key <;> decide
  current := by cases key <;> decide

section Requests

variable
  {key : Notify}
  {catalog : List ProtocolInfo}
  {system next : Updates}
  {watch : Watch Nat}
  {action : UpdateAction}
  {actions : List UpdateAction}

/-- The request of a key follows every run. -/
theorem follows_of_run
    (key : Notify)
    (ran : run? step? (initial catalog) actions = some system) :
    ∃ watch, Follows key system watch := by
  have kept
      {state next : Updates}
      {action : UpdateAction}
      (followed : ∃ watch, Follows key state watch)
      (stepped : step? state action = some next) :
      ∃ watch, Follows key next watch := by
    obtain ⟨watch, follows⟩ := followed
    obtain ⟨later, -, follows⟩ := follows.step stepped
    exact ⟨later, follows⟩
  exact StepFunction.invariant_of_run kept
    ⟨_, follows_initial key catalog⟩ ran

/-- A key is idle exactly when its request is quiet. -/
theorem Follows.idle_iff
    (follows : Follows key system watch) :
    Idle key system ↔ Quiet watch := by
  have queued : key ∈ system.queue ↔ watch.queued = true := by
    rw [← List.count_pos_iff, follows.queued]
    cases watch.queued <;> simp
  constructor
  · intro idle
    constructor
    · rw [← Bool.not_eq_true, ← queued]
      exact idle.unqueued
    · exact Option.eq_none_iff_forall_ne_some.mpr fun thread taken =>
        idle.untaken thread ((follows.taken thread).mp taken)
    · exact Option.eq_none_iff_forall_ne_some.mpr fun thread refreshing =>
        idle.settled thread ((follows.refreshing thread).mp refreshing)
  · intro quiet
    constructor
    · rw [queued, quiet.unqueued]
      exact Bool.false_ne_true
    · intro thread takes
      have taken := (follows.taken thread).mpr takes
      rw [quiet.untaken] at taken
      contradiction
    · intro thread processing
      have refreshing := (follows.refreshing thread).mpr processing
      rw [quiet.settled] at refreshing
      contradiction

/-- Once its lists are rebuilt, a key is idle unless it has changed again. -/
theorem Follows.processed
    {thread : Nat}
    {answers : ProcessAnswers}
    (follows : Follows key system watch)
    (here : system.places thread = .processing key)
    (unqueued : watch.queued = false)
    (untaken : watch.taken = none)
    (stepped : step? system (.process thread answers) = some next) :
    Idle key next := by
  obtain ⟨later, handled, followed⟩ := follows.step stepped
  rw [show events key system (.process thread answers) =
    [.refresh thread (key = .addrChange || answers.reads)] from
      if_pos here] at handled
  obtain ⟨middle, refreshed, ended⟩ := run?_cons_eq_some_iff.mp handled
  cases ended
  obtain ⟨-, answered⟩ := Option.ite_none_right_eq_some.mp refreshed
  cases answered
  exact followed.idle_iff.mpr ⟨unqueued, untaken, rfl⟩

/-!
### One request at a time
-/

/--
In every run, whatever fails, the thread that is about to issue the request of a
key finds it neither pending nor completed nor in the hands of another thread:
the `OVERLAPPED` of a key belongs to one request at a time.
-/
theorem request_single_of_run
    {thread : Nat}
    (ran : run? step? (initial catalog) actions = some system)
    (takes : (system.places thread).Takes key) :
    system.armed key = false ∧
      key ∉ system.queue ∧
        ∀ other, (system.places other).Takes key → other = thread := by
  obtain ⟨watch, follows⟩ := follows_of_run key ran
  have taken := (follows.taken thread).mpr takes
  refine ⟨?_, ?_, ?_⟩
  · rw [← follows.armed]
    by_contra armed
    rw [Bool.not_eq_false] at armed
    rw [(follows.single.armed armed).2] at taken
    contradiction
  · intro queued
    have count := List.count_pos_iff.mpr queued
    rw [follows.queued] at count
    split at count
    · rename_i completed
      rw [follows.single.queued completed] at taken
      contradiction
    · contradiction
  · intro other alsoTakes
    have alsoTaken := (follows.taken other).mpr alsoTakes
    rw [taken] at alsoTaken
    exact (Option.some_inj.mp alsoTaken).symm

/-- The thread that took the notification is the only one handling it. -/
theorem request_single_sample :
    ∃ system : Updates,
      system.places 0 = .rearming .providerChange ∧
        ∀ other,
          (system.places other).Takes .providerChange → other = 0 := by
  have ran :
      run? step? (initial []) [.enter 0, .poll 0, .acquire 0] =
        some ({ initial [] with queue := [], lock := some 0 }.put 0
          (.rearming .providerChange)) := by
    simp only [run?_cons_eq_some_iff]
    refine ⟨_, rfl, _, rfl, _, rfl, ?_⟩
    rw [run?_nil, Option.some_inj]
    simp [initial, put]
  exact ⟨_, rfl, (request_single_of_run ran (.inr rfl)).2.2⟩

/-!
### Lists that are up to date
-/

/-- Where the events of a request come from. -/
theorem events_cases
    {event : Event Nat}
    (present : event ∈ events key system action) :
    event = .change ∧ action.Changes key ∨
      (∃ thread, event = .take thread) ∨
      (∃ thread succeeds,
        event = .rearm thread succeeds ∧
          action = .rearm thread succeeds) ∨
      (∃ thread answers,
        event = .refresh thread (key = .addrChange || answers.reads) ∧
          action = .process thread answers) ∨
      event = .renew := by
  cases action with
  | catalogChanges catalog =>
      simp only [events, List.mem_ite_nil_right, List.mem_singleton]
        at present
      exact .inl present.symm
  | addressesChange =>
      simp only [events, List.mem_ite_nil_right, List.mem_singleton]
        at present
      exact .inl present.symm
  | poll thread =>
      simp only [events, List.mem_ite_nil_right, List.mem_singleton]
        at present
      exact .inr (.inl ⟨thread, present.2⟩)
  | rearm thread issued =>
      simp only [events, List.mem_ite_nil_right, List.mem_singleton]
        at present
      exact .inr (.inr (.inl ⟨thread, issued, present.2, rfl⟩))
  | process thread answers =>
      simp only [events] at present
      split at present
      · exact .inr (.inr (.inr (.inl
          ⟨thread, answers, List.mem_singleton.mp present, rfl⟩)))
      · rw [List.mem_ite_nil_right, List.mem_singleton] at present
        exact .inr (.inr (.inr (.inr present.2)))
  | enter | acquire | openAdapter | read | flush | releaseAdapter =>
      contradiction

/-- What succeeds in the system succeeds for the request. -/
theorem succeeds_events
    (succeeds : action.Succeeds) :
    ∀ event ∈ events key system action, event.Succeeds := by
  intro event present
  rcases events_cases present with
    ⟨rfl, -⟩ | ⟨thread, rfl⟩ | ⟨thread, issued, rfl, rfl⟩ |
      ⟨thread, answers, rfl, rfl⟩ | rfl
  · trivial
  · trivial
  · exact succeeds
  · exact Bool.or_eq_true_iff.mpr (.inr succeeds.1)
  · trivial

/-- While everything succeeds, no request loses a change. -/
theorem attentive_of_run
    (key : Notify)
    (succeed : ∀ action ∈ actions, action.Succeeds)
    (ran : run? step? (initial catalog) actions = some system) :
    ∃ watch, Follows key system watch ∧ Attentive watch := by
  have kept
      {state next : Updates}
      {action : UpdateAction}
      (both : ∃ watch, Follows key state watch ∧ Attentive watch)
      (succeeds : action.Succeeds)
      (stepped : step? state action = some next) :
      ∃ watch, Follows key next watch ∧ Attentive watch := by
    obtain ⟨watch, follows, attentive⟩ := both
    obtain ⟨later, handled, follows⟩ := follows.step stepped
    have permitted :
        EveryStep ChangeNotification.step?
          (fun _ event => event.Succeeds) watch
          (events key state action) :=
      everyStep_of_forall_mem
        (fun event present _ => succeeds_events succeeds event present)
        watch
    exact ⟨later, follows,
      invariant_of_everyStep
        (fun attentive succeeds stepped =>
          attentive.step succeeds stepped)
        attentive permitted handled⟩
  exact invariant_of_everyStep kept
    ⟨_, follows_initial key catalog, attentive_initialWatch key⟩
    (everyStep_of_forall_mem
      (fun action present _ => succeed action present) _)
    ran

/--
The lists are sound, and if nothing has changed since the catalog was read, the
active providers are those that it lists.
-/
structure Synced (system : Updates) : Prop where
  sound : system.registry.Sound
  synced :
    system.current .providerChange = true →
    ∀ guid,
      Active system.registry.providerList guid ↔
        Cataloged system.catalog guid

/-- The framework starts with empty lists that are out of date. -/
theorem synced_initial : (initial catalog).Synced where
  sound := Registry.sound_initial
  synced := fun current => by simp [initial] at current

/-- What the catalog lists is obtained if `Init` always succeeds. -/
theorem obtainable_iff
    {init : Nat → Provider.InitAnswers}
    {protocols : List ProtocolInfo}
    {guid : Guid}
    (obtained : ∀ index, ¬ Failed (Provider.init (init index))) :
    Obtainable init protocols 0 guid ↔ Cataloged protocols guid := by
  constructor
  · rintro ⟨entry, present, kind, same, -⟩
    exact ⟨entry.1, List.fst_mem_of_mem_zipIdx present, kind, same⟩
  · rintro ⟨info, present, kind, same⟩
    obtain ⟨index, bound, rfl⟩ := List.getElem_of_mem present
    exact ⟨(protocols[index], index), by
      simpa using List.mk_mem_zipIdx_iff_getElem?.mpr
        (List.getElem?_eq_getElem bound), kind, same, obtained index⟩

/-- One more step whose libraries keep their counts. -/
theorem counts_snoc
    (counts : ∀ action ∈ actions, action.Counts)
    (own : action.Counts) :
    ∀ other ∈ actions ++ [action], other.Counts :=
  List.forall_mem_append.mpr
    ⟨counts, fun _ present => List.mem_singleton.mp present ▸ own⟩

/-- Every step keeps the lists sound. -/
theorem sound_step
    (sound : system.registry.Sound)
    (counts : action.Counts)
    (stepped : step? system action = some next) :
    next.registry.Sound := by
  cases effect_of_step stepped with
  | outdated outdates registry stale =>
      rwa [registry]
  | provider thread answers processes here ran catalog current =>
      subst processes
      have own :
          (answers.action system.catalog .providerChange).Counts :=
        counts
      exact sound.step own ran
  | other catalog current registry =>
      rcases registry with same | ⟨locked, own, -, stepped⟩
      · rwa [same]
      · exact sound.step (own counts) stepped

/-- Every step that succeeds keeps the active providers in step. -/
theorem Synced.step
    (synced : system.Synced)
    (counts : action.Counts)
    (succeeds : action.Succeeds)
    (stepped : step? system action = some next) :
    next.Synced := by
  refine ⟨sound_step synced.sound counts stepped, ?_⟩
  intro upToDate guid
  cases effect_of_step stepped with
  | outdated outdates registry stale =>
      rw [stale] at upToDate
      contradiction
  | provider thread answers processes here ran catalog current =>
      subst processes
      obtain ⟨reads, obtained⟩ := succeeds
      simp only [ProcessAnswers.reads, Bool.and_eq_true] at reads
      have read := synced.sound.catalog_synced counts
        ⟨reads.1.1, reads.1.2, if_pos reads.2⟩ ran
      rw [read.1 guid, obtainable_iff obtained, catalog]
      exact or_iff_right_of_imp And.left
  | other catalog current registry =>
      have same :
          Active next.registry.providerList guid ↔
            Active system.registry.providerList guid := by
        rcases registry with same | ⟨locked, own, other, stepped⟩
        · rw [same]
        · exact synced.sound.active_step (own counts) other stepped
      rw [same, catalog]
      exact synced.synced (current ▸ upToDate) guid

/--
In every run whose requests, catalog reads and `Init` calls succeed, nothing has
changed since the lists of an idle key were built.  So while no change of the
catalog is being handled, the active providers are exactly its network direct
entries, however many threads have handled how many changes.
-/
theorem lists_current_of_run
    (counts : ∀ action ∈ actions, action.Counts)
    (succeed : ∀ action ∈ actions, action.Succeeds)
    (ran : run? step? (initial catalog) actions = some system) :
    (∀ key, Idle key system → system.current key = true) ∧
      (Idle .providerChange system →
        ∀ guid,
          Active system.registry.providerList guid ↔
            Cataloged system.catalog guid) := by
  have current (key : Notify) (idle : Idle key system) :
      system.current key = true := by
    obtain ⟨watch, follows, attentive⟩ :=
      attentive_of_run key succeed ran
    rw [← follows.current]
    exact attentive.current_of_quiet (follows.idle_iff.mp idle)
  have synced : system.Synced :=
    invariant_of_everyStep
      (fun synced both stepped => synced.step both.1 both.2 stepped)
      synced_initial
      (everyStep_of_forall_mem
        (fun action present _ =>
          And.intro (counts action present) (succeed action present))
        (initial catalog))
      ran
  exact ⟨current, fun idle => synced.synced (current _ idle)⟩

/-- A thread dequeues the first completion and issues the next request. -/
def sampleHandling (succeeds : Bool) : List UpdateAction := [
  .enter 0, .poll 0, .acquire 0, .rearm 0 succeeds
]

/-- The state in which it rebuilds the lists. -/
def handling (catalog : List ProtocolInfo) (succeeds : Bool) : Updates where
  catalog
  armed :=
    Function.update (fun key => key = .addrChange) .providerChange succeeds
  queue := []
  lock := some 0
  places :=
    Function.update (fun _ => .outside) 0 (.processing .providerChange)
  registry := .initial
  current := fun key => key = .addrChange

/-- The handling of the first notification can be taken. -/
theorem ran_sampleHandling
    (catalog : List ProtocolInfo)
    (succeeds : Bool) :
    run? step? (initial catalog) (sampleHandling succeeds) =
      some (handling catalog succeeds) := by
  simp only [sampleHandling, run?_cons_eq_some_iff]
  refine ⟨_, rfl, _, rfl, _, rfl, _, rfl, ?_⟩
  rw [run?_nil, Option.some_inj]
  simp [handling, initial, put]

/-- None of its steps calls a library. -/
theorem counts_sampleHandling {succeeds : Bool} :
    ∀ action ∈ sampleHandling succeeds, action.Counts := by
  intro action present
  simp only [sampleHandling, List.mem_cons, List.not_mem_nil, or_false]
    at present
  rcases present with rfl | rfl | rfl | rfl <;> trivial

/-- Rebuilding the lists leaves the key idle. -/
theorem idle_handling
    {succeeds : Bool}
    {answers : ProcessAnswers}
    (stepped :
      step? (handling catalog succeeds) (.process 0 answers) =
        some next) :
    Idle .providerChange next ∧
      next.armed .providerChange = succeeds ∧
        next.catalog = catalog := by
  obtain ⟨registry, -, answered⟩ := Option.bind_eq_some_iff.mp stepped
  cases answered
  have outside (thread : Nat) :
      (Function.update (handling catalog succeeds).places 0
        .polling) thread = .polling ∨
      (Function.update (handling catalog succeeds).places 0
        .polling) thread = .outside := by
    by_cases same : thread = 0
    · simp [same]
    · simp [same, handling]
  refine ⟨⟨List.not_mem_nil, ?_, ?_⟩, by simp [put, handling], rfl⟩
  · intro thread takes
    rcases outside thread with here | here
    · exact absurd takes (by simp [put, here, UpdatePlace.Takes])
    · exact absurd takes (by simp [put, here, UpdatePlace.Takes])
  · intro thread processing
    rcases outside thread with here | here
    · simp [put, here] at processing
    · simp [put, here] at processing

/-- A catalog that is read, with providers that report one address. -/
def readsCatalog (enumerated : Bool) : ProcessAnswers where
  sizeReported := true
  allocated := true
  enumerated
  init := fun _ => Registry.pathFound
  scan := fun _ => Registry.reportsOne
  canUnloadNow := Provider.countingLibrary

/-- The libraries of the rebuild count their references. -/
theorem counts_readsCatalog
    {thread : Nat}
    {enumerated : Bool} :
    (UpdateAction.process thread (readsCatalog enumerated)).Counts :=
  ⟨fun _ => Registry.counts_reportsOne, Provider.counts_countingLibrary⟩

/-- After the rebuild the active providers are those of the catalog. -/
theorem lists_current_sample :
    ∃ system : Updates,
      Active system.registry.providerList 7 ∧
        ¬ Active system.registry.providerList 6 := by
  have enabled :
      (step? (handling [Registry.entryOfVersion2 7] true)
        (.process 0 (readsCatalog true))).isSome := by
    decide +kernel
  obtain ⟨system, stepped⟩ := Option.isSome_iff_exists.mp enabled
  have obtained : ¬ Failed (Provider.init Registry.pathFound) := by
    decide
  have succeed :
      ∀ action ∈
          sampleHandling true ++ [.process 0 (readsCatalog true)],
        action.Succeeds := by
    intro action present
    simp only [sampleHandling, List.cons_append, List.nil_append,
      List.mem_cons, List.not_mem_nil, or_false] at present
    rcases present with rfl | rfl | rfl | rfl | rfl
    · trivial
    · trivial
    · trivial
    · exact rfl
    · exact ⟨rfl, fun _ => obtained⟩
  obtain ⟨idle, -, catalog⟩ := idle_handling stepped
  have current :=
    (lists_current_of_run
      (counts_snoc counts_sampleHandling counts_readsCatalog) succeed
      (run?_snoc (ran_sampleHandling _ _) stepped)).2 idle
  rw [catalog] at current
  refine ⟨system, (current 7).mpr ?_, fun active => ?_⟩
  · exact ⟨_, List.mem_singleton_self _, by decide, rfl⟩
  · obtain ⟨info, present, -, guid⟩ := (current 6).mp active
    rw [List.mem_singleton.mp present] at guid
    exact absurd guid (by decide)

/-!
### Calls that fail
-/

/--
What a run that handles no change of a key leaves as it was: the key is idle,
and if it stands for the catalog the active providers are the same.
-/
structure Rests (key : Notify) (start system : Updates) : Prop where
  sound : system.registry.Sound
  followed : ∃ watch, Follows key system watch
  idle : Idle key system
  active :
    key = .providerChange →
    ∀ guid,
      Active system.registry.providerList guid ↔
        Active start.registry.providerList guid

/-- An idle key rests until a change completes its request. -/
theorem Rests.step
    {start : Updates}
    (rests : Rests key start system)
    (counts : action.Counts)
    (unheard : ¬ action.Changes key ∨ system.armed key = false)
    (stepped : step? system action = some next) :
    Rests key start next ∧
      (system.armed key = false → next.armed key = false) := by
  obtain ⟨watch, follows⟩ := rests.followed
  obtain ⟨later, handled, followed⟩ := follows.step stepped
  have unchanged (silent : ¬ action.Changes key) :
      ∀ event ∈ events key system action, event ≠ .change := by
    rintro event present rfl
    rcases events_cases present with
      ⟨-, changes⟩ | ⟨_, impossible⟩ | ⟨_, _, impossible, -⟩ |
        ⟨_, _, impossible, -⟩ | impossible
    · exact silent changes
    all_goals contradiction
  rw [← follows.armed] at unheard ⊢
  obtain ⟨quiet, disarmed⟩ :=
    (follows.idle_iff.mp rests.idle).run (unheard.imp_left unchanged)
      handled
  rw [← followed.armed]
  refine ⟨{
    sound := sound_step rests.sound counts stepped
    followed := ⟨later, followed⟩
    idle := followed.idle_iff.mpr quiet
    active := ?_
  }, disarmed⟩
  rintro rfl guid
  rw [← rests.active rfl guid]
  cases effect_of_step stepped with
  | outdated outdates registry stale =>
      rw [registry]
  | provider thread answers processes here ran catalog current =>
      exact absurd here (rests.idle.settled thread)
  | other catalog current registry =>
      rcases registry with same | ⟨locked, own, other, stepped⟩
      · rw [same]
      · exact rests.sound.active_step (own counts) other stepped

/-- The lists are sound in every reachable state. -/
theorem soundRegistry_of_run
    (counts : ∀ action ∈ actions, action.Counts)
    (ran : run? step? (initial catalog) actions = some system) :
    system.registry.Sound :=
  invariant_of_everyStep
    (fun sound counts stepped => sound_step sound counts stepped)
    Registry.sound_initial
    (everyStep_of_forall_mem
      (fun action present _ => counts action present)
      (initial catalog))
    ran

/-- A reachable idle state rests. -/
theorem rests_of_run
    (counts : ∀ action ∈ actions, action.Counts)
    (ran : run? step? (initial catalog) actions = some system)
    (idle : Idle key system) :
    Rests key system system where
  sound := soundRegistry_of_run counts ran
  followed := follows_of_run key ran
  idle := idle
  active := fun _ _ => Iff.rfl

/--
Whatever still changes, once no request of a key is left, its changes are never
handled again: `ProcessUpdates` does not repeat a request that has failed.  If
the key stands for the catalog, the active providers are fixed from then on.
-/
theorem lost_request_of_run
    {trailing : List UpdateAction}
    {final : Updates}
    (counts : ∀ action ∈ actions ++ trailing, action.Counts)
    (ran : run? step? (initial catalog) actions = some system)
    (idle : Idle key system)
    (disarmed : system.armed key = false)
    (later : run? step? system trailing = some final) :
    Idle key final ∧
      final.armed key = false ∧
        (key = .providerChange →
          ∀ guid,
            Active final.registry.providerList guid ↔
              Active system.registry.providerList guid) := by
  obtain ⟨before, after⟩ := List.forall_mem_append.mp counts
  obtain ⟨rests, stays⟩ :=
    @invariant_of_everyStep _ _ step? (fun _ action => action.Counts)
      (fun state => Rests key system state ∧ state.armed key = false)
      (fun both own stepped =>
        have kept := both.1.step own (.inr both.2) stepped
        ⟨kept.1, kept.2 both.2⟩)
      _ _ _ ⟨rests_of_run before ran idle, disarmed⟩
      (everyStep_of_forall_mem
        (fun action present _ => after action present) system)
      later
  exact ⟨rests.idle, stays, rests.active⟩

/-- After a refused request a new provider in the catalog goes unnoticed. -/
theorem lost_request_sample :
    ∃ system later : Updates,
      later.catalog = [Registry.entryOfVersion2 7] ∧
        later.armed .providerChange = false ∧
        ∀ guid,
          Active later.registry.providerList guid ↔
            Active system.registry.providerList guid := by
  have enabled :
      (step? (handling [] false)
        (.process 0 (readsCatalog true))).isSome := by
    decide +kernel
  obtain ⟨system, stepped⟩ := Option.isSome_iff_exists.mp enabled
  obtain ⟨idle, disarmed, -⟩ := idle_handling stepped
  have counts :
      ∀ action ∈
          (sampleHandling false ++ [.process 0 (readsCatalog true)]) ++
            [.catalogChanges [Registry.entryOfVersion2 7]],
        action.Counts :=
    counts_snoc (counts_snoc counts_sampleHandling counts_readsCatalog)
      trivial
  obtain ⟨-, stays, active⟩ :=
    lost_request_of_run counts
      (run?_snoc (ran_sampleHandling _ _) stepped) idle disarmed rfl
  exact ⟨system, _, rfl, stays, active rfl⟩

/--
A catalog that could not be read is not read again before it changes: until
then every caller sees the providers of before.
-/
theorem unread_until_change_of_run
    {thread : Nat}
    {answers : ProcessAnswers}
    {trailing : List UpdateAction}
    {failed final : Updates}
    (counts : ∀ action ∈ actions, action.Counts)
    (ran : run? step? (initial catalog) actions = some system)
    (armed : system.armed .providerChange = true)
    (own : (UpdateAction.process thread answers).Counts)
    (here : system.places thread = .processing .providerChange)
    (unread : answers.reads = false)
    (stepped : step? system (.process thread answers) = some failed)
    (afterwards : ∀ action ∈ trailing, action.Counts)
    (unchanged :
      ∀ action ∈ trailing, ¬ action.Changes .providerChange)
    (later : run? step? failed trailing = some final) :
    ∀ guid,
      Active final.registry.providerList guid ↔
        Active system.registry.providerList guid := by
  obtain ⟨watch, follows⟩ := follows_of_run .providerChange ran
  obtain ⟨unqueued, untaken⟩ :=
    follows.single.armed (follows.armed.trans armed)
  have idle := follows.processed here unqueued untaken stepped
  have sound := soundRegistry_of_run counts ran
  have rests :=
    rests_of_run (counts_snoc counts own) (run?_snoc ran stepped) idle
  have both :
      ∀ action ∈ trailing,
        action.Counts ∧ ¬ action.Changes .providerChange :=
    fun action present =>
      ⟨afterwards action present, unchanged action present⟩
  have rested :=
    invariant_of_everyStep
      (fun rests both stepped =>
        (Rests.step rests both.1 (.inl both.2) stepped).1)
      rests
      (everyStep_of_forall_mem
        (fun action present _ => both action present) failed)
      later
  intro guid
  rw [rested.active rfl guid]
  simp only [step?, here] at stepped
  obtain ⟨registry, processed, answered⟩ :=
    Option.bind_eq_some_iff.mp stepped
  cases answered
  refine sound.active_unread own.2 ?_ processed
  simp only [ProcessAnswers.reads, Bool.and_eq_false_iff] at unread
  rcases unread with (unsized | unallocated) | unlisted
  · exact .inl unsized
  · exact .inr (.inl unallocated)
  · exact .inr (.inr (if_neg (by rw [unlisted]; decide)))

/-- A provider of an unread catalog stays unknown. -/
theorem unread_until_change_sample :
    ∃ final : Updates,
      final.catalog = [Registry.entryOfVersion2 7] ∧
        ¬ Active final.registry.providerList 7 := by
  have enabled :
      (step? (handling [Registry.entryOfVersion2 7] true)
        (.process 0 (readsCatalog false))).isSome := by
    decide +kernel
  obtain ⟨failed, stepped⟩ := Option.isSome_iff_exists.mp enabled
  obtain ⟨-, -, catalog⟩ := idle_handling stepped
  have empty :=
    unread_until_change_of_run
      counts_sampleHandling
      (ran_sampleHandling [Registry.entryOfVersion2 7] true)
      rfl counts_readsCatalog rfl rfl stepped
      (fun action present => by
        rw [List.mem_singleton.mp present]
        trivial)
      (fun action present => by
        rw [List.mem_singleton.mp present]
        exact Notify.noConfusion)
      (rfl : run? step? failed [.addressesChange] = some _)
  refine ⟨failed.change .addrChange, catalog, fun active => ?_⟩
  obtain ⟨provider, present, -⟩ := (empty 7).mp active
  contradiction

end Requests

end Updates

end GameCapturer.Framework
