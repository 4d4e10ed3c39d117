import GameCapturer.Foundation.SpinLock
import GameCapturer.Foundation.StepFunction
import GameCapturer.Framework.Provider

namespace GameCapturer.Framework

open Foundation Foundation.StepFunction Foundation.SpinLock

/-!
# Starting and closing the framework

`NdStartup` and `NdCleanup` share a spin lock, but the other functions of the
library read `gpFramework` without it.  The model interleaves the accesses of
any number of clients to the globals one by one.
-/

/-- What `Framework::Init` gets from the system. -/
structure FrameworkInit where
  wsaStartup : UInt32
  createIocp : Bool
  createSocket : Bool
  bindSocket : Bool
  providerChange : Bool
  bindProviderChange : Bool
  addressListChange : Bool
  post : Bool
  lastError : UInt32
  deriving Repr, DecidableEq

/--
`Framework::Init`: the status, whether `WSAStartup` succeeded, and how many of
the completion port, the socket and the change handle are open.
-/
def FrameworkInit.run (answers : FrameworkInit) : HResult × Bool × Nat :=
  let failed := hresultFromWin32 answers.lastError
  if answers.wsaStartup ≠ 0 then
    (hresultFromWin32 answers.wsaStartup, false, 0)
  else if !answers.createIocp then
    (failed, true, 0)
  else if !answers.createSocket then
    (failed, true, 1)
  else if !answers.bindSocket then
    (failed, true, 2)
  else if !answers.providerChange then
    (failed, true, 2)
  else if !answers.bindProviderChange then
    (failed, true, 3)
  else if !answers.addressListChange then
    (failed, true, 3)
  else if !answers.post then
    (failed, true, 3)
  else
    (ndSuccess, true, 3)

/-- `Init` succeeds only after `WSAStartup` has. -/
theorem FrameworkInit.winsock_of_success
    {answers : FrameworkInit}
    (success : ¬ Failed answers.run.1) :
    answers.run.2.1 = true := by
  unfold run at success ⊢
  split
  · rename_i refused
    rw [if_pos refused] at success
    exact absurd (Provider.failed_hresultFromWin32 refused) success
  · (repeat' split) <;> rfl

/-- A `Framework` object that has not been deleted. -/
structure FrameworkObject where
  initialised : Bool
  nRef : UInt32
  handles : Nat
  deriving Repr, DecidableEq

/-- A caller of the library. -/
abbrev Client := Nat

/-- The two functions that take the spin lock. -/
inductive Entry where
  | startup
  | cleanup
  deriving Repr, DecidableEq

/-- The next access of a client to the globals. -/
inductive Place where
  | idle
  | spin (entry : Entry)
  | test (entry : Entry)
  | createHeap
  | allocate
  | init
  | addRef
  | release
  | forget (status : HResult)
  | destroyHeap (status : HResult)
  | unlock (status : HResult)
  | check
  | load
  | inside (object : Nat)
  deriving Repr, DecidableEq

/-- The places between taking and giving back the spin lock. -/
def Place.Owns : Place → Prop
  | idle | spin _ | check | load | inside _ => False
  | _ => True

instance : DecidablePred Place.Owns := fun place => by
  cases place <;> unfold Place.Owns <;> infer_instance

/--
The globals besides the lock.  `heaps`, `frameworks` and `handles` are what is
live, `winsock` counts the `WSAStartup` calls not undone, and `holders` lists,
for every reference on the framework, the client that started it.
-/
structure Shared where
  ghHeap : Option Nat
  gpFramework : Option Nat
  heaps : List Nat
  frameworks : Nat → Option FrameworkObject
  nextHandle : Nat
  handles : Nat
  winsock : Nat
  holders : List Client

/-- The answers of the system to one access. -/
structure Answer where
  succeeds : Bool
  lastError : UInt32
  init : FrameworkInit
  deriving Repr, DecidableEq

/-- An access inside the spin lock; following a dangling pointer is `none`. -/
def critical?
    (client : Client)
    (answer : Answer) :
    Place → Shared → Option (Place × Shared)
  | .test .startup, shared =>
      if shared.gpFramework.isNone then
        some (.createHeap, shared)
      else
        some (.addRef, shared)
  | .test .cleanup, shared =>
      if shared.gpFramework.isNone then
        some (.unlock ndDeviceNotReady, shared)
      else
        some (.release, shared)
  | .createHeap, shared =>
      if answer.succeeds then
        some (.allocate, {
          shared with
          ghHeap := some shared.nextHandle
          heaps := shared.nextHandle :: shared.heaps
          nextHandle := shared.nextHandle + 1
        })
      else
        some (.unlock (hresultFromWin32 answer.lastError),
          { shared with ghHeap := none })
  | .allocate, shared =>
      if answer.succeeds then
        some (.init, {
          shared with
          gpFramework := some shared.nextHandle
          frameworks :=
            Function.update shared.frameworks shared.nextHandle
              (some { initialised := false, nRef := 0, handles := 0 })
          nextHandle := shared.nextHandle + 1
        })
      else
        some (.destroyHeap ndNoMemory, { shared with gpFramework := none })
  | .init, shared => do
      let object ← shared.gpFramework
      let framework ← shared.frameworks object
      let (status, winsock, handles) := answer.init.run
      let winsock := shared.winsock + winsock.toNat
      if Failed status then
        -- `delete(gpFramework)` closes what `Init` opened.
        return (.forget status, {
          shared with
          frameworks := Function.update shared.frameworks object none
          winsock
        })
      else
        return (.addRef, {
          shared with
          frameworks :=
            Function.update shared.frameworks object
              (some { framework with initialised := true, handles })
          handles := shared.handles + handles
          winsock
        })
  | .addRef, shared => do
      let object ← shared.gpFramework
      let framework ← shared.frameworks object
      return (.unlock ndSuccess, {
        shared with
        frameworks :=
          Function.update shared.frameworks object
            (some { framework with nRef := framework.nRef + 1 })
        holders := client :: shared.holders
      })
  | .release, shared => do
      let object ← shared.gpFramework
      let framework ← shared.frameworks object
      let nRef := framework.nRef - 1
      let holders :=
        if client ∈ shared.holders then
          shared.holders.erase client
        else
          shared.holders.tail
      if nRef = 0 then
        -- `delete this`
        return (.forget ndSuccess, {
          shared with
          frameworks := Function.update shared.frameworks object none
          handles := shared.handles - framework.handles
          holders
        })
      else
        return (.unlock ndSuccess, {
          shared with
          frameworks :=
            Function.update shared.frameworks object
              (some { framework with nRef })
          holders
        })
  | .forget status, shared =>
      some (.destroyHeap status, { shared with gpFramework := none })
  | .destroyHeap status, shared => do
      let heap ← shared.ghHeap
      return (.unlock status, {
        shared with
        ghHeap := none
        heaps := shared.heaps.erase heap
      })
  | _, _ => none

/-- The lock, the other globals and where every client is. -/
structure Runtime where
  gInitializing : Int32
  shared : Shared
  places : Client → Place

namespace Runtime

/-- Nothing has been started. -/
def initial : Runtime where
  gInitializing := 0
  shared := {
    ghHeap := none
    gpFramework := none
    heaps := []
    frameworks := fun _ => none
    nextHandle := 0
    handles := 0
    winsock := 0
    holders := []
  }
  places := fun _ => .idle

/-- A framework object that a call may use. -/
def Usable (shared : Shared) (object : Nat) : Prop :=
  (∃ framework,
      shared.frameworks object = some framework ∧
        framework.initialised = true) ∧
    ∃ heap ∈ shared.heaps, shared.ghHeap = some heap

/-- A call of a client, or its next access. -/
inductive Move where
  | enter (entry : Entry)
  | call (checked : Bool)
  | access (answer : Answer)
  | finish
  deriving Repr, DecidableEq

/-- A move of a client. -/
structure Action where
  client : Client
  move : Move
  deriving Repr, DecidableEq

/-- Put a client at its next access. -/
def put (state : Runtime) (client : Client) (place : Place) : Runtime :=
  { state with places := Function.update state.places client place }

/-- The next access of a client. -/
def access? (state : Runtime) (client : Client) (answer : Answer) :
    Option Runtime :=
  match state.places client with
  | .idle | .inside _ => none
  | .spin entry =>
      if state.gInitializing = 1 then
        some state
      else
        some ({
          state with
          gInitializing := compareExchange state.gInitializing 1 0
        }.put client (.test entry))
  | .unlock _ =>
      some ({
        state with gInitializing := state.gInitializing - 1
      }.put client .idle)
  | .check =>
      if state.shared.gpFramework.isNone then
        some (state.put client .idle)
      else
        some (state.put client .load)
  | .load =>
      state.shared.gpFramework.map fun object =>
        state.put client (.inside object)
  | place => do
      let (next, shared) ← critical? client answer place state.shared
      return { state with shared }.put client next

/--
Every client calls the functions one after the other.  `NdOpenV1Adapter` does
not check the pointer before it loads it.
-/
def step? : StepFunction Runtime Action
  | state, ⟨client, .enter entry⟩ =>
      if state.places client = .idle then
        some (state.put client (.spin entry))
      else
        none
  | state, ⟨client, .call checked⟩ =>
      if state.places client = .idle then
        some (state.put client (if checked then .check else .load))
      else
        none
  | state, ⟨client, .access answer⟩ =>
      state.access? client answer
  | state, ⟨client, .finish⟩ =>
      match state.places client with
      | .inside _ => some (state.put client .idle)
      | _ => none

/-- A client is about to use a framework that is null, gone or not ready. -/
def Faults (state : Runtime) (client : Client) : Prop :=
  (state.places client = .load ∧ state.shared.gpFramework = none) ∨
    ∃ object,
      state.places client = .inside object ∧
        ¬ Usable state.shared object

end Runtime

/-!
### The globals at each access
-/

/-- No object is live. -/
def noFrameworks : Nat → Option FrameworkObject := fun _ => none

/-- Nothing is started. -/
structure Closed (shared : Shared) : Prop where
  ghHeap : shared.ghHeap = none
  gpFramework : shared.gpFramework = none
  heaps : shared.heaps = []
  frameworks : shared.frameworks = noFrameworks
  handles : shared.handles = 0
  holders : shared.holders = []

/-- Only the heap is live. -/
structure HeapOnly (shared : Shared) : Prop where
  gpFramework : shared.gpFramework = none
  heap : ∃ heap, shared.ghHeap = some heap ∧ shared.heaps = [heap]
  frameworks : shared.frameworks = noFrameworks
  handles : shared.handles = 0
  holders : shared.holders = []

/-- The heap and one object are live, and the globals point to them. -/
structure Single (shared : Shared) (framework : FrameworkObject) :
    Prop where
  heap : ∃ heap, shared.ghHeap = some heap ∧ shared.heaps = [heap]
  frameworks :
    ∃ object,
      shared.gpFramework = some object ∧
        shared.frameworks =
          Function.update noFrameworks object (some framework)
  handles : shared.handles = framework.handles
  nRef : framework.nRef.toNat = shared.holders.length

/-- An initialised framework with a reference for every holder. -/
def Running (shared : Shared) : Prop :=
  ∃ framework,
    Single shared framework ∧
      framework.initialised = true ∧
      0 < shared.winsock

/-- The state that the lock protects: closed, or running and held. -/
def Settled (shared : Shared) : Prop :=
  Closed shared ∨ Running shared ∧ shared.holders ≠ []

/-- A pointer is left to an object that has been deleted. -/
structure Deleted (shared : Shared) : Prop where
  gpFramework : shared.gpFramework ≠ none
  heap : ∃ heap, shared.ghHeap = some heap ∧ shared.heaps = [heap]
  frameworks : shared.frameworks = noFrameworks
  handles : shared.handles = 0
  holders : shared.holders = []

/-- What the owner of the lock finds at its next access. -/
def Expected : Place → Shared → Prop
  | .test _, shared => Settled shared
  | .createHeap, shared => Closed shared
  | .allocate, shared => HeapOnly shared
  | .init, shared =>
      Single shared { initialised := false, nRef := 0, handles := 0 }
  | .addRef, shared => Running shared
  | .release, shared => Running shared ∧ shared.holders ≠ []
  | .forget _, shared => Deleted shared
  | .destroyHeap _, shared => HeapOnly shared
  | .unlock _, shared => Settled shared
  | _, _ => False

/-- The places that only a client with a reference should come to. -/
def Place.Relies : Place → Prop
  | .spin .cleanup | .test .cleanup | .release => True
  | .check | .load | .inside _ => True
  | _ => False

/-- The holders after an access: two of them count references. -/
def heldAfter (client : Client) : Place → List Client → List Client
  | .addRef, holders => client :: holders
  | .release, holders =>
      if client ∈ holders then holders.erase client else holders.tail
  | _, holders => holders

/-- How many accesses the owner of the lock may still need. -/
def Place.remaining : Place → Nat
  | .test _ => 8
  | .createHeap => 7
  | .allocate => 6
  | .init | .release => 5
  | .forget _ => 3
  | .addRef | .destroyHeap _ => 2
  | .unlock _ => 1
  | .idle | .spin _ | .check | .load | .inside _ => 0

/-- What one access inside the lock leaves. -/
structure Kept
    (client : Client)
    (place : Place)
    (shared : Shared)
    (next : Place)
    (later : Shared) : Prop where
  owns : next.Owns
  expected : Expected next later
  pointer : shared.holders ≠ [] → later.gpFramework = shared.gpFramework
  winsock : shared.winsock ≤ later.winsock
  holders : later.holders = heldAfter client place shared.holders
  relies : next.Relies → place = .test .cleanup
  progress : next.remaining < place.remaining

section Critical

variable
  {client : Client}
  {answer : Answer}
  {place : Place}
  {shared : Shared}

/-- Deleting the only object leaves none. -/
theorem update_only (object : Nat) (framework : FrameworkObject) :
    Function.update
        (Function.update noFrameworks object (some framework))
        object none =
      noFrameworks := by
  rw [Function.update_idem]
  exact Function.update_eq_self object noFrameworks

/-- The reference count of one more holder. -/
theorem toNat_add_one
    {nRef : UInt32}
    {count : Nat}
    (counted : nRef.toNat = count)
    (room : count + 1 < 2 ^ 32) :
    (nRef + 1).toNat = count + 1 := by
  rw [UInt32.toNat_add, counted]
  exact Nat.mod_eq_of_lt room

/-- The reference count of one holder less. -/
theorem toNat_sub_one
    {nRef : UInt32}
    {count : Nat}
    (counted : nRef.toNat = count + 1) :
    (nRef - 1).toNat = count := by
  have one : (1 : UInt32) ≤ nRef := by
    rw [UInt32.le_iff_toNat_le, counted]
    exact Nat.le_add_left 1 count
  rw [UInt32.toNat_sub_of_le _ _ one, counted]
  rfl

/-- Removing a client from the holders removes one entry. -/
theorem length_removed
    {holders : List Client}
    (nonempty : holders ≠ []) :
    (if client ∈ holders then
        holders.erase client
      else
        holders.tail).length + 1 =
      holders.length := by
  have positive := List.length_pos_iff.mpr nonempty
  split
  · rename_i present
    rw [List.length_erase_of_mem present]
    exact Nat.sub_add_cancel positive
  · rw [List.length_tail]
    exact Nat.sub_add_cancel positive

/-- The first reference needs the whole startup. -/
theorem critical?_test
    {entry : Entry}
    (expected : Expected (.test entry) shared) :
    ∃ next later,
      critical? client answer (.test entry) shared =
          some (next, later) ∧
        Kept client (.test entry) shared next later := by
  rcases expected with closed | ⟨running, held⟩
  · have none : shared.gpFramework.isNone = true := by
      rw [closed.gpFramework]
      rfl
    cases entry with
    | startup =>
        exact ⟨_, _, if_pos none,
          ⟨trivial, closed, fun _ => rfl, Nat.le_refl _, rfl, False.elim,
        by simp [Place.remaining]⟩⟩
    | cleanup =>
        exact ⟨_, _, if_pos none,
          ⟨trivial, .inl closed, fun _ => rfl, Nat.le_refl _, rfl,
            False.elim,
        by simp [Place.remaining]⟩⟩
  · obtain ⟨framework, single, ready⟩ := running
    obtain ⟨object, pointer, -⟩ := single.frameworks
    have some_ : ¬ shared.gpFramework.isNone = true := by
      rw [pointer]
      exact Bool.false_ne_true
    cases entry with
    | startup =>
        exact ⟨_, _, if_neg some_,
          ⟨trivial, ⟨framework, single, ready⟩, fun _ => rfl,
            Nat.le_refl _, rfl, False.elim,
        by simp [Place.remaining]⟩⟩
    | cleanup =>
        exact ⟨_, _, if_neg some_,
          ⟨trivial, ⟨⟨framework, single, ready⟩, held⟩, fun _ => rfl,
            Nat.le_refl _, rfl, fun _ => rfl,
            by simp [Place.remaining]⟩⟩

/-- Creating the heap and the object either goes on or gives up. -/
theorem critical?_create
    (expected :
      place = .createHeap ∧ Closed shared ∨
        place = .allocate ∧ HeapOnly shared) :
    ∃ next later,
      critical? client answer place shared = some (next, later) ∧
        Kept client place shared next later := by
  rcases expected with ⟨rfl, closed⟩ | ⟨rfl, only⟩
  · have unheld {proposition : Prop} (held : shared.holders ≠ []) :
        proposition :=
      absurd closed.holders held
    by_cases created : answer.succeeds = true
    · refine ⟨_, _, if_pos created, trivial, ?_, unheld, Nat.le_refl _,
        rfl, False.elim,
        by simp [Place.remaining]⟩
      exact {
        gpFramework := closed.gpFramework
        heap := ⟨_, rfl, by rw [closed.heaps]⟩
        frameworks := closed.frameworks
        handles := closed.handles
        holders := closed.holders
      }
    · refine ⟨_, _, if_neg created, trivial, .inl ?_, unheld,
        Nat.le_refl _, rfl, False.elim,
        by simp [Place.remaining]⟩
      exact { closed with ghHeap := rfl }
  · have unheld {proposition : Prop} (held : shared.holders ≠ []) :
        proposition :=
      absurd only.holders held
    by_cases allocated : answer.succeeds = true
    · refine ⟨_, _, if_pos allocated, trivial, ?_, unheld,
        Nat.le_refl _, rfl, False.elim,
        by simp [Place.remaining]⟩
      exact {
        heap := only.heap
        frameworks := ⟨_, rfl, by rw [only.frameworks]⟩
        handles := only.handles
        nRef := by
          rw [only.holders]
          rfl
      }
    · refine ⟨_, _, if_neg allocated, trivial, ?_, unheld,
        Nat.le_refl _, rfl, False.elim,
        by simp [Place.remaining]⟩
      exact { only with gpFramework := rfl }

/-- A failed `Init` takes back the object with everything it opened. -/
theorem critical?_init
    (expected : Expected .init shared) :
    ∃ next later,
      critical? client answer .init shared = some (next, later) ∧
        Kept client .init shared next later := by
  have single : Single shared ⟨false, 0, 0⟩ := expected
  obtain ⟨object, pointer, only⟩ := single.frameworks
  have found : shared.frameworks object = some ⟨false, 0, 0⟩ := by
    rw [only, Function.update_self]
  have empty : shared.holders = [] :=
    List.length_eq_zero_iff.mp single.nRef.symm
  have unheld {proposition : Prop} (held : shared.holders ≠ []) :
      proposition :=
    absurd empty held
  simp only [critical?, pointer, found, Option.bind_eq_bind,
    Option.bind_some]
  split
  · refine ⟨_, _, rfl, trivial, ?_, unheld, Nat.le_add_right _ _, rfl,
      False.elim,
        by simp [Place.remaining]⟩
    exact {
      gpFramework := Option.some_ne_none object
      heap := single.heap
      frameworks := by
        rw [only]
        exact update_only object _
      handles := single.handles
      holders := empty
    }
  · rename_i success
    refine ⟨_, _, rfl, trivial, ?_, unheld, Nat.le_add_right _ _, rfl,
      False.elim,
        by simp [Place.remaining]⟩
    refine ⟨⟨true, 0, answer.init.run.2.2⟩, ?_, rfl, ?_⟩
    · exact {
        heap := single.heap
        frameworks := ⟨object, rfl, by rw [only, Function.update_idem]⟩
        handles := by simp [single.handles]
        nRef := single.nRef
      }
    · rw [FrameworkInit.winsock_of_success success]
      exact Nat.lt_of_lt_of_le Nat.one_pos (Nat.le_add_left 1 _)

/-- Counting a reference keeps the framework running. -/
theorem critical?_addRef
    (room : shared.holders.length + 1 < 2 ^ 32)
    (expected : Expected .addRef shared) :
    ∃ next later,
      critical? client answer .addRef shared = some (next, later) ∧
        Kept client .addRef shared next later := by
  obtain ⟨framework, single, ready⟩ := expected
  obtain ⟨object, pointer, only⟩ := single.frameworks
  have found : shared.frameworks object = some framework := by
    rw [only, Function.update_self]
  simp only [critical?, pointer, found, Option.bind_eq_bind,
    Option.bind_some]
  refine ⟨_, _, rfl, ⟨trivial, .inr
    ⟨⟨{ framework with nRef := framework.nRef + 1 }, ?_, ready⟩, ?_⟩,
    fun _ => pointer.symm, Nat.le_refl _, rfl, False.elim,
        by simp [Place.remaining]⟩⟩
  · exact {
      heap := single.heap
      frameworks := ⟨object, rfl, by rw [only, Function.update_idem]⟩
      handles := single.handles
      nRef := toNat_add_one single.nRef room
    }
  · exact List.cons_ne_nil _ _

/-- The last release deletes the object, any other keeps it running. -/
theorem critical?_release
    (expected : Expected .release shared) :
    ∃ next later,
      critical? client answer .release shared = some (next, later) ∧
        Kept client .release shared next later := by
  obtain ⟨⟨framework, single, ready⟩, held⟩ := expected
  obtain ⟨object, pointer, only⟩ := single.frameworks
  have found : shared.frameworks object = some framework := by
    rw [only, Function.update_self]
  have removed := @length_removed client shared.holders held
  have counted := toNat_sub_one (single.nRef.trans removed.symm)
  simp only [critical?, pointer, found, Option.bind_eq_bind,
    Option.bind_some]
  split
  · rename_i last
    have empty :
        (if client ∈ shared.holders then
            shared.holders.erase client
          else
            shared.holders.tail) = [] := by
      rw [last] at counted
      exact List.length_eq_zero_iff.mp counted.symm
    refine ⟨_, _, rfl, ⟨trivial, ?_, fun _ => pointer.symm,
      Nat.le_refl _, rfl, False.elim,
        by simp [Place.remaining]⟩⟩
    exact {
      gpFramework := Option.some_ne_none object
      heap := single.heap
      frameworks := by
        rw [only]
        exact update_only object _
      handles := by simp [single.handles]
      holders := empty
    }
  · rename_i more
    refine ⟨_, _, rfl, ⟨trivial, .inr
      ⟨⟨{ framework with nRef := framework.nRef - 1 }, ?_, ready⟩, ?_⟩,
      fun _ => pointer.symm, Nat.le_refl _, rfl, False.elim,
        by simp [Place.remaining]⟩⟩
    · exact {
        heap := single.heap
        frameworks :=
          ⟨object, rfl, by rw [only, Function.update_idem]⟩
        handles := single.handles
        nRef := counted
      }
    · intro empty
      apply more
      apply UInt32.toNat_inj.mp
      rw [counted]
      exact List.length_eq_zero_iff.mpr empty

/-- Closing forgets the pointer first and then the heap. -/
theorem critical?_close
    {status : HResult}
    (expected :
      place = .forget status ∧ Deleted shared ∨
        place = .destroyHeap status ∧ HeapOnly shared) :
    ∃ next later,
      critical? client answer place shared = some (next, later) ∧
        Kept client place shared next later := by
  rcases expected with ⟨rfl, deleted⟩ | ⟨rfl, only⟩
  · refine ⟨_, _, rfl, trivial, ?_,
      fun held => absurd deleted.holders held, Nat.le_refl _, rfl, False.elim,
        by simp [Place.remaining]⟩
    exact { deleted with gpFramework := rfl }
  · obtain ⟨heap, pointer, heaps⟩ := only.heap
    simp only [critical?, pointer, Option.bind_eq_bind,
      Option.bind_some]
    refine ⟨_, _, rfl, trivial, .inl ?_,
      fun held => absurd only.holders held, Nat.le_refl _, rfl, False.elim,
        by simp [Place.remaining]⟩
    exact {
      only with
      ghHeap := rfl
      heaps := by simp [heaps]
    }

/-- Every access inside the lock finds what it needs. -/
theorem critical?_spec
    (room : place = .addRef → shared.holders.length + 1 < 2 ^ 32)
    (expected : Expected place shared)
    (locked : ∀ status, place ≠ .unlock status) :
    ∃ next later,
      critical? client answer place shared = some (next, later) ∧
        Kept client place shared next later := by
  cases place with
  | test entry =>
      exact critical?_test expected
  | createHeap =>
      exact critical?_create (.inl ⟨rfl, expected⟩)
  | allocate =>
      exact critical?_create (.inr ⟨rfl, expected⟩)
  | init =>
      exact critical?_init expected
  | addRef =>
      exact critical?_addRef (room rfl) expected
  | release =>
      exact critical?_release expected
  | forget status =>
      exact critical?_close (.inl ⟨rfl, expected⟩)
  | destroyHeap status =>
      exact critical?_close (.inr ⟨rfl, expected⟩)
  | unlock status =>
      exact absurd rfl (locked status)
  | idle =>
      exact expected.elim
  | spin entry =>
      exact expected.elim
  | check =>
      exact expected.elim
  | load =>
      exact expected.elim
  | inside object =>
      exact expected.elim

/-- Whenever somebody holds a reference the framework is running. -/
theorem running_of_held
    (expected : Expected place shared)
    (held : shared.holders ≠ []) :
    Running shared := by
  have settled (settled : Settled shared) : Running shared :=
    settled.elim (fun closed => absurd closed.holders held) And.left
  cases place with
  | test entry =>
      exact settled expected
  | createHeap =>
      exact absurd (show Closed shared from expected).holders held
  | allocate =>
      exact absurd (show HeapOnly shared from expected).holders held
  | init =>
      have single : Single shared ⟨false, 0, 0⟩ := expected
      exact absurd (List.length_eq_zero_iff.mp single.nRef.symm) held
  | addRef =>
      exact expected
  | release =>
      exact expected.1
  | forget status =>
      exact absurd (show Deleted shared from expected).holders held
  | destroyHeap status =>
      exact absurd (show HeapOnly shared from expected).holders held
  | unlock status =>
      exact settled expected
  | idle =>
      exact expected.elim
  | spin entry =>
      exact expected.elim
  | check =>
      exact expected.elim
  | load =>
      exact expected.elim
  | inside object =>
      exact expected.elim

end Critical

end GameCapturer.Framework
