import GameCapturer.Framework.AddressTable

namespace GameCapturer.Framework

open Foundation

/-!
# Providers and their libraries

`ndprov.cpp` loads the library of a provider when it is first asked for
something and tries to unload it after every call.  The library and the objects
it hands out are outside the repository: their answers are inputs, and the
counts of live objects below are what the library itself would count.
-/

/-- A `GUID`. -/
abbrev Guid := BitVec 128

/-- `E_NOINTERFACE` -/
def eNoInterface : HResult := 0x80004002

/-- `ND_VERSION_1` -/
def ndVersion1 : Int32 := 0x1

/-- `ND_VERSION_2` -/
def ndVersion2 : Int32 := 0x20000

/-- The `HRESULT_FROM_WIN32` macro. -/
def hresultFromWin32 (error : UInt32) : HResult :=
  if error.toInt32 ≤ 0 then
    error.toInt32
  else
    ((error &&& 0xFFFF) ||| 0x80070000).toInt32

/-- The interface that `OpenAdapter` is asked for. -/
inductive Iid where
  | indAdapter
  | ind2Adapter
  | other (guid : Guid)
  deriving Repr, DecidableEq

/--
`NetworkDirect::Provider`.  The three pointers are represented by whether they
are null; `object` is the address of the object itself.  `libraryRefs` counts
the `LoadLibrary` calls not undone, `interfaces` the factories and provider
interfaces not released, and `adapters` the adapters not released.
-/
structure Provider where
  object : Nat
  guid : Guid
  version : Int32
  active : Bool
  hProvider : Bool
  pfnDllGetClassObject : Bool
  pfnDllCanUnloadNow : Bool
  libraryRefs : Nat
  interfaces : Nat
  adapters : Nat
  deriving Repr, DecidableEq

namespace Provider

/-- `Provider::Provider` and `m_Guid` as a successful `Init` sets it. -/
def construct (object : Nat) (guid : Guid) (version : Int32) :
    Provider where
  object
  guid
  version
  active := true
  hProvider := false
  pfnDllGetClassObject := false
  pfnDllCanUnloadNow := false
  libraryRefs := 0
  interfaces := 0
  adapters := 0

/-- The answers of the system during `Provider::Init`. -/
structure InitAnswers where
  pathAllocated : Bool
  getProviderPath : Int32
  pathError : UInt32
  expandedLength : UInt32
  expandError : UInt32
  expandedAllocated : Bool
  expandAgain : UInt32
  deriving Repr, DecidableEq

/-- The result of `Provider::Init`; `m_Guid` is set exactly on `S_OK`. -/
def init (answers : InitAnswers) : HResult :=
  if !answers.pathAllocated then
    ndNoMemory
  else if answers.getProviderPath ≠ 0 then
    hresultFromWin32 answers.pathError
  else if answers.expandedLength = 0 then
    hresultFromWin32 answers.expandError
  else if !answers.expandedAllocated then
    ndNoMemory
  else if answers.expandAgain ≠ answers.expandedLength then
    ndUnsuccessful
  else
    ndSuccess

/-- What `DllCanUnloadNow` of the library answers in a given state. -/
abbrev CanUnloadNow := Provider → HResult

/-- A library that reports `S_OK` only when no object of it is live. -/
def Counts (canUnloadNow : CanUnloadNow) : Prop :=
  ∀ provider,
    canUnloadNow provider = ndSuccess →
    provider.interfaces = 0 ∧ provider.adapters = 0

/-- A library that reports `S_OK` exactly when nothing of it is live. -/
def countingLibrary : CanUnloadNow := fun provider =>
  if provider.interfaces = 0 ∧ provider.adapters = 0 then
    ndSuccess
  else
    ndUnsuccessful

/-- The counting library agrees to be unloaded only without references. -/
theorem counts_countingLibrary : Counts countingLibrary := by
  intro provider allowed
  unfold countingLibrary at allowed
  split at allowed
  · assumption
  · contradiction

/-- The answers while an interface is acquired. -/
structure AcquireAnswers where
  loadLibrary : Bool
  procGetClassObject : Bool
  procCanUnloadNow : Bool
  lastError : UInt32
  getClassObject : HResult
  createInstance : HResult
  deriving Repr, DecidableEq

/-- The loading part of `GetClassObject`: a failing status, or none. -/
def load
    (provider : Provider)
    (answers : AcquireAnswers) : Option HResult × Provider :=
  if provider.hProvider then
    (none, provider)
  else if !answers.loadLibrary then
    (some (hresultFromWin32 answers.lastError), provider)
  else
    let provider :=
      { provider with
        pfnDllGetClassObject := answers.procGetClassObject
        libraryRefs := provider.libraryRefs + 1 }
    if !answers.procGetClassObject then
      (some (hresultFromWin32 answers.lastError),
        { provider with libraryRefs := provider.libraryRefs - 1 })
    else
      let provider :=
        { provider with pfnDllCanUnloadNow := answers.procCanUnloadNow }
      if !answers.procCanUnloadNow then
        (some (hresultFromWin32 answers.lastError),
          { provider with libraryRefs := provider.libraryRefs - 1 })
      else
        -- The exchange finds a null pointer: callers hold the lock.
        (none, { provider with hProvider := true })

/-- `Provider::GetClassObject`; calling a null pointer is a fault. -/
def getClassObject?
    (provider : Provider)
    (answers : AcquireAnswers) : Option (HResult × Provider) :=
  match provider.load answers with
  | (some status, provider) => some (status, provider)
  | (none, provider) =>
      if !provider.pfnDllGetClassObject then
        none
      else if Failed answers.getClassObject then
        some (answers.getClassObject, provider)
      else
        some (answers.getClassObject,
          { provider with interfaces := provider.interfaces + 1 })

/-- `Release` on an interface that was obtained; else it is a fault. -/
def release? (provider : Provider) : Option Provider :=
  if provider.interfaces = 0 then
    none
  else
    some { provider with interfaces := provider.interfaces - 1 }

/-- `NdV1Provider::GetProvider`: the factory is released on both paths. -/
def getProvider?
    (provider : Provider)
    (answers : AcquireAnswers) : Option (HResult × Provider) := do
  let (status, provider) ← provider.getClassObject? answers
  if Failed status then
    return (status, provider)
  else
    let provider ← provider.release?
    if Failed answers.createInstance then
      return (answers.createInstance, provider)
    else
      return (answers.createInstance,
        { provider with interfaces := provider.interfaces + 1 })

/-- The provider interface, as each of the two classes gets it. -/
def acquire?
    (provider : Provider)
    (answers : AcquireAnswers) : Option (HResult × Provider) :=
  if provider.version = ndVersion1 then
    provider.getProvider? answers
  else
    provider.getClassObject? answers

/-- `Provider::TryUnload` -/
def tryUnload?
    (provider : Provider)
    (canUnloadNow : CanUnloadNow) : Option (Bool × Provider) :=
  if !provider.hProvider then
    some (true, provider)
  else if !provider.pfnDllCanUnloadNow then
    none
  else if canUnloadNow provider ≠ ndSuccess then
    some (false, provider)
  else
    some (true,
      { provider with
        hProvider := false
        libraryRefs := provider.libraryRefs - 1 })

/-- `pIProvider->Release(); TryUnload();` -/
def releaseAndUnload?
    (provider : Provider)
    (canUnloadNow : CanUnloadNow) : Option Provider := do
  let provider ← provider.release?
  let (_, provider) ← provider.tryUnload? canUnloadNow
  return provider

/-- The answers while an adapter is opened. -/
structure OpenAnswers where
  acquire : AcquireAnswers
  resolveAddress : HResult
  openAdapter : HResult
  canUnloadNow : CanUnloadNow

/--
`NdV1Provider::OpenAdapter` and `NdProvider::OpenAdapter`.  Only the second
class resolves the address first, and only the first checks the interface.
-/
def openAdapter?
    (provider : Provider)
    (iid : Iid)
    (answers : OpenAnswers) : Option (HResult × Provider) :=
  if provider.version = ndVersion1 ∧ iid ≠ .indAdapter then
    some (eNoInterface, provider)
  else do
    let (status, provider) ← provider.acquire? answers.acquire
    if Failed status then
      let (_, provider) ← provider.tryUnload? answers.canUnloadNow
      return (ndInvalidAddress, provider)
    else if provider.version ≠ ndVersion1 ∧
        Failed answers.resolveAddress then
      let provider ← provider.releaseAndUnload? answers.canUnloadNow
      return (ndInvalidAddress, provider)
    else
      let provider :=
        if Failed answers.openAdapter then
          provider
        else
          { provider with adapters := provider.adapters + 1 }
      let provider ← provider.releaseAndUnload? answers.canUnloadNow
      return (answers.openAdapter, provider)

/-- What one call of `QueryAddressList` of a provider answers. -/
structure QueryCall where
  acquire : AcquireAnswers
  status : HResult
  length : UInt32
  contents : SocketAddressList
  canUnloadNow : CanUnloadNow

/--
`QueryAddressList` of both classes: the status, and whether the provider itself
was asked, so that it may have changed the length and the buffer.
-/
def queryAddressList?
    (provider : Provider)
    (call : QueryCall) : Option (HResult × Bool × Provider) := do
  let (status, provider) ← provider.acquire? call.acquire
  if Failed status then
    let (_, provider) ← provider.tryUnload? call.canUnloadNow
    return (ndDeviceNotReady, false, provider)
  else
    let provider ← provider.releaseAndUnload? call.canUnloadNow
    return (call.status, true, provider)

/-!
### What the calls keep
-/

/-- The fields of a provider that no call changes. -/
structure SameObject (provider other : Provider) : Prop where
  object : other.object = provider.object
  guid : other.guid = provider.guid
  version : other.version = provider.version
  active : other.active = provider.active

/--
The library is referenced exactly while it is loaded, its functions are then
known, and it is loaded while an object of it is live.
-/
structure Consistent (provider : Provider) : Prop where
  refs : provider.libraryRefs = if provider.hProvider then 1 else 0
  functions :
    provider.hProvider = true →
      provider.pfnDllGetClassObject = true ∧
        provider.pfnDllCanUnloadNow = true
  interfaces : provider.interfaces ≠ 0 → provider.hProvider = true
  adapters : provider.adapters ≠ 0 → provider.hProvider = true

/-- A consistent provider that no call is using. -/
structure Settled (provider : Provider) : Prop where
  consistent : provider.Consistent
  released : provider.interfaces = 0

section Calls

variable {provider next : Provider}

/-- Every provider is the same object as itself. -/
theorem SameObject.refl (provider : Provider) :
    SameObject provider provider :=
  ⟨rfl, rfl, rfl, rfl⟩

/-- Being the same object carries over a second step. -/
theorem SameObject.trans
    {last : Provider}
    (first : SameObject provider next)
    (second : SameObject next last) :
    SameObject provider last where
  object := second.object.trans first.object
  guid := second.guid.trans first.guid
  version := second.version.trans first.version
  active := second.active.trans first.active

/-- A new provider is settled. -/
theorem settled_construct (object : Nat) (guid : Guid) (version : Int32) :
    (construct object guid version).Settled where
  consistent := {
    refs := rfl
    functions := fun loaded => by simp [construct] at loaded
    interfaces := fun nonzero => absurd rfl nonzero
    adapters := fun nonzero => absurd rfl nonzero
  }
  released := rfl

/-- Function pointers may change freely while no library is loaded. -/
theorem Consistent.unloaded
    (consistent : provider.Consistent)
    (unloaded : provider.hProvider = false)
    (getClassObject canUnloadNow : Bool) :
    ({ provider with
        hProvider := false
        pfnDllGetClassObject := getClassObject
        pfnDllCanUnloadNow := canUnloadNow } : Provider).Consistent := by
  have refs := consistent.refs
  have interfaces := consistent.interfaces
  have adapters := consistent.adapters
  rw [unloaded] at refs interfaces adapters
  exact ⟨refs, fun loaded => by simp at loaded, interfaces, adapters⟩

/-- Loading leaves a consistent provider, loaded unless it failed. -/
theorem load_spec
    (consistent : provider.Consistent)
    (answers : AcquireAnswers) :
    let loaded := provider.load answers
    SameObject provider loaded.2 ∧
      loaded.2.Consistent ∧
      loaded.2.interfaces = provider.interfaces ∧
      loaded.2.adapters = provider.adapters ∧
      (loaded.1 = none → loaded.2.hProvider = true) := by
  unfold load
  by_cases already : provider.hProvider = true
  · simp only [already, ↓reduceIte, implies_true, and_true]
    exact ⟨.refl provider, consistent⟩
  · have unloaded := Bool.eq_false_iff.mpr already
    have unchanged := consistent.unloaded unloaded
    cases answers.loadLibrary with
    | false =>
        simp only [unloaded, Bool.false_eq_true, ↓reduceIte,
          Bool.not_false, reduceCtorEq, false_implies, and_true]
        exact ⟨.refl provider, consistent⟩
    | true =>
        cases answers.procGetClassObject with
        | false =>
            simp only [unloaded, Bool.false_eq_true, ↓reduceIte,
              Bool.not_true, Bool.not_false, Nat.add_sub_cancel,
              reduceCtorEq, false_implies, and_true]
            exact ⟨⟨rfl, rfl, rfl, rfl⟩, unchanged _ _⟩
        | true =>
            cases answers.procCanUnloadNow with
            | false =>
                simp only [unloaded, Bool.false_eq_true, ↓reduceIte,
                  Bool.not_true, Bool.not_false, Nat.add_sub_cancel,
                  reduceCtorEq, false_implies, and_true]
                exact ⟨⟨rfl, rfl, rfl, rfl⟩, unchanged _ _⟩
            | true =>
                simp only [unloaded, Bool.false_eq_true, ↓reduceIte,
                  Bool.not_true, implies_true, and_true]
                refine ⟨⟨rfl, rfl, rfl, rfl⟩, ?_⟩
                have none := consistent.refs
                constructor <;> simp_all

/-- Getting the class object obtains an interface only on success. -/
theorem getClassObject?_spec
    {status : HResult}
    {answers : AcquireAnswers}
    (consistent : provider.Consistent)
    (answered :
      provider.getClassObject? answers = some (status, next)) :
    SameObject provider next ∧
      next.Consistent ∧
      next.adapters = provider.adapters ∧
      (next.interfaces = provider.interfaces ∨
        ¬ Failed status ∧
          next.interfaces = provider.interfaces + 1) := by
  obtain ⟨same, kept, interfaces, adapters, loaded⟩ :=
    load_spec consistent answers
  unfold getClassObject? at answered
  generalize provider.load answers = result at *
  obtain ⟨failure, other⟩ := result
  cases failure with
  | some failed =>
      cases answered
      exact ⟨same, kept, adapters, .inl interfaces⟩
  | none =>
      dsimp only at answered loaded same kept interfaces adapters
      split at answered
      · contradiction
      · split at answered
        · cases answered
          exact ⟨same, kept, adapters, .inl interfaces⟩
        · rename_i succeeded
          cases answered
          refine ⟨{ same with }, ?_, adapters,
            .inr ⟨succeeded, by simp [interfaces]⟩⟩
          exact { kept with interfaces := fun _ => loaded rfl }

/-- Releasing an interface keeps the provider consistent. -/
theorem release?_spec
    (consistent : provider.Consistent)
    (released : provider.release? = some next) :
    SameObject provider next ∧
      next.Consistent ∧
      next.adapters = provider.adapters ∧
      provider.interfaces = next.interfaces + 1 ∧
      next.hProvider = true := by
  unfold release? at released
  split at released
  · contradiction
  · rename_i nonzero
    cases released
    have loaded := consistent.interfaces nonzero
    refine ⟨⟨rfl, rfl, rfl, rfl⟩, ?_, rfl, by dsimp only; omega,
      loaded⟩
    exact { consistent with interfaces := fun _ => loaded }

/-- Both classes hold one interface after a success and none after a failure. -/
theorem acquire?_spec
    {status : HResult}
    {answers : AcquireAnswers}
    (settled : provider.Settled)
    (answered : provider.acquire? answers = some (status, next)) :
    SameObject provider next ∧
      next.Consistent ∧
      next.adapters = provider.adapters ∧
      next.interfaces ≤ 1 ∧
      (Failed status → next.interfaces = 0) := by
  have released := settled.released
  unfold acquire? at answered
  split at answered
  · unfold getProvider? at answered
    obtain ⟨⟨first, factory⟩, got, answered⟩ :=
      Option.bind_eq_some_iff.mp answered
    obtain ⟨same, kept, adapters, interfaces⟩ :=
      getClassObject?_spec settled.consistent got
    dsimp only at answered
    split at answered
    · rename_i failed
      cases answered
      have none : next.interfaces = 0 := by
        rcases interfaces with same | ⟨succeeded, -⟩
        · omega
        · exact absurd failed succeeded
      exact ⟨same, kept, adapters, by omega, fun _ => none⟩
    · obtain ⟨freed, releasedFactory, answered⟩ :=
        Option.bind_eq_some_iff.mp answered
      obtain ⟨sameAfter, keptAfter, adaptersAfter, one, loaded⟩ :=
        release?_spec kept releasedFactory
      have gone : freed.interfaces = 0 := by omega
      split at answered
      · cases answered
        exact ⟨same.trans sameAfter, keptAfter,
          adaptersAfter.trans adapters, by omega, fun _ => gone⟩
      · rename_i created
        cases answered
        refine ⟨same.trans { sameAfter with }, ?_,
          adaptersAfter.trans adapters, by dsimp only; omega,
          fun failed => absurd failed created⟩
        exact { keptAfter with interfaces := fun _ => loaded }
  · obtain ⟨same, kept, adapters, interfaces⟩ :=
      getClassObject?_spec settled.consistent answered
    refine ⟨same, kept, adapters, by omega, ?_⟩
    intro failed
    rcases interfaces with same | ⟨succeeded, -⟩
    · omega
    · exact absurd failed succeeded

/-- Unloading only happens when nothing of the library is live. -/
theorem tryUnload?_spec
    {unloaded : Bool}
    {canUnloadNow : CanUnloadNow}
    (counts : Counts canUnloadNow)
    (consistent : provider.Consistent)
    (tried : provider.tryUnload? canUnloadNow = some (unloaded, next)) :
    SameObject provider next ∧
      next.Consistent ∧
      next.interfaces = provider.interfaces ∧
      next.adapters = provider.adapters ∧
      (unloaded = true → next.hProvider = false) := by
  unfold tryUnload? at tried
  split at tried
  · rename_i notLoaded
    cases tried
    exact ⟨.refl provider, consistent, rfl, rfl,
      fun _ => by simpa using notLoaded⟩
  · rename_i loaded
    split at tried
    · contradiction
    · split at tried
      · cases tried
        exact ⟨.refl provider, consistent, rfl, rfl,
          fun impossible => by contradiction⟩
      · rename_i allowed
        cases tried
        obtain ⟨noInterface, noAdapter⟩ :=
          counts provider (not_not.mp allowed)
        refine ⟨⟨rfl, rfl, rfl, rfl⟩, ?_, rfl, rfl, fun _ => rfl⟩
        have refs := consistent.refs
        constructor <;> simp_all

/-- A provider that cannot be unloaded stays loaded. -/
theorem tryUnload?_refused
    {canUnloadNow : CanUnloadNow}
    (tried : provider.tryUnload? canUnloadNow = some (false, next)) :
    next.hProvider = true := by
  unfold tryUnload? at tried
  split at tried
  · cases tried
  · rename_i loaded
    split at tried
    · contradiction
    · split at tried
      · cases tried
        simpa using loaded
      · cases tried

/-- After the last release of a call the provider is settled again. -/
theorem releaseAndUnload?_spec
    {canUnloadNow : CanUnloadNow}
    (counts : Counts canUnloadNow)
    (consistent : provider.Consistent)
    (single : provider.interfaces ≤ 1)
    (finished : provider.releaseAndUnload? canUnloadNow = some next) :
    SameObject provider next ∧
      next.Settled ∧
      next.adapters = provider.adapters := by
  obtain ⟨freed, released, finished⟩ :=
    Option.bind_eq_some_iff.mp finished
  obtain ⟨⟨unloaded, last⟩, tried, answered⟩ :=
    Option.bind_eq_some_iff.mp finished
  cases answered
  obtain ⟨same, kept, adapters, one, -⟩ :=
    release?_spec consistent released
  obtain ⟨sameAfter, keptAfter, interfaces, adaptersAfter, -⟩ :=
    tryUnload?_spec counts kept tried
  exact ⟨same.trans sameAfter, ⟨keptAfter, by omega⟩,
    adaptersAfter.trans adapters⟩

/--
Opening an adapter leaves the provider settled, with one more live adapter
exactly when it succeeds.
-/
theorem openAdapter?_spec
    {status : HResult}
    {iid : Iid}
    {answers : OpenAnswers}
    (counts : Counts answers.canUnloadNow)
    (settled : provider.Settled)
    (opened : provider.openAdapter? iid answers = some (status, next)) :
    SameObject provider next ∧
      next.Settled ∧
      next.adapters =
        provider.adapters + if Failed status then 0 else 1 := by
  have noInterface : Failed eNoInterface := by decide
  have invalid : Failed ndInvalidAddress := by decide
  unfold openAdapter? at opened
  split at opened
  · cases opened
    exact ⟨.refl provider, settled, by simp [noInterface]⟩
  · obtain ⟨⟨first, held⟩, acquired, opened⟩ :=
      Option.bind_eq_some_iff.mp opened
    obtain ⟨same, kept, adapters, single, freed⟩ :=
      acquire?_spec settled acquired
    dsimp only at opened
    split at opened
    · rename_i failed
      obtain ⟨⟨unloaded, last⟩, tried, answered⟩ :=
        Option.bind_eq_some_iff.mp opened
      cases answered
      obtain ⟨sameAfter, keptAfter, interfaces, adaptersAfter, -⟩ :=
        tryUnload?_spec counts kept tried
      exact ⟨same.trans sameAfter,
        ⟨keptAfter, interfaces.trans (freed failed)⟩,
        by simp [invalid, adaptersAfter, adapters]⟩
    · split at opened
      · obtain ⟨last, finished, answered⟩ :=
          Option.bind_eq_some_iff.mp opened
        cases answered
        obtain ⟨sameAfter, settledAfter, adaptersAfter⟩ :=
          releaseAndUnload?_spec counts kept single finished
        exact ⟨same.trans sameAfter, settledAfter,
          by simp [invalid, adaptersAfter, adapters]⟩
      · obtain ⟨last, finished, answered⟩ :=
          Option.bind_eq_some_iff.mp opened
        cases answered
        split at finished
        · rename_i failed
          obtain ⟨sameAfter, settledAfter, adaptersAfter⟩ :=
            releaseAndUnload?_spec counts kept single finished
          exact ⟨same.trans sameAfter, settledAfter,
            by simp [failed, adaptersAfter, adapters]⟩
        · rename_i succeeded
          have obtained : held.interfaces ≠ 0 := by
            intro none
            simp [releaseAndUnload?, release?, none] at finished
          have loaded := kept.interfaces obtained
          have live :
              ({ held with adapters := held.adapters + 1 } :
                Provider).Consistent :=
            { kept with adapters := fun _ => loaded }
          obtain ⟨sameAfter, settledAfter, adaptersAfter⟩ :=
            releaseAndUnload?_spec counts live single finished
          exact ⟨same.trans { sameAfter with }, settledAfter,
            by simp [succeeded, adaptersAfter, adapters]⟩

/-- Querying the addresses leaves the provider settled. -/
theorem queryAddressList?_spec
    {status : HResult}
    {asked : Bool}
    {call : QueryCall}
    (counts : Counts call.canUnloadNow)
    (settled : provider.Settled)
    (queried :
      provider.queryAddressList? call = some (status, asked, next)) :
    SameObject provider next ∧
      next.Settled ∧
      next.adapters = provider.adapters ∧
      (asked = false → status = ndDeviceNotReady) ∧
      (asked = true → status = call.status) := by
  unfold queryAddressList? at queried
  obtain ⟨⟨first, held⟩, acquired, queried⟩ :=
    Option.bind_eq_some_iff.mp queried
  obtain ⟨same, kept, adapters, single, freed⟩ :=
    acquire?_spec settled acquired
  dsimp only at queried
  split at queried
  · rename_i failed
    obtain ⟨⟨unloaded, last⟩, tried, answered⟩ :=
      Option.bind_eq_some_iff.mp queried
    cases answered
    obtain ⟨sameAfter, keptAfter, interfaces, adaptersAfter, -⟩ :=
      tryUnload?_spec counts kept tried
    exact ⟨same.trans sameAfter,
      ⟨keptAfter, interfaces.trans (freed failed)⟩,
      adaptersAfter.trans adapters, fun _ => rfl,
      fun impossible => by contradiction⟩
  · obtain ⟨last, finished, answered⟩ :=
      Option.bind_eq_some_iff.mp queried
    cases answered
    obtain ⟨sameAfter, settledAfter, adaptersAfter⟩ :=
      releaseAndUnload?_spec counts kept single finished
    exact ⟨same.trans sameAfter, settledAfter,
      adaptersAfter.trans adapters,
      fun impossible => by contradiction, fun _ => rfl⟩

/-!
### Calls that do not fault

`GetClassObject` returns the last error when it cannot load the library.  A last
error of zero would be taken for success, without an interface.
-/

/-- An error code never becomes a success. -/
theorem failed_hresultFromWin32
    {error : UInt32}
    (nonzero : error ≠ 0) :
    Failed (hresultFromWin32 error) := by
  unfold hresultFromWin32
  split
  · rename_i negative
    have other : error.toInt32 ≠ 0 :=
      fun zero => nonzero (congrArg Int32.toUInt32 zero)
    unfold Failed
    rw [Int32.lt_iff_toInt_lt]
    rw [Int32.le_iff_toInt_le] at negative
    exact lt_of_le_of_ne negative fun same =>
      other (Int32.toInt_inj.mp same)
  · unfold Failed
    rw [Int32.lt_iff_toInt_lt]
    refine WordArithmetic.toInt_toInt32_neg_of_le ?_
    rw [UInt32.toNat_or]
    exact Nat.le_trans (by decide) Nat.right_le_or

/-- Errors while the library is loaded are reported as errors. -/
def AcquireAnswers.Reports (answers : AcquireAnswers) : Prop :=
  answers.lastError ≠ 0

instance (answers : AcquireAnswers) : Decidable answers.Reports :=
  inferInstanceAs (Decidable (_ ≠ _))

/-- A refused load returns the last error. -/
theorem load_refused
    {status : HResult}
    {answers : AcquireAnswers}
    (refused : (provider.load answers).1 = some status) :
    status = hresultFromWin32 answers.lastError := by
  unfold load at refused
  (repeat' split at refused) <;> simp_all

/-- The class object is asked for without a fault. -/
theorem getClassObject?_answers
    (consistent : provider.Consistent)
    (answers : AcquireAnswers)
    (reports : answers.Reports) :
    ∃ status next,
      provider.getClassObject? answers = some (status, next) ∧
        (¬ Failed status →
          next.interfaces = provider.interfaces + 1) := by
  obtain ⟨-, kept, interfaces, -, loaded⟩ :=
    load_spec consistent answers
  have refused := @load_refused provider
  unfold getClassObject?
  generalize result : provider.load answers = loading at *
  obtain ⟨failure, other⟩ := loading
  cases failure with
  | some status =>
      refine ⟨status, other, rfl, fun success => ?_⟩
      have same : status = hresultFromWin32 answers.lastError :=
        refused (by rw [result])
      exact absurd (same ▸ failed_hresultFromWin32 reports) success
  | none =>
      have known := (kept.functions (loaded rfl)).1
      dsimp only at known interfaces ⊢
      rw [known]
      simp only [Bool.not_true, Bool.false_eq_true, ↓reduceIte]
      split
      · rename_i failed
        exact ⟨_, _, rfl, fun success => absurd failed success⟩
      · exact ⟨_, _, rfl, fun _ => by rw [interfaces]⟩

/-- Both classes get their interface without a fault. -/
theorem acquire?_answers
    (settled : provider.Settled)
    (answers : AcquireAnswers)
    (reports : answers.Reports) :
    ∃ status next,
      provider.acquire? answers = some (status, next) ∧
        (¬ Failed status → next.interfaces ≠ 0) := by
  obtain ⟨status, next, got, obtained⟩ :=
    getClassObject?_answers settled.consistent answers reports
  unfold acquire?
  split
  · unfold getProvider?
    rw [got]
    simp only [Option.bind_eq_bind, Option.bind_some]
    by_cases failed : Failed status
    · rw [if_pos failed]
      exact ⟨_, _, rfl, fun success => absurd failed success⟩
    · have nonzero : next.interfaces ≠ 0 := by
        rw [obtained failed]
        exact Nat.succ_ne_zero _
      rw [if_neg failed, release?, if_neg nonzero]
      simp only [Option.bind_some]
      split
      · rename_i refused
        exact ⟨_, _, rfl, fun success => absurd refused success⟩
      · exact ⟨_, _, rfl, fun _ => Nat.succ_ne_zero _⟩
  · refine ⟨status, next, got, fun success => ?_⟩
    rw [obtained success]
    exact Nat.succ_ne_zero _

/-- A consistent provider is unloaded without a fault. -/
theorem tryUnload?_answers
    (consistent : provider.Consistent)
    (canUnloadNow : CanUnloadNow) :
    ∃ unloaded next,
      provider.tryUnload? canUnloadNow = some (unloaded, next) := by
  unfold tryUnload?
  cases loaded : provider.hProvider with
  | false =>
      exact ⟨true, provider, rfl⟩
  | true =>
      have known := (consistent.functions loaded).2
      simp only [Bool.not_true, Bool.false_eq_true, ↓reduceIte, known]
      split
      · exact ⟨_, _, rfl⟩
      · exact ⟨_, _, rfl⟩

/-- What was obtained is released without a fault. -/
theorem releaseAndUnload?_answers
    (consistent : provider.Consistent)
    (obtained : provider.interfaces ≠ 0)
    (canUnloadNow : CanUnloadNow) :
    ∃ next, provider.releaseAndUnload? canUnloadNow = some next := by
  have freed :
      provider.release? =
        some { provider with interfaces := provider.interfaces - 1 } :=
    if_neg obtained
  obtain ⟨-, kept, -⟩ := release?_spec consistent freed
  obtain ⟨unloaded, next, tried⟩ := tryUnload?_answers kept canUnloadNow
  refine ⟨next, ?_⟩
  simp only [releaseAndUnload?, freed, Option.bind_eq_bind,
    Option.bind_some, tried]
  rfl

/-- A settled provider opens an adapter, or refuses, without a fault. -/
theorem openAdapter?_answers
    (settled : provider.Settled)
    (iid : Iid)
    (answers : OpenAnswers)
    (reports : answers.acquire.Reports) :
    ∃ status next,
      provider.openAdapter? iid answers = some (status, next) := by
  obtain ⟨first, held, acquired, obtained⟩ :=
    acquire?_answers settled answers.acquire reports
  obtain ⟨-, kept, -, -, -⟩ := acquire?_spec settled acquired
  unfold openAdapter?
  split
  · exact ⟨_, _, rfl⟩
  · simp only [acquired, Option.bind_eq_bind, Option.bind_some]
    by_cases failed : Failed first
    · obtain ⟨unloaded, last, tried⟩ :=
        tryUnload?_answers kept answers.canUnloadNow
      rw [if_pos failed, tried]
      exact ⟨_, _, rfl⟩
    · rw [if_neg failed]
      split
      · obtain ⟨last, finished⟩ :=
          releaseAndUnload?_answers kept (obtained failed)
            answers.canUnloadNow
        rw [finished]
        exact ⟨_, _, rfl⟩
      · split
        · obtain ⟨last, finished⟩ :=
            releaseAndUnload?_answers kept (obtained failed)
              answers.canUnloadNow
          rw [finished]
          exact ⟨_, _, rfl⟩
        · have loaded := kept.interfaces (obtained failed)
          have live :
              ({ held with adapters := held.adapters + 1 } :
                Provider).Consistent :=
            { kept with adapters := fun _ => loaded }
          obtain ⟨last, finished⟩ :=
            releaseAndUnload?_answers live (obtained failed)
              answers.canUnloadNow
          rw [finished]
          exact ⟨_, _, rfl⟩

end Calls

end Provider

end GameCapturer.Framework
