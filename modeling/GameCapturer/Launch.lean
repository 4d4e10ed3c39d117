import GameCapturer.Framework.Lookup

namespace GameCapturer

open Foundation Foundation.StepFunction
open Framework Sockaddr

/-!
# From the launcher to an adapter

`main` of `launcher.cpp` asks the framework for the local address of the route
to the server and constructs a `Client` on it, whose constructor opens an
adapter there.  No status on this path is looked at.  As in the lookups, the
framework is the one that `ProcessUpdates` has left.
-/

/-- `NdResolveAddress`; before a successful `NdStartup` nothing is there. -/
def ndResolveAddress?
    (gpFramework : Option Registry)
    (cbLocalAddress : UInt64)
    (answer : Registry.RoutingAnswer) : Option (HResult × UInt64) :=
  match gpFramework with
  | none => some (ndDeviceNotReady, cbLocalAddress)
  | some registry => registry.resolveAddress? cbLocalAddress answer

/--
`NdOpenAdapter`: the status and what `*ppIAdapter` then holds.  An adapter is
told by the provider that opened it; a failed attempt stores nothing.
-/
def ndOpenAdapter?
    (gpFramework : Option Registry)
    (iid : Iid)
    (sockaddr : List UInt8)
    (answers : Nat → Provider.OpenAnswers)
    (ppIAdapter : Option Nat) :
    Option (HResult × Option Nat × Option Registry) :=
  match gpFramework with
  | none => some (ndDeviceNotReady, ppIAdapter, none)
  | some registry => do
      let (status, registry, tried) ←
        registry.openAdapter? iid sockaddr answers
      let stored :=
        (tried.find? fun attempt => ¬ Failed attempt.2).map Prod.fst
      return (status, stored.or ppIAdapter, some registry)

/--
`Client::Client` up to `adapter->CreateOverlappedFile`, where a null `adapter`
is a fault.
-/
def Client.construct?
    (gpFramework : Option Registry)
    (localAddr : List UInt8)
    (answers : Nat → Provider.OpenAnswers) :
    Option (Nat × Option Registry) := do
  let (_, adapter, gpFramework) ←
    ndOpenAdapter? gpFramework .ind2Adapter localAddr answers none
  let adapter ← adapter
  return (adapter, gpFramework)

/-- The client branch of `main` up to `client.run`. -/
def launchClient?
    (gpFramework : Option Registry)
    (routing : Registry.RoutingAnswer)
    (answers : Nat → Provider.OpenAnswers) :
    Option (Nat × Option Registry) := do
  -- `hr` is never read: `local_addr` is used as the query has left it.
  let (_, _) ←
    ndResolveAddress? gpFramework (UInt64.ofNat sizeIn) routing
  Client.construct? gpFramework routing.pLocalAddress answers

/-!
### Providers that open
-/

/-- Answers with which a version 2 provider opens an adapter. -/
structure Framework.Provider.OpenAnswers.Opens
    (answers : Provider.OpenAnswers) : Prop where
  loaded : answers.acquire.loadLibrary = true
  classObject : answers.acquire.procGetClassObject = true
  unload : answers.acquire.procCanUnloadNow = true
  obtained : ¬ Failed answers.acquire.getClassObject
  resolved : ¬ Failed answers.resolveAddress
  opened : ¬ Failed answers.openAdapter

/-- The sample answers open an adapter. -/
theorem Framework.Registry.opens_opensAdapter :
    Registry.opensAdapter.Opens :=
  ⟨rfl, rfl, rfl, by decide, by decide, by decide⟩

namespace Framework.Provider

variable
  {provider : Provider}
  {answers : OpenAnswers}

/-- The library is loaded, or was loaded before. -/
theorem load_of_opens (opens : answers.Opens) :
    (provider.load answers.acquire).1 = none := by
  unfold load
  split
  · rfl
  · simp [opens.loaded, opens.classObject, opens.unload]

/-- The provider interface is obtained. -/
theorem getClassObject?_of_opens
    (consistent : provider.Consistent)
    (opens : answers.Opens) :
    ∃ held,
      provider.getClassObject? answers.acquire =
          some (answers.acquire.getClassObject, held) ∧
        held.interfaces ≠ 0 ∧
        held.version = provider.version ∧
        held.Consistent := by
  obtain ⟨same, kept, -, -, loaded⟩ :=
    load_spec consistent answers.acquire
  have unrefused := @load_of_opens provider answers opens
  have known := (kept.functions (loaded unrefused)).1
  have answered :
      provider.getClassObject? answers.acquire =
        some (answers.acquire.getClassObject,
          { (provider.load answers.acquire).2 with
            interfaces :=
              (provider.load answers.acquire).2.interfaces + 1 }) := by
    unfold getClassObject?
    generalize provider.load answers.acquire = loading at *
    obtain ⟨failure, other⟩ := loading
    cases unrefused
    dsimp only at known ⊢
    simp only [known, Bool.not_true, Bool.false_eq_true, ↓reduceIte,
      if_neg opens.obtained]
  obtain ⟨-, keptAfter, -, -⟩ :=
    getClassObject?_spec consistent answered
  exact ⟨_, answered, Nat.succ_ne_zero _, same.version, keptAfter⟩

/-- A settled version 2 provider opens the adapter. -/
theorem openAdapter?_of_opens
    (settled : provider.Settled)
    (modern : provider.version ≠ ndVersion1)
    (iid : Iid)
    (opens : answers.Opens) :
    ∃ next,
      provider.openAdapter? iid answers =
        some (answers.openAdapter, next) := by
  obtain ⟨held, got, obtained, version, kept⟩ :=
    getClassObject?_of_opens settled.consistent opens
  have heldModern : held.version ≠ ndVersion1 := version ▸ modern
  have acquired :
      provider.acquire? answers.acquire =
        some (answers.acquire.getClassObject, held) := by
    rw [acquire?, if_neg modern, got]
  have loaded := kept.interfaces obtained
  have live :
      ({ held with adapters := held.adapters + 1 } :
        Provider).Consistent :=
    { kept with adapters := fun _ => loaded }
  obtain ⟨next, finished⟩ :=
    releaseAndUnload?_answers live obtained answers.canUnloadNow
  refine ⟨next, ?_⟩
  unfold openAdapter?
  rw [if_neg fun both => modern both.1, acquired]
  simp only [Option.bind_eq_bind, Option.bind_some,
    if_neg opens.obtained, if_neg opens.opened,
    if_neg fun both : _ ∧ _ => opens.resolved both.2, finished]
  rfl

end Framework.Provider

namespace Framework.Registry

variable
  {registry : Registry}
  {sockaddr : List UInt8}
  {answers : Nat → Provider.OpenAnswers}

/-- While all providers open, the first candidate gives the adapter. -/
theorem openFrom?_of_opens
    {addresses : List Address}
    {attempt : Nat}
    {status : HResult}
    {providers : List Provider}
    (valid : Valid sockaddr)
    (distinct : (providers.map Provider.object).Nodup)
    (settled : ∀ provider ∈ providers, provider.Settled)
    (served : ∀ address ∈ addresses, Served providers false address)
    (opens : ∀ attempt, (answers attempt).Opens)
    (wanted : candidates sockaddr addresses ≠ []) :
    ∃ last next object,
      openFrom? .ind2Adapter sockaddr answers addresses attempt status
          providers =
        some (last, next, [(object, last)]) ∧
        ¬ Failed last := by
  induction addresses generalizing attempt with
  | nil =>
      exact absurd rfl wanted
  | cons address rest inductionHypothesis =>
      obtain ⟨here, after⟩ := List.forall_mem_cons.mp served
      obtain ⟨verdict, compared, named⟩ := address.matches?_of_valid valid
      unfold openFrom?
      rw [compared]
      cases verdict with
      | false =>
          have other : ¬ Named sockaddr address :=
            fun same => absurd (named.mpr same) Bool.false_ne_true
          have later : candidates sockaddr rest ≠ [] := by
            unfold candidates at wanted ⊢
            rwa [List.filter_cons_of_neg (by simpa using other)]
              at wanted
          exact inductionHypothesis after later
      | true =>
          obtain ⟨provider, present, object, -, modern⟩ := here.owner
          have found :=
            (KeyedList.find?_eq_some_iff distinct).mpr
              ⟨present, object⟩
          obtain ⟨next, opened⟩ :=
            Provider.openAdapter?_of_opens (settled provider present)
              (of_decide_eq_false modern) .ind2Adapter (opens attempt)
          have succeeded := (opens attempt).opened
          simp only [Option.bind_eq_bind, Option.bind_some, ↓reduceIte,
            found, opened, if_neg succeeded]
          exact ⟨_, _, _, rfl, succeeded⟩

/-- With a candidate and providers that open, an adapter is stored. -/
theorem openAdapter?_of_opens
    (sound : registry.Sound)
    (valid : Valid sockaddr)
    (opens : ∀ attempt, (answers attempt).Opens)
    (wanted : candidates sockaddr registry.ndAddrList ≠ []) :
    ∃ status changed object,
      registry.openAdapter? .ind2Adapter sockaddr answers =
        some (status, changed, [(object, status)]) ∧
        ¬ Failed status := by
  have success : ¬ Failed ndSuccess := by decide
  have accepted := (validate?_eq_success_iff sockaddr).mpr valid
  obtain ⟨last, next, object, opened, succeeded⟩ :=
    @openFrom?_of_opens sockaddr answers registry.ndAddrList 0
      ndInvalidAddress registry.providerList valid sound.roster.objects
      sound.roster.settled sound.modern opens wanted
  have searching : registry.searched .ind2Adapter = registry.ndAddrList :=
    if_neg (by decide)
  simp only [openAdapter?, accepted, Option.bind_eq_bind,
    Option.bind_some, if_neg success, searching, opened]
  exact ⟨_, _, _, rfl, succeeded⟩

end Framework.Registry

/-!
### What the launcher can reach
-/

section Launching

variable
  {registry : Registry}
  {sockaddr : List UInt8}
  {routing : Registry.RoutingAnswer}
  {actions : List Registry.Action}

open Registry

/-- Without a candidate among the version 2 addresses nothing is stored. -/
theorem Client.construct?_eq_none
    (unwanted : candidates sockaddr registry.ndAddrList = [])
    (answers : Nat → Provider.OpenAnswers) :
    Client.construct? (some registry) sockaddr answers = none := by
  unfold Client.construct? ndOpenAdapter?
  cases opened : registry.openAdapter? .ind2Adapter sockaddr answers with
  | none =>
      simp only [opened, Option.bind_eq_bind, Option.bind_none]
  | some result =>
      obtain ⟨status, changed, tried⟩ := result
      have untried : tried = [] := by
        rcases openAdapter?_order opened with ⟨-, attempts⟩ | ⟨-, -, rfl⟩
        · exact attempts.eq_nil_iff.mpr unwanted
        · rfl
      subst untried
      simp only [opened, Option.bind_eq_bind, Option.bind_some]
      rfl

/-- Otherwise providers that open give the client its adapter. -/
theorem Client.construct?_of_opens
    {answers : Nat → Provider.OpenAnswers}
    (sound : registry.Sound)
    (valid : Valid sockaddr)
    (opens : ∀ attempt, (answers attempt).Opens)
    (wanted : candidates sockaddr registry.ndAddrList ≠ []) :
    (Client.construct? (some registry) sockaddr answers).isSome := by
  obtain ⟨status, changed, object, opened, succeeded⟩ :=
    openAdapter?_of_opens sound valid opens wanted
  simp only [Client.construct?, ndOpenAdapter?, opened,
    Option.bind_eq_bind, Option.bind_some, List.find?_cons, succeeded,
    not_false_eq_true, decide_true]
  rfl

/-- A route that is found is accepted exactly if some list serves it. -/
theorem ndResolveAddress?_success_iff
    (found : routing.socketError = false)
    (valid : Valid routing.pLocalAddress)
    (cbLocalAddress : UInt64) :
    ∃ status length,
      ndResolveAddress? (some registry) cbLocalAddress routing =
          some (status, length) ∧
        (status = ndSuccess ↔ registry.Serves routing.pLocalAddress) := by
  obtain ⟨modern, legacy, first, second, serves⟩ :=
    @search_of_valid registry _ valid
  have refused : ndInvalidAddress ≠ ndSuccess := by decide
  simp only [ndResolveAddress?, resolveAddress?, found, first, second,
    Bool.false_eq_true, ↓reduceIte, Option.bind_eq_bind,
    Option.bind_some]
  cases modern with
  | true =>
      exact ⟨_, _, rfl, iff_of_true rfl (serves.mp rfl)⟩
  | false =>
      cases legacy with
      | true =>
          exact ⟨_, _, rfl, iff_of_true rfl (serves.mp rfl)⟩
      | false =>
          exact ⟨_, _, rfl, iff_of_false refused fun served =>
            absurd (serves.mpr served) Bool.false_ne_true⟩

/-- The answers of providers that keep their library and report errors. -/
def Proper (answers : Nat → Provider.OpenAnswers) : Prop :=
  ∀ attempt,
    Provider.Counts (answers attempt).canUnloadNow ∧
      (answers attempt).acquire.Reports

/--
In any reachable framework, for a route that is found: `NdResolveAddress`
accepts the local address and yet every client the launcher constructs there
faults on a null adapter, whatever proper providers answer, exactly when the
address is in the list of version 1 and not in the list of version 2.
-/
theorem accepted_yet_null_iff_of_run
    (counts : ∀ action ∈ actions, action.Counts)
    (ran : run? step? initial actions = some registry)
    (found : routing.socketError = false)
    (valid : Valid routing.pLocalAddress) :
    ((∃ length,
        ndResolveAddress? (some registry) (UInt64.ofNat sizeIn) routing =
          some (ndSuccess, length)) ∧
      ∀ answers, Proper answers →
        launchClient? (some registry) routing answers = none) ↔
      candidates routing.pLocalAddress registry.ndAddrList = [] ∧
        candidates routing.pLocalAddress registry.ndV1AddrList ≠ [] := by
  have sound := sound_of_run counts ran
  obtain ⟨status, length, resolved, accepted⟩ :=
    @ndResolveAddress?_success_iff registry routing found valid
      (UInt64.ofNat sizeIn)
  have launched (answers : Nat → Provider.OpenAnswers) :
      launchClient? (some registry) routing answers =
        Client.construct? (some registry) routing.pLocalAddress
          answers := by
    simp only [launchClient?, resolved, Option.bind_eq_bind,
      Option.bind_some]
  simp only [launched, resolved, Option.some_inj, Prod.mk.injEq,
    exists_and_left, exists_eq', and_true, accepted, serves_iff]
  constructor
  · rintro ⟨served, refused⟩
    have unwanted :
        candidates routing.pLocalAddress registry.ndAddrList = [] := by
      by_contra wanted
      have opened :=
        @Client.construct?_of_opens registry _ (fun _ => opensAdapter)
          sound valid (fun _ => opens_opensAdapter) wanted
      rw [refused _ fun _ =>
        ⟨Provider.counts_countingLibrary, by decide⟩] at opened
      exact absurd opened Bool.false_ne_true
    exact ⟨unwanted, served.resolve_left (absurd unwanted)⟩
  · rintro ⟨unwanted, legacy⟩
    exact ⟨.inr legacy,
      fun answers _ => Client.construct?_eq_none unwanted answers⟩

/-- The provider of a catalog that has only version 1 reports one address. -/
def legacyRun : List Registry.Action := [
  .providerChange
    { catalogOf [] with
      protocols :=
        some [{ entryOfVersion2 5 with version := ndVersion1 }] }
    (fun _ => reportsOne)
    Provider.countingLibrary
]

/-- The state after the change. -/
def legacyRegistry : Registry :=
  (run? step? initial legacyRun).getD initial

/-- A route over the address that the provider reports. -/
def legacyRouting : Registry.RoutingAnswer where
  socketError := false
  lastError := 0
  length := 16
  pLocalAddress := sampleV4.sockaddr

/-- With a version 1 provider alone the accepted address opens nothing. -/
theorem accepted_yet_null_sample :
    (∃ length,
        ndResolveAddress? (some legacyRegistry) (UInt64.ofNat sizeIn)
            legacyRouting =
          some (ndSuccess, length)) ∧
      launchClient? (some legacyRegistry) legacyRouting
          (fun _ => opensAdapter) =
        none := by
  have ran :
      run? step? initial legacyRun = some legacyRegistry := by
    decide +kernel
  have counts : ∀ action ∈ legacyRun, action.Counts := by
    simp only [legacyRun, List.forall_mem_singleton]
    exact ⟨fun _ => counts_reportsOne, Provider.counts_countingLibrary⟩
  have legacyOnly :
      candidates sampleV4.sockaddr legacyRegistry.ndAddrList = [] ∧
        candidates sampleV4.sockaddr legacyRegistry.ndV1AddrList ≠
          [] := by
    decide +kernel
  obtain ⟨accepted, refused⟩ :=
    (@accepted_yet_null_iff_of_run _ legacyRouting _ counts ran rfl
      (by decide)).mpr legacyOnly
  exact ⟨accepted,
    refused _ fun _ => ⟨Provider.counts_countingLibrary, by decide⟩⟩

end Launching

end GameCapturer
