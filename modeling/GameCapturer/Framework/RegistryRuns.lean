import GameCapturer.Framework.Bookkeeping

namespace GameCapturer.Framework

open Foundation Foundation.StepFunction
open Sockaddr

/-!
# What every run of the framework guarantees

The lists of a reachable framework are compared with what their environment has
said: the catalog, the reports of the providers and the adapters that callers
opened and released.
-/

namespace Registry

/-!
### A sample run
-/

/-- An interface that is obtained. -/
def acquired : Provider.AcquireAnswers where
  loadLibrary := true
  procGetClassObject := true
  procCanUnloadNow := true
  lastError := 126
  getClassObject := ndSuccess
  createInstance := ndSuccess

/-- A query that answers with a status, a length and contents. -/
def answering
    (status : HResult)
    (length : UInt32)
    (contents : SocketAddressList) : Provider.QueryCall where
  acquire := acquired
  status
  length
  contents
  canUnloadNow := Provider.countingLibrary

/-- A list with the single address 10.0.0.1. -/
def singleAddress : SocketAddressList where
  iAddressCount := 1
  address := [{
    lpSockaddr := sampleV4.sockaddr
    iSockaddrLength := 16
  }]

/-- A provider that overflows first and then reports one address. -/
def reportsOne : ScanAnswers where
  first := answering ndBufferOverflow 40 singleAddress
  allocated := true
  uninitialised := singleAddress
  second := answering ndSuccess 40 singleAddress
  heap := fun _ => sampleV6.addr

/-- The provider that reports one address counts its references. -/
theorem counts_reportsOne : reportsOne.Counts :=
  ⟨Provider.counts_countingLibrary, Provider.counts_countingLibrary⟩

/-- The catalog entry of a version 2 provider. -/
def entryOfVersion2 (providerId : Guid) : ProtocolInfo where
  serviceFlags1 := ProtocolInfo.ndServiceFlags1
  providerFlags := ProtocolInfo.ndProviderFlags
  version := ndVersion2
  addressFamily := 2
  socketType := -1
  protocol := 0
  protocolMaxOffset := 0
  providerId

/-- A path that is found and expanded. -/
def pathFound : Provider.InitAnswers where
  pathAllocated := true
  getProviderPath := 0
  pathError := 0
  expandedLength := 10
  expandError := 0
  expandedAllocated := true
  expandAgain := 10

/-- A catalog of version 2 providers. -/
def catalogOf (guids : List Guid) : CatalogAnswers where
  sizeReported := true
  allocated := true
  protocols := some (guids.map entryOfVersion2)
  init := fun _ => pathFound

/-- Answers with which an adapter is opened. -/
def opensAdapter : Provider.OpenAnswers where
  acquire := acquired
  resolveAddress := ndSuccess
  openAdapter := ndSuccess
  canUnloadNow := Provider.countingLibrary

/-- Two providers appear, an adapter is opened and the first one is removed. -/
def sampleRun : List Action := [
  .providerChange (catalogOf [5, 6]) (fun _ => reportsOne)
    Provider.countingLibrary,
  .openAdapter .ind2Adapter sampleV4.sockaddr fun _ => opensAdapter,
  .providerChange (catalogOf [6]) (fun _ => reportsOne)
    Provider.countingLibrary
]

/-- Every library of the sample run counts its references. -/
theorem counts_sampleRun : ∀ action ∈ sampleRun, action.Counts := by
  intro action present
  simp only [sampleRun, List.mem_cons, List.not_mem_nil, or_false]
    at present
  rcases present with rfl | rfl | rfl
  · exact ⟨fun _ => counts_reportsOne, Provider.counts_countingLibrary⟩
  · exact fun _ => Provider.counts_countingLibrary
  · exact ⟨fun _ => counts_reportsOne, Provider.counts_countingLibrary⟩

/-- The state after the sample run. -/
def sampleRegistry : Registry :=
  (run? step? initial sampleRun).getD initial

/-- The sample run can be taken. -/
theorem ran_sampleRun :
    run? step? initial sampleRun = some sampleRegistry := by
  decide +kernel

/-!
### No dangling provider
-/

section Runs

variable
  {registry changed : Registry}
  {actions : List Action}

/--
After every run GUIDs are unique, and every address that `OpenAdapter` searches
leads to exactly one listed provider, which is active and of the version that
the interface asks for.
-/
theorem providers_resolve_of_run
    (counts : ∀ action ∈ actions, action.Counts)
    (ran : run? step? initial actions = some registry) :
    (registry.providerList.map Provider.guid).Nodup ∧
      ∀ iid,
        ∀ address ∈ registry.searched iid,
          address.Known ∧
            ∃ provider,
              registry.providerList.find? (fun provider =>
                  provider.object = address.provider) =
                some provider ∧
              provider.active = true ∧
              (provider.version = ndVersion1 ↔ iid = .indAdapter) := by
  have sound := sound_of_run counts ran
  have resolved
      {legacy : Bool}
      {address : Address}
      (served : Served registry.providerList legacy address) :
      address.Known ∧
        ∃ provider,
          registry.providerList.find? (fun provider =>
              provider.object = address.provider) =
            some provider ∧
          provider.active = true ∧
          decide (provider.version = ndVersion1) = legacy := by
    obtain ⟨known, provider, present, object, active, kind⟩ := served
    have found :=
      (KeyedList.find?_eq_some_iff sound.roster.objects).mpr
        ⟨present, object⟩
    exact ⟨known, provider, found, active, kind⟩
  refine ⟨sound.roster.guids, ?_⟩
  intro iid address present
  by_cases legacy : iid = .indAdapter
  · rw [searched, if_pos legacy] at present
    obtain ⟨known, provider, found, active, kind⟩ :=
      resolved (sound.legacy address present)
    exact ⟨known, provider, found, active,
      iff_of_true (of_decide_eq_true kind) legacy⟩
  · rw [searched, if_neg legacy] at present
    obtain ⟨known, provider, found, active, kind⟩ :=
      resolved (sound.modern address present)
    exact ⟨known, provider, found, active,
      iff_of_false (of_decide_eq_false kind) legacy⟩

/-- After the sample run GUIDs are unique and no address is unknown. -/
theorem providers_resolve_sample :
    (sampleRegistry.providerList.map Provider.guid).Nodup ∧
      ∀ address ∈ sampleRegistry.searched .ind2Adapter, address.Known :=
  have resolved :=
    providers_resolve_of_run counts_sampleRun ran_sampleRun
  ⟨resolved.1, fun address present =>
    (resolved.2 .ind2Adapter address present).1⟩

/-!
### Adapters and libraries
-/

/--
After every run the adapters that a provider has opened are those released and
those still live, and while one is live its provider is listed with its library
loaded and referenced once.
-/
theorem adapters_accounted_of_run
    (counts : ∀ action ∈ actions, action.Counts)
    (ran : run? step? initial actions = some registry)
    (object : Nat) :
    registry.opened.count object =
        registry.released.count object +
          live registry.providerList object ∧
      (0 < live registry.providerList object →
        ∃ provider ∈ registry.providerList,
          provider.object = object ∧
            provider.adapters = live registry.providerList object ∧
            provider.hProvider = true ∧
            provider.libraryRefs = 1) := by
  have roster := (sound_of_run counts ran).roster
  refine ⟨roster.adapters object, ?_⟩
  intro some
  have present :
      object ∈ registry.providerList.map Provider.object := by
    by_contra absent
    unfold live at some
    rw [KeyedList.total_of_not_mem absent] at some
    exact Nat.lt_irrefl 0 some
  obtain ⟨provider, member, rfl⟩ := List.mem_map.mp present
  have total :
      live registry.providerList provider.object = provider.adapters :=
    KeyedList.total_of_mem roster.objects member
  have consistent := (roster.settled provider member).consistent
  have loaded :=
    consistent.adapters (Nat.ne_of_gt (total ▸ some))
  refine ⟨provider, member, rfl, total.symm, loaded, ?_⟩
  rw [consistent.refs, loaded]
  rfl

/-- The removed provider is still loaded, for its adapter is live. -/
theorem adapters_accounted_sample :
    ∃ provider ∈ sampleRegistry.providerList,
      provider.object = 0 ∧ provider.hProvider = true := by
  obtain ⟨provider, present, object, -, loaded, -⟩ :=
    (adapters_accounted_of_run counts_sampleRun ran_sampleRun 0).2
      (by decide +kernel)
  exact ⟨provider, present, object, loaded⟩

end Runs

/-!
### The provider list and the catalog
-/

/-- An active provider with a GUID is listed. -/
def Active (providerList : List Provider) (guid : Guid) : Prop :=
  ∃ provider ∈ providerList,
    provider.guid = guid ∧ provider.active = true

/-- A network direct entry with a GUID is in the catalog. -/
def Cataloged (protocols : List ProtocolInfo) (guid : Guid) : Prop :=
  ∃ info ∈ protocols,
    info.isNetworkDirect = true ∧ info.providerId = guid

/-- `Init` succeeds for an entry with a GUID. -/
def Obtainable
    (init : Nat → Provider.InitAnswers)
    (protocols : List ProtocolInfo)
    (index : Nat)
    (guid : Guid) : Prop :=
  ∃ entry ∈ protocols.zipIdx index,
    entry.1.isNetworkDirect = true ∧
      entry.1.providerId = guid ∧
      ¬ Failed (Provider.init (init entry.2))

section Catalog

variable
  {registry changed next : Registry}
  {providers others : List Provider}
  {guid : Guid}

/-- `MarkActive` activates exactly the given GUID of a listed provider. -/
theorem active_markActive
    {wanted : Guid}
    (listed : wanted ∈ providers.map Provider.guid) :
    Active (markActive wanted providers) guid ↔
      Active providers guid ∨ guid = wanted := by
  induction providers with
  | nil =>
      contradiction
  | cons provider rest inductionHypothesis =>
      unfold markActive
      split
      · rename_i here
        simp only [Active, List.exists_mem_cons_iff, here, and_true]
        by_cases same : wanted = guid
        · simp [same]
        · simp [same, Ne.symm same]
      · rename_i elsewhere
        rw [List.map_cons, List.mem_cons] at listed
        have later := listed.resolve_left (Ne.symm elsewhere)
        have step := inductionHypothesis later
        unfold Active at step ⊢
        rw [List.exists_mem_cons_iff, List.exists_mem_cons_iff, step,
          or_assoc]

/-- Going through the catalog activates what is listed or obtained. -/
theorem active_addProviders
    {init : Nat → Provider.InitAnswers}
    {protocols : List ProtocolInfo}
    {index : Nat} :
    Active (addProviders init protocols index registry).providerList
        guid ↔
      Active registry.providerList guid ∨
        Cataloged protocols guid ∧
          guid ∈ registry.providerList.map Provider.guid ∨
        Obtainable init protocols index guid := by
  induction protocols generalizing index registry with
  | nil =>
      simp [addProviders, Cataloged, Obtainable]
  | cons info rest inductionHypothesis =>
      unfold addProviders
      split
      · rename_i other
        rw [inductionHypothesis]
        simp only [Bool.not_eq_true'] at other
        simp [Cataloged, Obtainable, other]
      · rename_i kind
        have kind : info.isNetworkDirect = true := by simpa using kind
        split
        · rename_i listed
          have guids :
              (markActive info.providerId registry.providerList).map
                  Provider.guid =
                registry.providerList.map Provider.guid :=
            KeyedList.map_of_forall₂ Provider.guid
              (fun _ _ own => own.serviced.guid)
              (remarked_markActive info.providerId)
          rw [inductionHypothesis, active_markActive listed, guids]
          simp only [Cataloged, Obtainable, List.zipIdx_cons,
            List.exists_mem_cons_iff, kind, true_and]
          by_cases same : info.providerId = guid
          · subst same
            simp [listed]
          · simp [same, Ne.symm same]
        · rename_i fresh
          dsimp only
          split
          · rename_i failed
            rw [inductionHypothesis]
            simp only [Cataloged, Obtainable, List.zipIdx_cons,
              List.exists_mem_cons_iff, kind, true_and, failed,
              not_true_eq_false, and_false, false_or]
            by_cases same : info.providerId = guid
            · subst same
              simp [fresh]
            · simp [same]
          · rename_i obtained
            rw [inductionHypothesis]
            simp only [Active, Cataloged, Obtainable, List.zipIdx_cons,
              List.exists_mem_cons_iff, kind, true_and, obtained,
              not_false_eq_true, and_true, List.mem_append,
              List.map_append]
            by_cases same : info.providerId = guid
            · subst same
              simp [Provider.construct]
            · simp [Provider.construct, same, Ne.symm same]

/-- Relations that keep GUIDs and marks keep the active providers. -/
theorem active_of_forall₂
    {related : Provider → Provider → Prop}
    (guids : ∀ old new, related old new → new.guid = old.guid)
    (marks : ∀ old new, related old new → new.active = old.active)
    (tables : List.Forall₂ related providers others) :
    Active others guid ↔ Active providers guid := by
  constructor
  · rintro ⟨new, present, same, mark⟩
    obtain ⟨old, member, relation⟩ := KeyedList.exists_old tables present
    exact ⟨old, member, (guids old new relation).symm.trans same,
      (marks old new relation).symm.trans mark⟩
  · rintro ⟨old, present, same, mark⟩
    obtain ⟨new, member, relation⟩ := KeyedList.exists_new tables present
    exact ⟨new, member, (guids old new relation).trans same,
      (marks old new relation).trans mark⟩

/-- Tending keeps the active providers. -/
theorem active_of_tended
    (tended : List.Forall₂ Provider.Tended providers others) :
    Active others guid ↔ Active providers guid :=
  active_of_forall₂ (fun _ _ own => own.same.guid)
    (fun _ _ own => own.same.active) tended

/-- Flushing keeps the active providers. -/
theorem active_of_flushed (flushed : Flushed providers others) :
    Active others guid ↔ Active providers guid := by
  obtain ⟨tried, tended, sublist, active⟩ := flushed.tried
  rw [← active_of_tended tended]
  constructor
  · rintro ⟨provider, present, same, mark⟩
    exact ⟨provider, sublist.subset present, same, mark⟩
  · rintro ⟨provider, present, same, mark⟩
    exact ⟨provider, active provider present mark, same, mark⟩

/-- `FlushProviders` keeps the active providers. -/
theorem Sound.active_flushProviders
    {canUnloadNow : Provider.CanUnloadNow}
    (sound : registry.Sound)
    (counts : Provider.Counts canUnloadNow)
    (flushed : registry.flushProviders? canUnloadNow = some changed) :
    Active changed.providerList guid ↔
      Active registry.providerList guid := by
  obtain ⟨next, tries, answered⟩ := Option.bind_eq_some_iff.mp flushed
  cases answered
  exact active_of_flushed (flush?_spec counts sound.roster.settled tries)

/-- Only a provider change changes which providers are active. -/
theorem Sound.active_step
    {action : Action}
    (sound : registry.Sound)
    (counts : action.Counts)
    (other :
      ∀ catalog answers canUnloadNow,
        action ≠ .providerChange catalog answers canUnloadNow)
    (stepped : step? registry action = some changed) :
    Active changed.providerList guid ↔
      Active registry.providerList guid := by
  cases action with
  | providerChange catalog answers canUnloadNow =>
      exact absurd rfl (other catalog answers canUnloadNow)
  | addressChange answers canUnloadNow =>
      obtain ⟨middle, processed, flushed⟩ :=
        Option.bind_eq_some_iff.mp stepped
      have middleSound :=
        sound.roster.processAddressChange counts.1 processed
      obtain ⟨tended, -⟩ :=
        processAddressChange?_spec counts.1 sound.roster.settled processed
      rw [middleSound.active_flushProviders counts.2 flushed,
        active_of_tended tended]
  | flushProvidersForUser canUnloadNow =>
      exact sound.active_flushProviders counts stepped
  | openAdapter iid sockaddr answers =>
      obtain ⟨⟨status, middle, tried⟩, opened, answered⟩ :=
        Option.bind_eq_some_iff.mp stepped
      cases answered
      obtain ⟨verdict, -, opened⟩ := Option.bind_eq_some_iff.mp opened
      dsimp only at opened
      split at opened
      · cases opened
        rfl
      · obtain ⟨⟨final, next, attempts⟩, tries, answered⟩ :=
          Option.bind_eq_some_iff.mp opened
        cases answered
        obtain ⟨handled, -⟩ :=
          openFrom?_spec counts sound.roster.objects
            sound.roster.settled tries
        exact active_of_forall₂ (fun _ _ own => own.serviced.guid)
          (fun _ _ own => own.active) handled
  | releaseAdapter object =>
      obtain ⟨provider, found, released⟩ :=
        Option.bind_eq_some_iff.mp stepped
      obtain ⟨present, -⟩ :=
        (KeyedList.find?_eq_some_iff sound.roster.objects).mp found
      split at released
      · contradiction
      · cases released
        have same :
            ({ provider with adapters := provider.adapters - 1 } :
              Provider).object = provider.object := rfl
        refine active_of_forall₂ (fun _ _ => And.left)
          (fun _ _ => And.right)
          (@KeyedList.forall₂_replace _ _ _ Provider.object _ provider _
            (fun old new =>
              new.guid = old.guid ∧ new.active = old.active)
            (fun _ => ⟨rfl, rfl⟩) sound.roster.objects present same
            ⟨rfl, rfl⟩)

/-- A catalog that cannot be read leaves the active providers. -/
theorem Sound.active_unread
    {catalog : CatalogAnswers}
    {answers : Nat → ScanAnswers}
    {canUnloadNow : Provider.CanUnloadNow}
    (sound : registry.Sound)
    (counts : Provider.Counts canUnloadNow)
    (unread :
      catalog.sizeReported = false ∨
        catalog.allocated = false ∨
        catalog.protocols = none)
    (stepped :
      step? registry (.providerChange catalog answers canUnloadNow) =
        some changed) :
    Active changed.providerList guid ↔
      Active registry.providerList guid := by
  have same :
      registry.processProviderChange? catalog answers = some registry := by
    unfold processProviderChange?
    rcases unread with unsized | unallocated | unlisted
    · simp [unsized]
    · simp [unallocated]
    · simp [unlisted]
  have flushed : registry.flushProviders? canUnloadNow = some changed := by
    simpa [step?, same] using stepped
  exact sound.active_flushProviders counts flushed

/--
Once the catalog has been read, the active providers are those of its network
direct entries that were listed before or whose `Init` succeeds, and the other
listed providers are still loaded.
-/
theorem Sound.catalog_synced
    {catalog : CatalogAnswers}
    {answers : Nat → ScanAnswers}
    {canUnloadNow : Provider.CanUnloadNow}
    {protocols : List ProtocolInfo}
    (sound : registry.Sound)
    (own : Action.Counts (.providerChange catalog answers canUnloadNow))
    (read :
      catalog.sizeReported = true ∧
        catalog.allocated = true ∧
        catalog.protocols = some protocols)
    (stepped :
      step? registry (.providerChange catalog answers canUnloadNow) =
        some changed) :
    (∀ guid,
        Active changed.providerList guid ↔
          Cataloged protocols guid ∧
              guid ∈ registry.providerList.map Provider.guid ∨
            Obtainable catalog.init protocols 0 guid) ∧
      ∀ provider ∈ changed.providerList,
        provider.active = false → provider.hProvider = true := by
  obtain ⟨middle, processed, flushed⟩ :=
    Option.bind_eq_some_iff.mp stepped
  have scanned := processed
  simp only [processProviderChange?, read, Bool.not_true,
    Bool.false_eq_true, ↓reduceIte] at scanned
  have roster :=
    @Roster.addProviders _ catalog.init protocols 0
      sound.roster.markInactive
  have middleSound := roster.processAddressChange own.1 scanned
  obtain ⟨tended, -⟩ :=
    processAddressChange?_spec own.1 roster.settled scanned
  refine ⟨?_, (middleSound.flushProviders own.2 flushed).2⟩
  intro guid
  have noneActive :
      ¬ Active registry.markInactive.providerList guid := by
    rintro ⟨provider, present, -, mark⟩
    obtain ⟨old, -, rfl⟩ := List.mem_map.mp present
    contradiction
  have guids :
      registry.markInactive.providerList.map Provider.guid =
        registry.providerList.map Provider.guid := by
    simp only [markInactive, List.map_map]
    rfl
  rw [middleSound.active_flushProviders own.2 flushed,
    active_of_tended tended, active_addProviders,
    or_iff_right noneActive, guids]

/--
In any reachable state, once the catalog has been read the active providers are
exactly those of its network direct entries that were listed before or whose
`Init` succeeds, and the other listed providers are still loaded.
-/
theorem catalog_synced_of_run
    {actions : List Action}
    {catalog : CatalogAnswers}
    {answers : Nat → ScanAnswers}
    {canUnloadNow : Provider.CanUnloadNow}
    {protocols : List ProtocolInfo}
    (counts : ∀ action ∈ actions, action.Counts)
    (ran : run? step? initial actions = some registry)
    (own : Action.Counts (.providerChange catalog answers canUnloadNow))
    (read :
      catalog.sizeReported = true ∧
        catalog.allocated = true ∧
        catalog.protocols = some protocols)
    (stepped :
      step? registry (.providerChange catalog answers canUnloadNow) =
        some changed) :
    (∀ guid,
        Active changed.providerList guid ↔
          Cataloged protocols guid ∧
              guid ∈ registry.providerList.map Provider.guid ∨
            Obtainable catalog.init protocols 0 guid) ∧
      ∀ provider ∈ changed.providerList,
        provider.active = false → provider.hProvider = true :=
  (sound_of_run counts ran).catalog_synced own read stepped

/-- A catalog with one new provider activates it and no other. -/
theorem catalog_synced_sample :
    ∃ changed : Registry,
      Active changed.providerList 7 ∧
        ¬ Active changed.providerList 6 := by
  have own :
      Action.Counts
        (.providerChange (catalogOf [7]) (fun _ => reportsOne)
          Provider.countingLibrary) :=
    ⟨fun _ => counts_reportsOne, Provider.counts_countingLibrary⟩
  have enabled :
      (step? sampleRegistry
        (.providerChange (catalogOf [7]) (fun _ => reportsOne)
          Provider.countingLibrary)).isSome := by
    decide +kernel
  obtain ⟨changed, stepped⟩ := Option.isSome_iff_exists.mp enabled
  have synced :=
    (catalog_synced_of_run counts_sampleRun ran_sampleRun own
      ⟨rfl, rfl, rfl⟩ stepped).1
  refine ⟨changed, (synced 7).mpr (.inr ?_), ?_⟩
  · exact ⟨(entryOfVersion2 7, 0), by simp, by decide, rfl, by decide⟩
  · intro active
    rcases (synced 6).mp active with
      ⟨⟨info, present, -, guid⟩, -⟩ | ⟨entry, present, -, guid, -⟩
    · simp only [List.map_cons, List.map_nil, List.mem_singleton]
        at present
      rw [present] at guid
      exact absurd guid (by decide)
    · simp only [List.map_cons, List.map_nil, List.zipIdx_cons,
        List.zipIdx_nil, List.mem_singleton] at present
      rw [present] at guid
      exact absurd guid (by decide)

end Catalog

/-!
### The address lists and the reports
-/

section Reports

variable
  {registry changed : Registry}
  {actions : List Action}
  {answers : Nat → ScanAnswers}

end Reports

end Registry

end GameCapturer.Framework
