import GameCapturer.Foundation.StepFunction
import GameCapturer.Framework.AddressScan

namespace GameCapturer.Framework

open Foundation Foundation.StepFunction
open Sockaddr

/-!
# Runs of the locked sections of the framework

Every section of `ndfrmwrk.cpp` that changes the lists holds the lock, so any
interleaving of callers is a sequence of such sections.  Releasing an adapter
happens in the library of its provider, without the lock.
-/

namespace Registry

/-- A locked section with the answers that it gets, or a released adapter. -/
inductive Action where
  | providerChange
      (catalog : CatalogAnswers)
      (answers : Nat → ScanAnswers)
      (canUnloadNow : Provider.CanUnloadNow)
  | addressChange
      (answers : Nat → ScanAnswers)
      (canUnloadNow : Provider.CanUnloadNow)
  | flushProvidersForUser (canUnloadNow : Provider.CanUnloadNow)
  | openAdapter
      (iid : Iid)
      (sockaddr : List UInt8)
      (answers : Nat → Provider.OpenAnswers)
  | releaseAdapter (object : Nat)

/-- One section; the two change events are followed by `FlushProviders`. -/
def step? : StepFunction Registry Action
  | registry, .providerChange catalog answers canUnloadNow => do
      let registry ← registry.processProviderChange? catalog answers
      registry.flushProviders? canUnloadNow
  | registry, .addressChange answers canUnloadNow => do
      let registry ← registry.processAddressChange? answers
      registry.flushProviders? canUnloadNow
  | registry, .flushProvidersForUser canUnloadNow =>
      registry.flushProviders? canUnloadNow
  | registry, .openAdapter iid sockaddr answers => do
      let (_, registry, _) ← registry.openAdapter? iid sockaddr answers
      return registry
  | registry, .releaseAdapter object =>
      registry.releaseAdapter? object

/-- Every library involved keeps its count. -/
def Action.Counts : Action → Prop
  | .providerChange _ answers canUnloadNow =>
      (∀ round, (answers round).Counts) ∧ Provider.Counts canUnloadNow
  | .addressChange answers canUnloadNow =>
      (∀ round, (answers round).Counts) ∧ Provider.Counts canUnloadNow
  | .flushProvidersForUser canUnloadNow =>
      Provider.Counts canUnloadNow
  | .openAdapter _ _ answers =>
      ∀ attempt, Provider.Counts (answers attempt).canUnloadNow
  | .releaseAdapter _ => True

/-- The adapters of a provider object that are not released. -/
def live (providerList : List Provider) (object : Nat) : Nat :=
  KeyedList.total Provider.object Provider.adapters object providerList

/-- What always holds of the provider list. -/
structure Roster (registry : Registry) : Prop where
  objects : (registry.providerList.map Provider.object).Nodup
  allocated :
    ∀ provider ∈ registry.providerList,
      provider.object < registry.nextObject
  guids : (registry.providerList.map Provider.guid).Nodup
  settled : ∀ provider ∈ registry.providerList, provider.Settled
  versions :
    ∀ provider ∈ registry.providerList,
      provider.version = ndVersion1 ∨ provider.version = ndVersion2
  adapters :
    ∀ object,
      registry.opened.count object =
        registry.released.count object +
          live registry.providerList object

/-- A known address whose provider is listed, active and of one kind. -/
structure Served
    (providerList : List Provider)
    (legacy : Bool)
    (address : Address) : Prop where
  known : address.Known
  owner :
    ∃ provider ∈ providerList,
      provider.object = address.provider ∧
        provider.active = true ∧
        decide (provider.version = ndVersion1) = legacy

/-- What holds of the lists whenever the lock is free. -/
structure Sound (registry : Registry) : Prop where
  roster : registry.Roster
  modern :
    ∀ address ∈ registry.ndAddrList,
      Served registry.providerList false address
  legacy :
    ∀ address ∈ registry.ndV1AddrList,
      Served registry.providerList true address

/-- The framework starts sound. -/
theorem sound_initial : initial.Sound where
  roster := by
    constructor <;> simp [initial, live, KeyedList.total]
  modern := by simp [initial]
  legacy := by simp [initial]

/-- A provider with the same identity, settled if it was before. -/
structure Serviced (provider next : Provider) : Prop where
  object : next.object = provider.object
  guid : next.guid = provider.guid
  version : next.version = provider.version
  settled : provider.Settled → next.Settled

section Providers

variable
  {registry changed : Registry}
  {providers next : List Provider}

/-- Servicing keeps the roster while the adapters stay accounted. -/
theorem Roster.serviced
    (roster : registry.Roster)
    (serviced :
      List.Forall₂ Serviced registry.providerList changed.providerList)
    (nextObject : registry.nextObject ≤ changed.nextObject)
    (adapters :
      ∀ object,
        changed.opened.count object =
          changed.released.count object +
            live changed.providerList object) :
    changed.Roster where
  objects := by
    rw [KeyedList.map_of_forall₂ Provider.object
      (fun _ _ => Serviced.object) serviced]
    exact roster.objects
  allocated := by
    intro provider present
    obtain ⟨old, member, relation⟩ :=
      KeyedList.exists_old serviced present
    rw [relation.object]
    exact Nat.lt_of_lt_of_le (roster.allocated old member) nextObject
  guids := by
    rw [KeyedList.map_of_forall₂ Provider.guid
      (fun _ _ => Serviced.guid) serviced]
    exact roster.guids
  settled := by
    intro provider present
    obtain ⟨old, member, relation⟩ :=
      KeyedList.exists_old serviced present
    exact relation.settled (roster.settled old member)
  versions := by
    intro provider present
    obtain ⟨old, member, relation⟩ :=
      KeyedList.exists_old serviced present
    rw [relation.version]
    exact roster.versions old member
  adapters := adapters

/-- Tending a provider services it. -/
theorem serviced_of_tended
    {provider other : Provider}
    (tended : provider.Tended other) :
    Serviced provider other where
  object := tended.same.object
  guid := tended.same.guid
  version := tended.same.version
  settled := fun _ => tended.settled

/-- A provider whose mark may have changed. -/
structure Remarked (provider next : Provider) : Prop where
  serviced : Serviced provider next
  adapters : next.adapters = provider.adapters

/-- Changing the mark changes nothing else. -/
theorem remarked (provider : Provider) (active : Bool) :
    Remarked provider { provider with active := active } where
  serviced := {
    object := rfl
    guid := rfl
    version := rfl
    settled := fun settled => ⟨{ settled.consistent with }, settled.released⟩
  }
  adapters := rfl

/-- Marking the first provider with a GUID touches only marks. -/
theorem remarked_markActive (guid : Guid) :
    List.Forall₂ Remarked providers (markActive guid providers) := by
  have unchanged (provider : Provider) : Remarked provider provider :=
    remarked provider provider.active
  induction providers with
  | nil =>
      exact .nil
  | cons provider rest inductionHypothesis =>
      unfold markActive
      split
      · exact .cons (remarked provider true)
          (List.forall₂_same.mpr fun other _ => unchanged other)
      · exact .cons (unchanged provider) inductionHypothesis

/-- Remarking keeps the roster. -/
theorem Roster.remarked
    (roster : registry.Roster)
    (marked : List.Forall₂ Remarked registry.providerList next) :
    ({ registry with providerList := next } : Registry).Roster := by
  refine roster.serviced (marked.imp fun _ _ => Remarked.serviced)
    (Nat.le_refl _) ?_
  intro object
  have totals :=
    @KeyedList.total_of_forall₂ _ _ _ Provider.object
      Provider.adapters object _ _ _
      (fun _ _ relation => relation.serviced.object)
      (fun _ _ relation => relation.adapters) marked
  unfold live
  rw [totals]
  exact roster.adapters object

/-- Marking everything inactive keeps the roster. -/
theorem Roster.markInactive (roster : registry.Roster) :
    registry.markInactive.Roster := by
  refine roster.remarked ?_
  rw [List.forall₂_map_right_iff, List.forall₂_same]
  exact fun provider _ => Registry.remarked provider false

/-- A new provider gets an address and a GUID that no other has. -/
theorem Roster.enlist
    {guid : Guid}
    {version : Int32}
    (roster : registry.Roster)
    (fresh : guid ∉ registry.providerList.map Provider.guid)
    (known : version = ndVersion1 ∨ version = ndVersion2) :
    ({ registry with
        nextObject := registry.nextObject + 1
        providerList :=
          registry.providerList ++
            [.construct registry.nextObject guid version] } :
      Registry).Roster where
  objects := by
    rw [List.map_append]
    refine roster.objects.append (List.nodup_singleton _) ?_
    intro object present new
    obtain ⟨provider, member, rfl⟩ := List.mem_map.mp present
    have below := roster.allocated provider member
    rw [List.mem_singleton.mp new] at below
    exact Nat.lt_irrefl _ below
  allocated := by
    intro provider present
    rcases List.mem_append.mp present with old | new
    · exact Nat.lt_succ_of_lt (roster.allocated provider old)
    · rw [List.mem_singleton.mp new]
      exact Nat.lt_succ_self _
  guids := by
    rw [List.map_append]
    refine roster.guids.append (List.nodup_singleton _) ?_
    intro other present new
    rw [List.mem_singleton.mp new] at present
    exact fresh present
  settled := by
    intro provider present
    rcases List.mem_append.mp present with old | new
    · exact roster.settled provider old
    · rw [List.mem_singleton.mp new]
      exact Provider.settled_construct _ _ _
  versions := by
    intro provider present
    rcases List.mem_append.mp present with old | new
    · exact roster.versions provider old
    · rw [List.mem_singleton.mp new]
      exact known
  adapters := by
    intro object
    have none :
        live [.construct registry.nextObject guid version] object = 0 := by
      simp only [live, KeyedList.total, Provider.construct]
      exact ite_self 0
    unfold live at none ⊢
    simp only [KeyedList.total_append, none, Nat.add_zero]
    exact roster.adapters object

/-- An unused address does not matter. -/
theorem Roster.skip
    (roster : registry.Roster) :
    ({ registry with nextObject := registry.nextObject + 1 } :
      Registry).Roster :=
  { roster with
    allocated := fun provider present =>
      Nat.lt_succ_of_lt (roster.allocated provider present) }

/-- Going through the catalog keeps the roster. -/
theorem Roster.addProviders
    {init : Nat → Provider.InitAnswers}
    {protocols : List ProtocolInfo}
    {index : Nat}
    (roster : registry.Roster) :
    (Registry.addProviders init protocols index registry).Roster := by
  induction protocols generalizing index registry with
  | nil =>
      exact roster
  | cons info rest inductionHypothesis =>
      unfold Registry.addProviders
      split
      · exact inductionHypothesis roster
      · split
        · exact inductionHypothesis
            (roster.remarked (remarked_markActive info.providerId))
        · rename_i fresh
          dsimp only
          split
          · exact inductionHypothesis roster.skip
          · refine inductionHypothesis (roster.enlist fresh ?_)
            split
            · exact .inl rfl
            · exact .inr rfl

/-- Tending keeps the roster. -/
theorem Roster.tended
    (roster : registry.Roster)
    (tended : List.Forall₂ Provider.Tended registry.providerList next) :
    ({ registry with providerList := next } : Registry).Roster := by
  refine roster.remarked (tended.imp fun _ _ own => ?_)
  exact ⟨serviced_of_tended own, own.adapters⟩

/-- After an address change the lists are sound whatever they held before. -/
theorem Roster.processAddressChange
    {answers : Nat → ScanAnswers}
    (roster : registry.Roster)
    (counts : ∀ round, (answers round).Counts)
    (processed :
      registry.processAddressChange? answers = some changed) :
    changed.Sound := by
  obtain ⟨tended, same⟩ :=
    processAddressChange?_spec counts roster.settled processed
  have served
      (legacy : Bool)
      (address : Address)
      (contributed :
        address ∈
          contributions legacy answers registry.providerList 0) :
      Served changed.providerList legacy address := by
    obtain ⟨known, owner, present, object, active, kind⟩ :=
      mem_contributions contributed
    obtain ⟨new, member, own⟩ := KeyedList.exists_new tended present
    refine ⟨known, new, member, ?_, ?_, ?_⟩
    · rw [own.same.object, object]
    · rw [own.same.active, active]
    · rw [own.same.version, kind]
  constructor
  · rw [same]
    exact { roster.tended tended with }
  · intro address present
    rw [same] at present
    exact served false address present
  · intro address present
    rw [same] at present
    exact served true address present

/-- What flushing leaves of a list of providers. -/
structure Flushed (providers next : List Provider) : Prop where
  tried :
    ∃ tried,
      List.Forall₂ Provider.Tended providers tried ∧
        next.Sublist tried ∧
        ∀ provider ∈ tried, provider.active = true → provider ∈ next
  live : ∀ object, live next object = live providers object
  loaded :
    ∀ provider ∈ next,
      provider.active = false → provider.hProvider = true

/-- Only inactive providers without live objects are removed. -/
theorem flush?_spec
    {canUnloadNow : Provider.CanUnloadNow}
    (counts : Provider.Counts canUnloadNow)
    (settled : ∀ provider ∈ providers, provider.Settled)
    (flushed : flush? canUnloadNow providers = some next) :
    Flushed providers next := by
  induction providers generalizing next with
  | nil =>
      cases flushed
      exact ⟨⟨[], .nil, .slnil, by simp⟩, fun _ => rfl, by simp⟩
  | cons provider rest inductionHypothesis =>
      obtain ⟨⟨unloaded, first⟩, own, flushed⟩ :=
        Option.bind_eq_some_iff.mp flushed
      obtain ⟨others, remaining, flushed⟩ :=
        Option.bind_eq_some_iff.mp flushed
      obtain ⟨here, after⟩ := List.forall_mem_cons.mp settled
      obtain ⟨⟨tried, tended, sublist, active⟩, lives, loaded⟩ :=
        inductionHypothesis after remaining
      obtain ⟨same, kept, interfaces, adapters, gone⟩ :=
        Provider.tryUnload?_spec counts here.consistent own
      have tendedFirst : provider.Tended first :=
        ⟨same, ⟨kept, interfaces.trans here.released⟩, adapters⟩
      split at flushed
      · rename_i removed
        cases flushed
        refine ⟨⟨first :: tried, .cons tendedFirst tended,
          sublist.cons _, ?_⟩, ?_, loaded⟩
        · rintro other present mark
          rcases List.mem_cons.mp present with rfl | later
          · rw [removed.2] at mark
            contradiction
          · exact active other later mark
        · intro object
          have none : provider.adapters = 0 := by
            rw [← adapters]
            by_contra some
            have stays := kept.adapters some
            rw [gone removed.1] at stays
            contradiction
          have total := lives object
          unfold live at total ⊢
          rw [KeyedList.total, none, ite_self, Nat.zero_add, total]
      · rename_i stays
        cases flushed
        refine ⟨⟨first :: tried, .cons tendedFirst tended,
          sublist.cons_cons _, ?_⟩, ?_, ?_⟩
        · intro other present mark
          rcases List.mem_cons.mp present with rfl | later
          · exact List.mem_cons_self
          · exact List.mem_cons_of_mem _ (active other later mark)
        · intro object
          have total := lives object
          unfold live at total ⊢
          rw [KeyedList.total, KeyedList.total, same.object, adapters,
            total]
        · intro other present mark
          rcases List.mem_cons.mp present with rfl | later
          · have refused : unloaded = false := by
              by_contra unloadedToo
              exact stays ⟨by simpa using unloadedToo, mark⟩
            rw [refused] at own
            exact Provider.tryUnload?_refused own
          · exact loaded other later mark

/-- Flushing keeps the lists sound: active providers stay. -/
theorem Sound.flushProviders
    {canUnloadNow : Provider.CanUnloadNow}
    (sound : registry.Sound)
    (counts : Provider.Counts canUnloadNow)
    (flushed : registry.flushProviders? canUnloadNow = some changed) :
    changed.Sound ∧
      ∀ provider ∈ changed.providerList,
        provider.active = false → provider.hProvider = true := by
  obtain ⟨next, tries, answered⟩ := Option.bind_eq_some_iff.mp flushed
  cases answered
  obtain ⟨⟨tried, tended, sublist, active⟩, lives, loaded⟩ :=
    flush?_spec counts sound.roster.settled tries
  have roster := sound.roster.tended tended
  have served
      {legacy : Bool}
      {address : Address}
      (before : Served registry.providerList legacy address) :
      Served next legacy address := by
    obtain ⟨known, owner, present, object, mark, kind⟩ := before
    obtain ⟨new, member, own⟩ := KeyedList.exists_new tended present
    refine ⟨known, new, active new member ?_, ?_, ?_, ?_⟩
    · rw [own.same.active, mark]
    · rw [own.same.object, object]
    · rw [own.same.active, mark]
    · rw [own.same.version, kind]
  refine ⟨⟨?_, ?_, ?_⟩, loaded⟩
  · exact {
      objects := roster.objects.sublist (sublist.map _)
      allocated := fun provider present =>
        roster.allocated provider (sublist.subset present)
      guids := roster.guids.sublist (sublist.map _)
      settled := fun provider present =>
        roster.settled provider (sublist.subset present)
      versions := fun provider present =>
        roster.versions provider (sublist.subset present)
      adapters := fun object =>
        (lives object).symm ▸ sound.roster.adapters object
    }
  · exact fun address present => served (sound.modern address present)
  · exact fun address present => served (sound.legacy address present)

end Providers

/-!
### Opening and releasing adapters
-/

/-- The providers that opened an adapter, among those that were asked. -/
def successes (tried : List (Nat × HResult)) : List Nat :=
  (tried.filter fun attempt => ¬ Failed attempt.2).map Prod.fst

/-- A provider that was asked to open an adapter, or was not. -/
structure Handled (provider next : Provider) : Prop where
  serviced : Serviced provider next
  active : next.active = provider.active

section Opening

variable
  {registry changed : Registry}
  {providers next : List Provider}
  {iid : Iid}
  {sockaddr : List UInt8}
  {answers : Nat → Provider.OpenAnswers}
  {address : Address}
  {addresses rest : List Address}
  {attempt : Nat}
  {status last : HResult}
  {tried : List (Nat × HResult)}

/-- What the loop of `OpenAdapter` does with one address. -/
theorem openFrom?_cons_cases
    (opened :
      openFrom? iid sockaddr answers (address :: rest) attempt status
          providers =
        some (last, next, tried)) :
    address.matches? sockaddr = some false ∧
        openFrom? iid sockaddr answers rest attempt status providers =
          some (last, next, tried) ∨
      address.matches? sockaddr = some true ∧
        ∃ provider answer handled,
          providers.find? (fun provider =>
              provider.object = address.provider) =
            some provider ∧
          provider.openAdapter? iid (answers attempt) =
            some (answer, handled) ∧
          (¬ Failed answer ∧
              last = answer ∧
              next = replaceProvider handled providers ∧
              tried = [(address.provider, answer)] ∨
            Failed answer ∧
              ∃ others,
                tried = (address.provider, answer) :: others ∧
                  openFrom? iid sockaddr answers rest (attempt + 1)
                      answer (replaceProvider handled providers) =
                    some (last, next, others)) := by
  obtain ⟨verdict, compared, opened⟩ := Option.bind_eq_some_iff.mp opened
  cases verdict with
  | false =>
      exact .inl ⟨compared, opened⟩
  | true =>
      obtain ⟨provider, found, opened⟩ :=
        Option.bind_eq_some_iff.mp opened
      obtain ⟨⟨answer, handled⟩, asked, opened⟩ :=
        Option.bind_eq_some_iff.mp opened
      refine .inr ⟨compared, provider, answer, handled, found, asked, ?_⟩
      dsimp only at opened
      split at opened
      · rename_i failed
        obtain ⟨⟨final, others, later⟩, remaining, answered⟩ :=
          Option.bind_eq_some_iff.mp opened
        cases answered
        exact .inr ⟨failed, later, rfl, remaining⟩
      · rename_i success
        cases opened
        exact .inl ⟨success, rfl, rfl, rfl⟩

/-- One attempt handles the provider and counts its adapter. -/
theorem handled_of_openAdapter
    {provider handled : Provider}
    {answer : HResult}
    {answers : Provider.OpenAnswers}
    (counts : Provider.Counts answers.canUnloadNow)
    (distinct : (providers.map Provider.object).Nodup)
    (settled : ∀ provider ∈ providers, provider.Settled)
    (found :
      providers.find? (fun provider =>
          provider.object = address.provider) =
        some provider)
    (asked : provider.openAdapter? iid answers = some (answer, handled)) :
    List.Forall₂ Handled providers (replaceProvider handled providers) ∧
      ∀ object,
        live (replaceProvider handled providers) object =
          live providers object +
            (successes [(address.provider, answer)]).count object := by
  obtain ⟨present, owner⟩ :=
    (KeyedList.find?_eq_some_iff distinct).mp found
  obtain ⟨same, kept, adapters⟩ :=
    Provider.openAdapter?_spec counts (settled provider present) asked
  have unchanged (other : Provider) : Handled other other :=
    ⟨⟨rfl, rfl, rfl, id⟩, rfl⟩
  have relation : Handled provider handled :=
    ⟨⟨same.object, same.guid, same.version, fun _ => kept⟩, same.active⟩
  refine ⟨KeyedList.forall₂_replace unchanged distinct present
    same.object relation, ?_⟩
  intro object
  unfold live replaceProvider
  rw [KeyedList.total_replace distinct present same.object]
  split
  · rename_i here
    subst here
    rw [KeyedList.total_of_mem distinct present, adapters]
    by_cases failed : Failed answer <;>
      simp [successes, failed, owner]
  · rename_i elsewhere
    by_cases failed : Failed answer
    · simp [successes, failed]
    · have other : address.provider ≠ object :=
        fun equal => elsewhere (equal ▸ owner.symm)
      simp [successes, failed, other]

/-- The loop handles providers and counts every adapter it opens. -/
theorem openFrom?_spec
    (counts :
      ∀ attempt, Provider.Counts (answers attempt).canUnloadNow)
    (distinct : (providers.map Provider.object).Nodup)
    (settled : ∀ provider ∈ providers, provider.Settled)
    (opened :
      openFrom? iid sockaddr answers addresses attempt status providers =
        some (last, next, tried)) :
    List.Forall₂ Handled providers next ∧
      ∀ object,
        live next object =
          live providers object + (successes tried).count object := by
  induction addresses generalizing attempt status providers tried with
  | nil =>
      cases opened
      refine ⟨List.forall₂_same.mpr fun other _ =>
        ⟨⟨rfl, rfl, rfl, id⟩, rfl⟩, ?_⟩
      simp [successes]
  | cons address rest inductionHypothesis =>
      rcases openFrom?_cons_cases opened with
        ⟨-, remaining⟩ |
          ⟨-, provider, answer, handled, found, asked, outcome⟩
      · exact inductionHypothesis distinct settled remaining
      · obtain ⟨relation, lives⟩ :=
          handled_of_openAdapter (counts attempt) distinct settled found
            asked
        rcases outcome with
          ⟨-, -, rfl, rfl⟩ | ⟨failed, others, rfl, remaining⟩
        · exact ⟨relation, lives⟩
        · have objects :=
            KeyedList.map_of_forall₂ Provider.object
              (fun _ _ own => own.serviced.object) relation
          obtain ⟨laterRelation, laterLives⟩ :=
            inductionHypothesis (objects ▸ distinct)
              (fun other present => by
                obtain ⟨old, member, own⟩ :=
                  KeyedList.exists_old relation present
                exact own.serviced.settled (settled old member))
              remaining
          refine ⟨KeyedList.forall₂_trans ?_ relation laterRelation, ?_⟩
          · intro old middle new early late
            exact {
              serviced := {
                object :=
                  late.serviced.object.trans early.serviced.object
                guid := late.serviced.guid.trans early.serviced.guid
                version :=
                  late.serviced.version.trans early.serviced.version
                settled :=
                  late.serviced.settled ∘ early.serviced.settled
              }
              active := late.active.trans early.active
            }
          · intro object
            rw [laterLives, lives]
            simp [successes, failed]

/-- Handling the providers keeps the lists sound. -/
theorem Sound.handled
    (sound : registry.Sound)
    (handled : List.Forall₂ Handled registry.providerList next)
    (opened released : List Nat)
    (adapters :
      ∀ object,
        opened.count object = released.count object + live next object) :
    ({ registry with
        providerList := next
        opened
        released } : Registry).Sound where
  roster :=
    sound.roster.serviced (handled.imp fun _ _ => Handled.serviced)
      (Nat.le_refl _) adapters
  modern := by
    intro address present
    obtain ⟨known, owner, member, object, mark, kind⟩ :=
      sound.modern address present
    obtain ⟨new, kept, own⟩ := KeyedList.exists_new handled member
    exact ⟨known, new, kept, own.serviced.object.trans object,
      own.active.trans mark, own.serviced.version ▸ kind⟩
  legacy := by
    intro address present
    obtain ⟨known, owner, member, object, mark, kind⟩ :=
      sound.legacy address present
    obtain ⟨new, kept, own⟩ := KeyedList.exists_new handled member
    exact ⟨known, new, kept, own.serviced.object.trans object,
      own.active.trans mark, own.serviced.version ▸ kind⟩

/-- Opening an adapter keeps the lists sound. -/
theorem Sound.openAdapter
    (sound : registry.Sound)
    (counts :
      ∀ attempt, Provider.Counts (answers attempt).canUnloadNow)
    (opened :
      registry.openAdapter? iid sockaddr answers =
        some (status, changed, tried)) :
    changed.Sound := by
  obtain ⟨verdict, -, opened⟩ := Option.bind_eq_some_iff.mp opened
  dsimp only at opened
  split at opened
  · cases opened
    exact sound
  · obtain ⟨⟨final, next, attempts⟩, tries, answered⟩ :=
      Option.bind_eq_some_iff.mp opened
    cases answered
    obtain ⟨handled, lives⟩ :=
      openFrom?_spec counts sound.roster.objects sound.roster.settled
        tries
    refine sound.handled handled _ _ ?_
    intro object
    have added := lives object
    unfold successes at added
    rw [List.count_append, sound.roster.adapters object, added,
      Nat.add_assoc]

/-- Releasing an adapter keeps the lists sound. -/
theorem Sound.releaseAdapter
    {object : Nat}
    (sound : registry.Sound)
    (released : registry.releaseAdapter? object = some changed) :
    changed.Sound := by
  obtain ⟨provider, found, released⟩ :=
    Option.bind_eq_some_iff.mp released
  obtain ⟨present, owner⟩ :=
    (KeyedList.find?_eq_some_iff sound.roster.objects).mp found
  split at released
  · contradiction
  · rename_i some
    cases released
    have settled := sound.roster.settled provider present
    have relation :
        Handled provider
          { provider with adapters := provider.adapters - 1 } := by
      refine ⟨⟨rfl, rfl, rfl, fun _ => ⟨?_, settled.released⟩⟩, rfl⟩
      exact { settled.consistent with
        adapters := fun _ => settled.consistent.adapters some }
    have unchanged (other : Provider) : Handled other other :=
      ⟨⟨rfl, rfl, rfl, id⟩, rfl⟩
    have same :
        ({ provider with adapters := provider.adapters - 1 } :
          Provider).object = provider.object := rfl
    refine sound.handled
      (KeyedList.forall₂_replace unchanged sound.roster.objects present
        same relation) _ _ ?_
    intro other
    rw [sound.roster.adapters other, List.count_append]
    unfold live
    rw [KeyedList.total_replace sound.roster.objects present same]
    split
    · rename_i here
      subst here
      rw [KeyedList.total_of_mem sound.roster.objects present, owner]
      simp only [List.count_singleton_self]
      omega
    · rename_i elsewhere
      rw [owner] at elsewhere
      simp [Ne.symm elsewhere]

end Opening

/-!
### Whole runs
-/

section Runs

variable
  {registry changed : Registry}
  {action : Action}
  {actions : List Action}

/-- A provider change leaves a roster, sound if the catalog could be read. -/
theorem Sound.processProviderChange
    {catalog : CatalogAnswers}
    {answers : Nat → ScanAnswers}
    (sound : registry.Sound)
    (counts : ∀ round, (answers round).Counts)
    (processed :
      registry.processProviderChange? catalog answers = some changed) :
    changed.Sound := by
  unfold processProviderChange? at processed
  split at processed
  · cases processed
    exact sound
  · split at processed
    · cases processed
      exact sound
    · split at processed
      · cases processed
        exact sound
      · exact sound.roster.markInactive.addProviders.processAddressChange
          counts processed

/-- Every section keeps the lists sound. -/
theorem Sound.step
    (sound : registry.Sound)
    (counts : action.Counts)
    (stepped : step? registry action = some changed) :
    changed.Sound := by
  cases action with
  | providerChange catalog answers canUnloadNow =>
      obtain ⟨middle, processed, flushed⟩ :=
        Option.bind_eq_some_iff.mp stepped
      exact ((sound.processProviderChange counts.1 processed
        ).flushProviders counts.2 flushed).1
  | addressChange answers canUnloadNow =>
      obtain ⟨middle, processed, flushed⟩ :=
        Option.bind_eq_some_iff.mp stepped
      exact ((sound.roster.processAddressChange counts.1 processed
        ).flushProviders counts.2 flushed).1
  | flushProvidersForUser canUnloadNow =>
      exact (sound.flushProviders counts stepped).1
  | openAdapter iid sockaddr answers =>
      obtain ⟨⟨status, middle, tried⟩, opened, answered⟩ :=
        Option.bind_eq_some_iff.mp stepped
      cases answered
      exact sound.openAdapter counts opened
  | releaseAdapter object =>
      exact sound.releaseAdapter stepped

/-- The lists are sound after every run. -/
theorem sound_of_run
    (counts : ∀ action ∈ actions, action.Counts)
    (ran : run? step? initial actions = some registry) :
    registry.Sound :=
  invariant_of_everyStep
    (fun sound counts stepped => sound.step counts stepped)
    sound_initial
    (everyStep_of_forall_mem
      (fun action present _ => counts action present) initial)
    ran

end Runs

end Registry

end GameCapturer.Framework
