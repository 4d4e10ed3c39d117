import GameCapturer.Framework.Registry

namespace GameCapturer.Framework

open Foundation
open Sockaddr

/-!
# What one pass over the providers leaves behind

The pass of `ProcessAddressChange` shares one buffer and one length between all
providers.  The first part follows which addresses end up in the two lists, the
second part what the calls are told about the buffer.
-/

/-- A provider after a call that has returned everything it obtained. -/
structure Provider.Tended (provider next : Provider) : Prop where
  same : provider.SameObject next
  settled : next.Settled
  adapters : next.adapters = provider.adapters

namespace Registry

/-- The effect of one call on the locals. -/
structure Asked
    (retry : Bool)
    (call : Provider.QueryCall)
    (scan : AddressScan)
    (status : HResult)
    (later : AddressScan) : Prop where
  ndAddrList : later.ndAddrList = scan.ndAddrList
  ndV1AddrList : later.ndV1AddrList = scan.ndV1AddrList
  calls :
    later.calls =
      scan.calls ++ [{
        size := scan.pAddrList.map QueryBuffer.size
        told := scan.len
        retry
        status
        left := later.len
      }]
  size :
    later.pAddrList.map QueryBuffer.size =
      scan.pAddrList.map QueryBuffer.size
  answered :
    status = ndDeviceNotReady ∨
      status = call.status ∧
        later.len = call.length ∧
        later.pAddrList =
          scan.pAddrList.map fun buffer =>
            { buffer with contents := call.contents }

/-- A library keeps its count in both calls of a round. -/
def ScanAnswers.Counts (answers : ScanAnswers) : Prop :=
  Provider.Counts answers.first.canUnloadNow ∧
    Provider.Counts answers.second.canUnloadNow

/-- What an active provider reports, whatever buffer it is passed. -/
def reported?
    (provider : Provider)
    (answers : ScanAnswers) : Option SocketAddressList := do
  let (status, _, provider) ← provider.queryAddressList? answers.first
  if status = ndBufferOverflow then
    if answers.allocated then
      let (status, _, _) ← provider.queryAddressList? answers.second
      if Failed status then none else some answers.second.contents
    else
      none
  else
    if Failed status then none else some answers.first.contents

/-- The addresses that a provider contributes to the lists. -/
def contribution
    (provider : Provider)
    (answers : ScanAnswers) : List Address :=
  if provider.active then
    match reported? provider answers with
    | none => []
    | some contents =>
        (buildAddressList? provider.object contents
          answers.heap []).getD []
  else
    []

/-- The contributions of all providers of one kind, in list order. -/
def contributions
    (legacy : Bool)
    (answers : Nat → ScanAnswers) :
    List Provider → Nat → List Address
  | [], _ => []
  | provider :: rest, round =>
      (if decide (provider.version = ndVersion1) = legacy then
        contribution provider (answers round)
      else
        []) ++
        contributions legacy answers rest (round + 1)

section Calls

variable
  {provider next : Provider}
  {call : Provider.QueryCall}
  {scan later : AddressScan}
  {status : HResult}
  {retry : Bool}

/-- One call tends the provider and changes only its own part of the locals. -/
theorem askProvider?_spec
    (counts : Provider.Counts call.canUnloadNow)
    (settled : provider.Settled)
    (asked :
      askProvider? provider retry call scan =
        some (status, next, later)) :
    (∃ reached,
        provider.queryAddressList? call = some (status, reached, next)) ∧
      provider.Tended next ∧ Asked retry call scan status later := by
  obtain ⟨⟨answer, reached, other⟩, queried, asked⟩ :=
    Option.bind_eq_some_iff.mp asked
  obtain ⟨same, kept, adapters, refused, answered⟩ :=
    Provider.queryAddressList?_spec counts settled queried
  cases asked
  refine ⟨⟨reached, queried⟩, ⟨same, kept, adapters⟩, rfl, rfl, rfl,
    ?_, ?_⟩
  · cases reached with
    | false =>
        rfl
    | true =>
        simp only [↓reduceIte, Option.map_map]
        rfl
  · cases reached with
    | false =>
        exact .inl (refused rfl)
    | true =>
        exact .inr ⟨answered rfl, rfl, rfl⟩

/-- A successful call has reached the provider. -/
theorem Asked.succeeded
    (asked : Asked retry call scan status later)
    (success : ¬ Failed status) :
    status = call.status ∧
      later.len = call.length ∧
      later.pAddrList =
        scan.pAddrList.map fun buffer =>
          { buffer with contents := call.contents } :=
  asked.answered.resolve_left fun refused =>
    success (refused ▸ by decide)

/-- Addresses are added behind the list, whatever it holds. -/
theorem buildAddresses?_append
    {entries : List SocketAddress}
    {heap : Nat → SockaddrInet}
    {object remaining index : Nat}
    {leading pList : List Address} :
    buildAddresses? object entries heap remaining index
        (leading ++ pList) =
      (buildAddresses? object entries heap remaining index pList).map
        (leading ++ ·) := by
  induction remaining generalizing index pList with
  | zero =>
      rfl
  | succ remaining inductionHypothesis =>
      simp only [buildAddresses?, Option.bind_eq_bind,
        Option.map_bind]
      congr 1
      funext entry
      simp only [Function.comp_apply, Option.map_bind]
      congr 1
      funext verdict
      cases verdict with
      | false =>
          exact inductionHypothesis
      | true =>
          simp only [↓reduceIte, Function.comp_apply, Option.map_bind,
            List.append_assoc, inductionHypothesis]

/-- Where the addresses of a report are added, by the version. -/
structure Stored
    (provider : Provider)
    (scan later : AddressScan)
    (table : List Address) : Prop where
  pAddrList : later.pAddrList = scan.pAddrList
  len : later.len = scan.len
  calls : later.calls = scan.calls
  ndAddrList :
    later.ndAddrList =
      scan.ndAddrList ++
        if provider.version = ndVersion1 then [] else table
  ndV1AddrList :
    later.ndV1AddrList =
      scan.ndV1AddrList ++
        if provider.version = ndVersion1 then table else []

/-- Storing adds what the buffer holds after a success, else nothing. -/
theorem storeAddresses?_spec
    {heap : Nat → SockaddrInet}
    (stored : storeAddresses? status provider heap scan = some later) :
    ∃ table,
      Stored provider scan later table ∧
        (Failed status ∧ table = [] ∨
          ¬ Failed status ∧
            ∃ buffer,
              scan.pAddrList = some buffer ∧
                buildAddressList? provider.object buffer.contents heap
                    [] =
                  some table) := by
  unfold storeAddresses? at stored
  split at stored
  · rename_i failed
    cases stored
    exact ⟨[], ⟨rfl, rfl, rfl, by simp, by simp⟩, .inl ⟨failed, rfl⟩⟩
  · rename_i success
    obtain ⟨buffer, allocated, stored⟩ :=
      Option.bind_eq_some_iff.mp stored
    have framed (pList : List Address) :=
      @buildAddresses?_append buffer.contents.address heap
        provider.object buffer.contents.iAddressCount.toInt.toNat 0
        pList []
    simp only [List.append_nil] at framed
    split at stored
    · rename_i legacy
      obtain ⟨result, built, answered⟩ :=
        Option.bind_eq_some_iff.mp stored
      cases answered
      rw [buildAddressList?, framed] at built
      obtain ⟨table, made, rfl⟩ := Option.map_eq_some_iff.mp built
      exact ⟨table, ⟨rfl, rfl, rfl, by simp [legacy], by simp [legacy]⟩,
        .inr ⟨success, buffer, allocated, made⟩⟩
    · rename_i modern
      obtain ⟨result, built, answered⟩ :=
        Option.bind_eq_some_iff.mp stored
      cases answered
      rw [buildAddressList?, framed] at built
      obtain ⟨table, made, rfl⟩ := Option.map_eq_some_iff.mp built
      exact ⟨table, ⟨rfl, rfl, rfl, by simp [modern], by simp [modern]⟩,
        .inr ⟨success, buffer, allocated, made⟩⟩

end Calls

section Rounds

variable
  {provider next : Provider}
  {answers : ScanAnswers}
  {scan later : AddressScan}

/-- What a round does for an active provider, by what its calls answer. -/
theorem scanProvider?_cases
    (active : provider.active = true)
    (scanned :
      scanProvider? provider answers scan = some (next, later)) :
    ∃ status middle first,
      askProvider? provider false answers.first scan =
          some (status, middle, first) ∧
        (status ≠ ndBufferOverflow ∧
            next = middle ∧
            storeAddresses? status middle answers.heap first =
              some later ∨
          status = ndBufferOverflow ∧
            answers.allocated = false ∧
            next = middle ∧
            later = { first with pAddrList := none } ∨
          status = ndBufferOverflow ∧
            answers.allocated = true ∧
            ∃ again second,
              askProvider? middle true answers.second
                  (first.allocate answers.uninitialised) =
                some (again, next, second) ∧
              storeAddresses? again next answers.heap second =
                some later) := by
  unfold scanProvider? at scanned
  simp only [active, Bool.not_true, Bool.false_eq_true, ↓reduceIte]
    at scanned
  obtain ⟨⟨status, middle, first⟩, asked, scanned⟩ :=
    Option.bind_eq_some_iff.mp scanned
  refine ⟨status, middle, first, asked, ?_⟩
  dsimp only at scanned
  split at scanned
  · rename_i overflow
    split at scanned
    · rename_i refused
      cases scanned
      exact .inr (.inl
        ⟨overflow, by simpa using refused, rfl, rfl⟩)
    · rename_i allocated
      obtain ⟨⟨again, last, second⟩, retried, scanned⟩ :=
        Option.bind_eq_some_iff.mp scanned
      obtain ⟨result, stored, answered⟩ :=
        Option.bind_eq_some_iff.mp scanned
      cases answered
      exact .inr (.inr
        ⟨overflow, by simpa using allocated, again, second, retried,
          stored⟩)
  · rename_i direct
    obtain ⟨result, stored, answered⟩ :=
      Option.bind_eq_some_iff.mp scanned
    cases answered
    exact .inl ⟨direct, rfl, stored⟩

/-- What is stored after a call is made of what that call has reported. -/
theorem stored_of_asked
    {retry : Bool}
    {call : Provider.QueryCall}
    {status : HResult}
    {heap : Nat → SockaddrInet}
    {middle : AddressScan}
    (asked : Asked retry call scan status middle)
    (stored : storeAddresses? status provider heap middle = some later) :
    Stored provider middle later
      (if Failed status then
        []
      else
        (buildAddressList? provider.object call.contents heap
          []).getD []) := by
  obtain ⟨table, placed, ⟨failed, rfl⟩ | ⟨success, buffer, there, made⟩⟩ :=
    storeAddresses?_spec stored
  · rwa [if_pos failed]
  · obtain ⟨-, -, contents⟩ := asked.succeeded success
    rw [there] at contents
    obtain ⟨old, -, same⟩ := Option.map_eq_some_iff.mp contents.symm
    have reported : buffer.contents = call.contents := by
      rw [← same]
    rw [if_neg success, ← reported, made]
    exact placed

/--
A round adds what the provider contributes, behind the list of its version, and
nothing that the shared buffer held before.
-/
theorem scanProvider?_spec
    (counts : answers.Counts)
    (settled : provider.Settled)
    (scanned :
      scanProvider? provider answers scan = some (next, later)) :
    provider.Tended next ∧
      later.ndAddrList =
        scan.ndAddrList ++
          (if provider.version = ndVersion1 then
            []
          else
            contribution provider answers) ∧
      later.ndV1AddrList =
        scan.ndV1AddrList ++
          (if provider.version = ndVersion1 then
            contribution provider answers
          else
            []) := by
  cases active : provider.active with
  | false =>
      simp only [scanProvider?, active, Bool.not_false, ↓reduceIte]
        at scanned
      cases scanned
      simp only [contribution, active, Bool.false_eq_true, ↓reduceIte,
        ite_self, List.append_nil, and_true]
      exact ⟨.refl provider, settled, rfl⟩
  | true =>
      obtain ⟨status, middle, first, firstAsked, rest⟩ :=
        scanProvider?_cases active scanned
      obtain ⟨⟨reached, queried⟩, tended, asked⟩ :=
        askProvider?_spec counts.1 settled firstAsked
      have object := tended.same.object
      have version := tended.same.version
      rcases rest with
        ⟨direct, rfl, stored⟩ | ⟨overflow, refused, rfl, rfl⟩ |
          ⟨overflow, allocated, again, second, secondAsked, stored⟩
      · have placed := stored_of_asked asked stored
        have added :
            contribution provider answers =
              if Failed status then
                []
              else
                (buildAddressList? next.object answers.first.contents
                  answers.heap []).getD [] := by
          simp only [contribution, active, ↓reduceIte, reported?,
            queried, Option.bind_eq_bind, Option.bind_some, direct,
            object]
          split <;> simp_all
        rw [added, ← version]
        exact ⟨tended, asked.ndAddrList ▸ placed.ndAddrList,
          asked.ndV1AddrList ▸ placed.ndV1AddrList⟩
      · have added : contribution provider answers = [] := by
          simp [contribution, active, reported?, queried, overflow,
            refused]
        simp [added, tended, asked.ndAddrList, asked.ndV1AddrList]
      · obtain ⟨⟨reachedAgain, requeried⟩, tendedAgain, askedAgain⟩ :=
          askProvider?_spec counts.2 tended.settled secondAsked
        have placed := stored_of_asked askedAgain stored
        have objectAgain := tendedAgain.same.object
        have versionAgain := tendedAgain.same.version
        have added :
            contribution provider answers =
              if Failed again then
                []
              else
                (buildAddressList? next.object answers.second.contents
                  answers.heap []).getD [] := by
          simp only [contribution, active, ↓reduceIte, reported?,
            queried, requeried, Option.bind_eq_bind, Option.bind_some,
            overflow, allocated, objectAgain, object]
          split <;> simp_all
        have lists := askedAgain.ndAddrList.trans asked.ndAddrList
        have legacyLists :=
          askedAgain.ndV1AddrList.trans asked.ndV1AddrList
        rw [added, ← version, ← versionAgain]
        refine ⟨⟨tended.same.trans tendedAgain.same,
          tendedAgain.settled,
          tendedAgain.adapters.trans tended.adapters⟩, ?_, ?_⟩
        · rw [placed.ndAddrList, lists]
        · rw [placed.ndV1AddrList, legacyLists]

end Rounds

section Passes

variable
  {providers next : List Provider}
  {answers : Nat → ScanAnswers}
  {round : Nat}
  {scan later : AddressScan}

/-- A whole pass adds the contributions in list order. -/
theorem scanProviders?_spec
    (counts : ∀ round, (answers round).Counts)
    (settled : ∀ provider ∈ providers, provider.Settled)
    (scanned :
      scanProviders? answers providers round scan =
        some (next, later)) :
    List.Forall₂ Provider.Tended providers next ∧
      later.ndAddrList =
        scan.ndAddrList ++
          contributions false answers providers round ∧
      later.ndV1AddrList =
        scan.ndV1AddrList ++
          contributions true answers providers round := by
  induction providers generalizing round scan next with
  | nil =>
      cases scanned
      simp [contributions]
  | cons provider rest inductionHypothesis =>
      obtain ⟨⟨first, middle⟩, own, scanned⟩ :=
        Option.bind_eq_some_iff.mp scanned
      obtain ⟨⟨others, last⟩, remaining, answered⟩ :=
        Option.bind_eq_some_iff.mp scanned
      cases answered
      obtain ⟨here, later⟩ := List.forall_mem_cons.mp settled
      obtain ⟨tended, added, legacyAdded⟩ :=
        scanProvider?_spec (counts round) here own
      obtain ⟨restTended, restAdded, restLegacyAdded⟩ :=
        inductionHypothesis later remaining
      refine ⟨.cons tended restTended, ?_, ?_⟩
      · rw [restAdded, added, contributions, List.append_assoc]
        by_cases legacy : provider.version = ndVersion1 <;>
          simp [legacy]
      · rw [restLegacyAdded, legacyAdded, contributions,
          List.append_assoc]
        by_cases legacy : provider.version = ndVersion1 <;>
          simp [legacy]

/-- A contributed address is known and belongs to an active provider. -/
theorem mem_contributions
    {legacy : Bool}
    {address : Address}
    (contributed :
      address ∈ contributions legacy answers providers round) :
    address.Known ∧
      ∃ provider ∈ providers,
        provider.object = address.provider ∧
          provider.active = true ∧
          decide (provider.version = ndVersion1) = legacy := by
  induction providers generalizing round with
  | nil =>
      simp [contributions] at contributed
  | cons provider rest inductionHypothesis =>
      rcases List.mem_append.mp contributed with own | others
      · split at own
        · rename_i kind
          unfold contribution at own
          split at own
          · rename_i active
            split at own
            · contradiction
            · rename_i contents _
              cases built :
                  buildAddressList? provider.object contents
                    (answers round).heap [] with
              | none =>
                  simp [built] at own
              | some table =>
                  rw [built] at own
                  obtain ⟨added, same, spec⟩ :=
                    buildAddresses?_added built
                  rw [List.nil_append] at same
                  subst same
                  obtain ⟨owner, known⟩ := spec address own
                  exact ⟨known, provider, List.mem_cons_self,
                    owner.symm, active, kind⟩
          · contradiction
        · contradiction
      · obtain ⟨known, owner, present, spec⟩ :=
          inductionHypothesis others
        exact ⟨known, owner, List.mem_cons_of_mem _ present, spec⟩

/-- The pass of `ProcessAddressChange` starts with empty lists. -/
theorem processAddressChange?_spec
    {registry changed : Registry}
    (counts : ∀ round, (answers round).Counts)
    (settled : ∀ provider ∈ registry.providerList, provider.Settled)
    (processed :
      registry.processAddressChange? answers = some changed) :
    List.Forall₂ Provider.Tended registry.providerList
        changed.providerList ∧
      changed = {
        registry with
        providerList := changed.providerList
        ndAddrList := contributions false answers registry.providerList 0
        ndV1AddrList := contributions true answers registry.providerList 0
      } := by
  obtain ⟨⟨providers, scan⟩, scanned, answered⟩ :=
    Option.bind_eq_some_iff.mp processed
  obtain ⟨tended, modern, legacy⟩ :=
    scanProviders?_spec counts settled scanned
  cases answered
  refine ⟨tended, ?_⟩
  dsimp only
  rw [modern, legacy]
  rfl

end Passes

/-!
### The lists in terms of the reports
-/

/-- Both answers of a round are lists with honest counts and lengths. -/
def ScanAnswers.Honest (answers : ScanAnswers) : Prop :=
  answers.first.contents.Honest ∧ answers.second.contents.Honest

/-- The block that is passed has at least the length that is told. -/
def QueryRecord.Fits (record : QueryRecord) : Prop :=
  ∀ size ∈ record.size, record.told.toNat ≤ size

/-- An overflow asks for more than was told; any other answer for no more. -/
def QueryRecord.Respects (record : QueryRecord) : Prop :=
  if record.status = ndBufferOverflow then
    record.told < record.left
  else
    record.left ≤ record.told

/-- A retry for which the block of the first answer was too small again. -/
def QueryRecord.Outgrew (record : QueryRecord) : Prop :=
  record.retry = true ∧ record.status = ndBufferOverflow

/-- The current length does not exceed the current block. -/
def AddressScan.Fits (scan : AddressScan) : Prop :=
  ∀ size ∈ scan.pAddrList.map QueryBuffer.size, scan.len.toNat ≤ size

/--
The calls so far fit unless one of them followed an outgrown retry, and so will
the next one.
-/
structure Balanced (scan : AddressScan) : Prop where
  calls :
    (∀ record ∈ scan.calls, record.Fits) ↔
      ∀ record ∈ scan.calls.dropLast, ¬ record.Outgrew
  fits : (∀ record ∈ scan.calls, ¬ record.Outgrew) → scan.Fits
  outgrown :
    ∀ record ∈ scan.calls.getLast?, record.Outgrew → ¬ scan.Fits

section Capacity

variable
  {provider next : Provider}
  {answers : ScanAnswers}
  {scan later : AddressScan}

/-- One more call keeps the balance if it leaves the locals accordingly. -/
theorem Balanced.append
    {record : QueryRecord}
    (balanced : Balanced scan)
    (calls : later.calls = scan.calls ++ [record])
    (size : record.size = scan.pAddrList.map QueryBuffer.size)
    (told : record.told = scan.len)
    (kept : ¬ record.Outgrew → scan.Fits → later.Fits)
    (outgrown : record.Outgrew → ¬ later.Fits) :
    Balanced later := by
  have same : record.Fits ↔ scan.Fits := by
    unfold QueryRecord.Fits AddressScan.Fits
    rw [size, told]
  constructor
  · rw [calls, List.dropLast_concat]
    constructor
    · intro allFit record present grew
      obtain ⟨allBefore, own⟩ := List.forall_mem_append.mp allFit
      have early := balanced.calls.mp allBefore
      have nonempty : scan.calls ≠ [] := List.ne_nil_of_mem present
      rw [← List.dropLast_concat_getLast nonempty, List.mem_append,
        List.mem_singleton] at present
      rcases present with before | rfl
      · exact early record before grew
      · exact balanced.outgrown _
          (List.getLast?_eq_getLast_of_ne_nil nonempty) grew
          (same.mp (own _ List.mem_cons_self))
    · intro noneGrew
      have early : ∀ record ∈ scan.calls.dropLast, ¬ record.Outgrew :=
        fun record before =>
          noneGrew record (List.dropLast_subset _ before)
      refine List.forall_mem_append.mpr
        ⟨balanced.calls.mpr early, ?_⟩
      simpa [same] using balanced.fits noneGrew
  · intro noneGrew
    rw [calls] at noneGrew
    obtain ⟨before, own⟩ := List.forall_mem_append.mp noneGrew
    exact kept (own record List.mem_cons_self) (balanced.fits before)
  · intro last present grew
    rw [calls, List.getLast?_concat] at present
    cases present
    exact outgrown grew

/-- A call that does not overflow leaves a fitting length if it was told one. -/
theorem Asked.fits
    {retry : Bool}
    {call : Provider.QueryCall}
    {status : HResult}
    (asked : Asked retry call scan status later)
    (respects : ∀ record ∈ later.calls, record.Respects)
    (direct : status ≠ ndBufferOverflow)
    (fits : scan.Fits) :
    later.Fits := by
  have own := respects _ (by
    rw [asked.calls]
    exact List.mem_append_right _ List.mem_cons_self)
  rw [QueryRecord.Respects, if_neg direct] at own
  intro size stored
  rw [asked.size] at stored
  exact Nat.le_trans (UInt32.le_iff_toNat_le.mp own) (fits size stored)

/-- Storing the addresses of a report leaves the buffer alone. -/
theorem Balanced.stored
    {table : List Address}
    (balanced : Balanced scan)
    (stored : Stored provider scan later table) :
    Balanced later := by
  have same : later.Fits ↔ scan.Fits := by
    unfold AddressScan.Fits
    rw [stored.pAddrList, stored.len]
  constructor
  · rw [stored.calls]
    exact balanced.calls
  · rw [stored.calls, same]
    exact balanced.fits
  · rw [stored.calls, same]
    exact balanced.outgrown

end Capacity

end Registry

end GameCapturer.Framework
