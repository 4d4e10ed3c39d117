import GameCapturer.Framework.RegistryRuns

namespace GameCapturer.Framework

open Foundation Foundation.StepFunction
open Sockaddr

/-!
# Looking up an address in a reachable framework

`CheckAddress`, `ResolveAddress` and `OpenAdapter` compare a caller's address
with the stored ones.  They agree on which addresses are served, read only what
the caller promises, and never meet a provider that is gone.
-/

namespace Registry

/-- A stored address that the comparison takes for the given one. -/
def Named (sockaddr : List UInt8) (address : Address) : Prop :=
  address.host? = Sockaddr.host? sockaddr ∨ address.Crossed sockaddr

instance (sockaddr : List UInt8) (address : Address) :
    Decidable (Named sockaddr address) :=
  inferInstanceAs (Decidable (_ ∨ _))

/-- The providers of the stored addresses that are taken for the given one. -/
def candidates
    (sockaddr : List UInt8)
    (addresses : List Address) : List Nat :=
  (addresses.filter fun address => Named sockaddr address).map
    Address.provider

/-- An address that one of the two lists serves. -/
def Serves (registry : Registry) (sockaddr : List UInt8) : Prop :=
  ∃ address ∈ registry.ndAddrList ++ registry.ndV1AddrList,
    Named sockaddr address

section Searches

variable
  {registry changed : Registry}
  {sockaddr : List UInt8}
  {addresses : List Address}

/-- A valid address is searched for without a fault. -/
theorem anyMatches?_of_valid (valid : Valid sockaddr) :
    ∃ answer,
      anyMatches? sockaddr addresses = some answer ∧
        (answer = true ↔ ∃ address ∈ addresses, Named sockaddr address) := by
  induction addresses with
  | nil =>
      exact ⟨false, rfl, by simp⟩
  | cons address rest inductionHypothesis =>
      obtain ⟨own, compared, named⟩ := address.matches?_of_valid valid
      obtain ⟨answer, searched, found⟩ := inductionHypothesis
      cases own with
      | true =>
          refine ⟨true, by simp [anyMatches?, compared], ?_⟩
          exact iff_of_true rfl
            ⟨address, List.mem_cons_self, named.mp rfl⟩
      | false =>
          refine ⟨answer, by simp [anyMatches?, compared, searched], ?_⟩
          have other : ¬ Named sockaddr address :=
            fun same => absurd (named.mpr same) Bool.false_ne_true
          rw [found, List.exists_mem_cons_iff, or_iff_right other]

/-- Both lists are searched, and nothing else decides the answer. -/
theorem search_of_valid (valid : Valid sockaddr) :
    ∃ modern legacy,
      anyMatches? sockaddr registry.ndAddrList = some modern ∧
        anyMatches? sockaddr registry.ndV1AddrList = some legacy ∧
        ((modern || legacy) = true ↔ registry.Serves sockaddr) := by
  obtain ⟨modern, first, inModern⟩ :=
    @anyMatches?_of_valid sockaddr registry.ndAddrList valid
  obtain ⟨legacy, second, inLegacy⟩ :=
    @anyMatches?_of_valid sockaddr registry.ndV1AddrList valid
  refine ⟨modern, legacy, first, second, ?_⟩
  rw [Bool.or_eq_true, inModern, inLegacy]
  simp only [Serves, List.mem_append, or_and_right, exists_or]

/-- An address is served exactly when one of the lists has candidates. -/
theorem serves_iff :
    registry.Serves sockaddr ↔
      candidates sockaddr registry.ndAddrList ≠ [] ∨
        candidates sockaddr registry.ndV1AddrList ≠ [] := by
  have nonempty (addresses : List Address) :
      candidates sockaddr addresses ≠ [] ↔
        ∃ address ∈ addresses, Named sockaddr address := by
    simp [candidates, List.filter_eq_nil_iff]
  rw [nonempty, nonempty]
  simp only [Serves, List.mem_append, or_and_right, exists_or]

/-- Validation answers success or a failure. -/
theorem validate?_cases (bytes : List UInt8) :
    Valid bytes ∧ validate? bytes = some ndSuccess ∨
      ¬ Valid bytes ∧
        ∃ status, validate? bytes = some status ∧ Failed status := by
  have parameter : Failed ndInvalidParameter2 := by decide
  have unknown : Failed ndInvalidAddress := by decide
  by_cases valid : Valid bytes
  · exact .inl ⟨valid, (validate?_eq_success_iff bytes).mpr valid⟩
  · refine .inr ⟨valid, ?_⟩
    obtain ⟨status, answered⟩ :=
      Option.isSome_iff_exists.mp (validate?_isSome bytes)
    refine ⟨status, answered, ?_⟩
    have other : status ≠ ndSuccess := fun same =>
      valid ((validate?_eq_success_iff bytes).mp (same ▸ answered))
    unfold validate? at answered
    split at answered
    · cases answered
      exact parameter
    · split at answered
      · cases answered
        exact parameter
      · obtain ⟨family, -, answered⟩ :=
          Option.bind_eq_some_iff.mp answered
        (repeat' split at answered) <;> cases answered <;>
          first | assumption | exact absurd rfl other

/--
Every caller's address is answered from its own bytes alone, and accepted
exactly when it is valid and one of the lists serves it.
-/
theorem checkAddress?_spec :
    ∃ status,
      registry.checkAddress? sockaddr = some status ∧
        (status = ndSuccess ↔
          Valid sockaddr ∧ registry.Serves sockaddr) ∧
        (Valid sockaddr →
          ¬ registry.Serves sockaddr → status = ndInvalidAddress) := by
  have success : ¬ Failed ndSuccess := by decide
  have refused : ndInvalidAddress ≠ ndSuccess := by decide
  rcases validate?_cases sockaddr with
    ⟨valid, validated⟩ | ⟨invalid, status, validated, failed⟩
  · obtain ⟨modern, legacy, first, second, serves⟩ :=
      @search_of_valid registry sockaddr valid
    simp only [checkAddress?, validated, Option.bind_eq_bind,
      Option.bind_some, success, ↓reduceIte, first, second]
    cases modern with
    | true =>
        have served := serves.mp rfl
        exact ⟨_, rfl, iff_of_true rfl ⟨valid, served⟩,
          fun _ other => absurd served other⟩
    | false =>
        cases legacy with
        | true =>
            have served := serves.mp rfl
            exact ⟨_, rfl, iff_of_true rfl ⟨valid, served⟩,
              fun _ other => absurd served other⟩
        | false =>
            have other : ¬ registry.Serves sockaddr := fun served =>
              absurd (serves.mpr served) Bool.false_ne_true
            exact ⟨_, rfl,
              iff_of_false refused fun both => other both.2,
              fun _ _ => rfl⟩
  · refine ⟨status, ?_, ?_, fun valid => absurd valid invalid⟩
    · simp [checkAddress?, validated, failed]
    · refine iff_of_false ?_ fun both => invalid both.1
      exact fun same => success (same ▸ failed)

end Searches

/-!
### Opening an adapter
-/

/--
The attempts of `OpenAdapter`: candidates in list order, up to the first that
succeeds; the status is that of the last attempt.
-/
structure Attempts
    (wanted : List Nat)
    (status last : HResult)
    (tried : List (Nat × HResult)) : Prop where
  order : tried.map Prod.fst <+: wanted
  failed : ∀ attempt ∈ tried.dropLast, Failed attempt.2
  final : last = (tried.getLast?.map Prod.snd).getD status
  exhausted : Failed last → tried.map Prod.fst = wanted

section Opening

variable
  {registry changed : Registry}
  {providers next : List Provider}
  {iid : Iid}
  {sockaddr : List UInt8}
  {answers : Nat → Provider.OpenAnswers}
  {addresses : List Address}
  {attempt : Nat}
  {status last : HResult}
  {tried : List (Nat × HResult)}

/-- A failed attempt is followed by the attempts at the remaining addresses. -/
theorem Attempts.cons
    {object : Nat}
    {answer : HResult}
    {wanted : List Nat}
    (attempts : Attempts wanted answer last tried)
    (failed : Failed answer) :
    Attempts (object :: wanted) status last
      ((object, answer) :: tried) where
  order := by
    rw [List.map_cons]
    exact List.prefix_cons_inj object |>.mpr attempts.order
  failed := by
    cases tried with
    | nil =>
        simp
    | cons next rest =>
        rw [List.dropLast_cons_cons]
        exact List.forall_mem_cons.mpr ⟨failed, attempts.failed⟩
  final := by
    rw [attempts.final, List.getLast?_cons]
    cases tried.getLast? <;> rfl
  exhausted := fun failedLast => by
    rw [List.map_cons, attempts.exhausted failedLast]

/-- The loop tries the candidates in order. -/
theorem openFrom?_order
    (valid : Valid sockaddr)
    (failed : Failed status)
    (opened :
      openFrom? iid sockaddr answers addresses attempt status providers =
        some (last, next, tried)) :
    Attempts (candidates sockaddr addresses) status last tried := by
  induction addresses generalizing attempt status providers tried with
  | nil =>
      cases opened
      exact ⟨List.prefix_rfl, by simp, rfl, fun _ => rfl⟩
  | cons address rest inductionHypothesis =>
      obtain ⟨verdict, compared, named⟩ := address.matches?_of_valid valid
      rcases openFrom?_cons_cases opened with
        ⟨different, remaining⟩ |
          ⟨same, provider, answer, handled, -, -, outcome⟩
      · rw [compared] at different
        cases different
        have other : ¬ Named sockaddr address :=
          fun same => absurd (named.mpr same) Bool.false_ne_true
        unfold candidates
        rw [List.filter_cons_of_neg (by simpa using other)]
        exact inductionHypothesis failed remaining
      · rw [compared] at same
        cases same
        have here : Named sockaddr address := named.mp rfl
        unfold candidates
        rw [List.filter_cons_of_pos (by simpa using here),
          List.map_cons]
        rcases outcome with
          ⟨success, rfl, -, rfl⟩ | ⟨refused, others, rfl, remaining⟩
        · exact ⟨by simp, by simp, rfl,
            fun failedLast => absurd failedLast success⟩
        · exact (inductionHypothesis refused remaining).cons refused

/-- The loop meets no fault while every address has a listed provider. -/
theorem openFrom?_answers
    {legacy : Bool}
    (valid : Valid sockaddr)
    (counts :
      ∀ attempt, Provider.Counts (answers attempt).canUnloadNow)
    (reports : ∀ attempt, (answers attempt).acquire.Reports)
    (distinct : (providers.map Provider.object).Nodup)
    (settled : ∀ provider ∈ providers, provider.Settled)
    (served : ∀ address ∈ addresses, Served providers legacy address) :
    (openFrom? iid sockaddr answers addresses attempt status
      providers).isSome := by
  induction addresses generalizing attempt status providers with
  | nil =>
      rfl
  | cons address rest inductionHypothesis =>
      obtain ⟨here, after⟩ := List.forall_mem_cons.mp served
      obtain ⟨verdict, compared, -⟩ := address.matches?_of_valid valid
      unfold openFrom?
      rw [compared]
      cases verdict with
      | false =>
          exact inductionHypothesis distinct settled after
      | true =>
          obtain ⟨provider, present, object, -⟩ := here.owner
          have found :=
            (KeyedList.find?_eq_some_iff distinct).mpr
              ⟨present, object⟩
          obtain ⟨answer, handled, asked⟩ :=
            Provider.openAdapter?_answers (settled provider present) iid
              (answers attempt) (reports attempt)
          simp only [Option.bind_eq_bind, Option.bind_some, ↓reduceIte,
            found, asked]
          split
          · obtain ⟨relation, -⟩ :=
              handled_of_openAdapter (counts attempt) distinct settled
                found asked
            have objects :=
              KeyedList.map_of_forall₂ Provider.object
                (fun _ _ own => own.serviced.object) relation
            have still :=
              @inductionHypothesis
                (replaceProvider handled providers) (attempt + 1) answer
                (objects ▸ distinct)
                (fun other member => by
                  obtain ⟨old, listed, own⟩ :=
                    KeyedList.exists_old relation member
                  exact own.serviced.settled (settled old listed))
                (fun other member => by
                  obtain ⟨known, owner, listed, same, mark, kind⟩ :=
                    after other member
                  obtain ⟨new, kept, own⟩ :=
                    KeyedList.exists_new relation listed
                  exact ⟨known, new, kept,
                    own.serviced.object.trans same,
                    own.active.trans mark,
                    own.serviced.version ▸ kind⟩)
            obtain ⟨result, answered⟩ :=
              Option.isSome_iff_exists.mp still
            rw [answered]
            rfl
          · rfl

/-- Nothing is tried exactly when there is no candidate. -/
theorem Attempts.eq_nil_iff
    {wanted : List Nat}
    (attempts : Attempts wanted ndInvalidAddress last tried) :
    tried = [] ↔ wanted = [] := by
  constructor
  · rintro rfl
    have failed : Failed last := by
      rw [attempts.final]
      decide
    exact (attempts.exhausted failed).symm
  · rintro rfl
    exact List.map_eq_nil_iff.mp (List.prefix_nil.mp attempts.order)

/-- An invalid address is refused before any provider is asked. -/
theorem openAdapter?_order
    (opened :
      registry.openAdapter? iid sockaddr answers =
        some (status, changed, tried)) :
    (Valid sockaddr ∧
        Attempts (candidates sockaddr (registry.searched iid))
          ndInvalidAddress status tried) ∨
      ¬ Valid sockaddr ∧ Failed status ∧ tried = [] := by
  have success : ¬ Failed ndSuccess := by decide
  obtain ⟨verdict, validated, opened⟩ :=
    Option.bind_eq_some_iff.mp opened
  dsimp only at opened
  rcases validate?_cases sockaddr with
    ⟨valid, accepted⟩ | ⟨invalid, refusal, refused, failed⟩
  · rw [validated] at accepted
    cases accepted
    rw [if_neg success] at opened
    obtain ⟨⟨final, next, attempts⟩, tries, answered⟩ :=
      Option.bind_eq_some_iff.mp opened
    cases answered
    exact .inl ⟨valid, openFrom?_order valid (by decide) tries⟩
  · rw [validated] at refused
    cases refused
    rw [if_pos failed] at opened
    cases opened
    exact .inr ⟨invalid, failed, rfl⟩

/--
In any reachable state, opening an adapter for any bytes answers without a
fault: it asks the active providers of the candidates in list order up to the
first success, and returns the status of the last one asked.
-/
theorem openAdapter_answers_of_run
    {actions : List Action}
    (counts : ∀ action ∈ actions, action.Counts)
    (ran : run? step? initial actions = some registry)
    (own : ∀ attempt, Provider.Counts (answers attempt).canUnloadNow)
    (reports : ∀ attempt, (answers attempt).acquire.Reports) :
    ∃ status changed tried,
      registry.openAdapter? iid sockaddr answers =
          some (status, changed, tried) ∧
        ((Valid sockaddr ∧
            Attempts (candidates sockaddr (registry.searched iid))
              ndInvalidAddress status tried) ∨
          ¬ Valid sockaddr ∧ Failed status ∧ tried = []) := by
  have sound := sound_of_run counts ran
  have success : ¬ Failed ndSuccess := by decide
  have answered :
      (registry.openAdapter? iid sockaddr answers).isSome := by
    rcases validate?_cases sockaddr with
      ⟨valid, accepted⟩ | ⟨-, refusal, refused, failed⟩
    · have served :
          ∃ legacy,
            ∀ address ∈ registry.searched iid,
              Served registry.providerList legacy address := by
        unfold searched
        split
        · exact ⟨true, sound.legacy⟩
        · exact ⟨false, sound.modern⟩
      obtain ⟨legacy, served⟩ := served
      have tries :=
        @openFrom?_answers _ iid _ _ _ 0 ndInvalidAddress legacy valid
          own reports sound.roster.objects sound.roster.settled served
      obtain ⟨result, looped⟩ := Option.isSome_iff_exists.mp tries
      simp only [openAdapter?, accepted, Option.bind_eq_bind,
        Option.bind_some, success, ↓reduceIte, looped]
      rfl
    · simp only [openAdapter?, refused, Option.bind_eq_bind,
        Option.bind_some, failed, ↓reduceIte]
      rfl
  obtain ⟨⟨status, changed, tried⟩, opened⟩ :=
    Option.isSome_iff_exists.mp answered
  exact ⟨status, changed, tried, opened, openAdapter?_order opened⟩

/-- The one provider that reported the address is the only one tried. -/
theorem openAdapter_answers_sample :
    ∃ status changed tried,
      sampleRegistry.openAdapter? .ind2Adapter sampleV4.sockaddr
          (fun _ => opensAdapter) =
        some (status, changed, tried) ∧
      tried.map Prod.fst <+: [1] := by
  obtain ⟨status, changed, tried, opened, ⟨-, attempts⟩ | ⟨invalid, -⟩⟩ :=
    @openAdapter_answers_of_run sampleRegistry .ind2Adapter
      sampleV4.sockaddr (fun _ => opensAdapter) sampleRun
      counts_sampleRun ran_sampleRun (fun _ => Provider.counts_countingLibrary)
      (fun _ => by decide)
  · refine ⟨status, changed, tried, opened, ?_⟩
    have wanted :
        candidates sampleV4.sockaddr
            (sampleRegistry.searched .ind2Adapter) =
          [1] := by
      decide +kernel
    exact wanted ▸ attempts.order
  · exact absurd (by decide) invalid

/--
`CheckAddress` succeeds exactly for the addresses for which `OpenAdapter` would
ask some provider, for one of the two kinds of interfaces.
-/
theorem check_agrees_with_open
    {other : Registry}
    {legacyStatus : HResult}
    {legacyTried : List (Nat × HResult)}
    {legacyAnswers : Nat → Provider.OpenAnswers}
    (modern : iid ≠ .indAdapter)
    (opened :
      registry.openAdapter? iid sockaddr answers =
        some (status, changed, tried))
    (openedLegacy :
      registry.openAdapter? .indAdapter sockaddr legacyAnswers =
        some (legacyStatus, other, legacyTried)) :
    registry.checkAddress? sockaddr = some ndSuccess ↔
      tried ≠ [] ∨ legacyTried ≠ [] := by
  obtain ⟨verdict, checked, accepted, -⟩ :=
    @checkAddress?_spec registry sockaddr
  rw [checked, Option.some_inj, accepted, serves_iff]
  rcases openAdapter?_order opened with
    ⟨valid, attempts⟩ | ⟨invalid, -, rfl⟩
  · rcases openAdapter?_order openedLegacy with
      ⟨-, legacyAttempts⟩ | ⟨invalid, -⟩
    · rw [searched, if_neg modern] at attempts
      rw [searched, if_pos rfl] at legacyAttempts
      rw [ne_eq tried, ne_eq legacyTried, attempts.eq_nil_iff,
        legacyAttempts.eq_nil_iff]
      exact and_iff_right valid
    · exact absurd valid invalid
  · rcases openAdapter?_order openedLegacy with
      ⟨valid, -⟩ | ⟨-, -, rfl⟩
    · exact absurd valid invalid
    · exact iff_of_false (fun both => invalid both.1)
        (fun some => some.elim (absurd rfl) (absurd rfl))

/-- An address that an adapter is opened for passes the check. -/
theorem check_agrees_with_open_sample :
    sampleRegistry.checkAddress? sampleV4.sockaddr = some ndSuccess := by
  have enabled :
      (sampleRegistry.openAdapter? .ind2Adapter sampleV4.sockaddr
        fun _ => opensAdapter).isSome := by
    decide +kernel
  have enabledLegacy :
      (sampleRegistry.openAdapter? .indAdapter sampleV4.sockaddr
        fun _ => opensAdapter).isSome := by
    decide +kernel
  obtain ⟨⟨status, changed, tried⟩, opened⟩ :=
    Option.isSome_iff_exists.mp enabled
  obtain ⟨⟨legacyStatus, other, legacyTried⟩, openedLegacy⟩ :=
    Option.isSome_iff_exists.mp enabledLegacy
  refine (check_agrees_with_open (by decide) opened openedLegacy).mpr
    (.inl ?_)
  rintro rfl
  have asked :
      (sampleRegistry.openAdapter? .ind2Adapter sampleV4.sockaddr
          fun _ => opensAdapter).map (fun result => result.2.2.length) =
        some 1 := by
    decide +kernel
  rw [opened] at asked
  cases asked

end Opening

/-!
### Resolving a route
-/

section Routes

variable
  {registry : Registry}
  {cbLocalAddress : UInt64}
  {answer : RoutingAnswer}

/-- The cap leaves nothing in the high half. -/
theorem storeLow_capLength (dword : UInt32) :
    storeLow (capLength cbLocalAddress) dword = dword.toUInt64 := by
  have capped : (capLength cbLocalAddress).toNat < 2 ^ 32 := by
    unfold capLength
    split
    · decide
    · rename_i fits
      rw [UInt64.not_lt, UInt64.le_iff_toNat_le] at fits
      exact Nat.lt_of_le_of_lt fits (by decide)
  have high : capLength cbLocalAddress / 0x100000000 = 0 := by
    apply UInt64.toNat_inj.mp
    rw [UInt64.toNat_div]
    exact Nat.div_eq_of_lt capped
  rw [storeLow, high, UInt64.zero_mul, UInt64.zero_add]

/--
A query always leaves the exact length, whatever length it was passed.  A local
address that it finds gets the status that `CheckAddress` gives it, and a buffer
that is too short is told apart from the other faults.
-/
theorem resolve_agrees_with_check
    (found :
      answer.socketError = false → Valid answer.pLocalAddress) :
    ∃ status,
      registry.resolveAddress? cbLocalAddress answer =
          some (status, answer.length.toUInt64) ∧
        (answer.socketError = false →
          registry.checkAddress? answer.pLocalAddress = some status) ∧
        (status = ndBufferOverflow ↔
          answer.socketError = true ∧
            answer.lastError = wsaEFault ∧
            capLength cbLocalAddress < answer.length.toUInt64) := by
  have success : ¬ Failed ndSuccess := by decide
  unfold resolveAddress?
  simp only [storeLow_capLength]
  cases failed : answer.socketError with
  | false =>
      have valid := found failed
      obtain ⟨modern, legacy, first, second, -⟩ :=
        @search_of_valid registry _ valid
      have validated :=
        (validate?_eq_success_iff answer.pLocalAddress).mpr valid
      simp only [checkAddress?, validated, success, first, second,
        Option.bind_eq_bind, Option.bind_some, Bool.false_eq_true,
        ↓reduceIte, false_and, iff_false, true_implies]
      cases modern with
      | true =>
          exact ⟨_, rfl, rfl, by decide⟩
      | false =>
          cases legacy with
          | true =>
              exact ⟨_, rfl, rfl, by decide⟩
          | false =>
              exact ⟨_, rfl, rfl, by decide⟩
  | true =>
      simp only [↓reduceIte, Bool.true_eq_false, false_implies, true_and]
      split
      · rename_i short
        exact ⟨_, rfl, iff_of_true rfl short⟩
      · rename_i other
        split
        · exact ⟨_, rfl, iff_of_false (by decide) other⟩
        · split
          · exact ⟨_, rfl, iff_of_false (by decide) other⟩
          · exact ⟨_, rfl, iff_of_false (by decide) other⟩

/-- A route over a listed address is resolved to the 16 bytes of it. -/
theorem resolve_agrees_sample :
    sampleRegistry.resolveAddress? 0xFFFFFFFFFFFFFFFF
        { socketError := false
          lastError := 0
          length := 16
          pLocalAddress := sampleV4.sockaddr } =
      some (ndSuccess, 16) := by
  obtain ⟨status, resolved, checked, -⟩ :=
    @resolve_agrees_with_check sampleRegistry 0xFFFFFFFFFFFFFFFF
      { socketError := false
        lastError := 0
        length := 16
        pLocalAddress := sampleV4.sockaddr }
      (fun _ => by decide)
  have accepted :
      sampleRegistry.checkAddress? sampleV4.sockaddr =
        some ndSuccess := by
    decide +kernel
  rw [checked rfl] at accepted
  cases accepted
  exact resolved

end Routes

/-!
### Querying the lists
-/

/-- The addresses that the flags of a query do not exclude. -/
def selected (registry : Registry) (flags : UInt32) : List Address :=
  (if flags &&& ndQueryExcludeNdV2Addresses = 0 then
      registry.ndAddrList
    else
      []) ++
    if flags &&& ndQueryExcludeNdV1Addresses = 0 then
      registry.ndV1AddrList
    else
      []

/--
In any reachable state a query with any flags, buffer and capacity is about all
stored addresses that the flags do not exclude, up to `INT_MAX`: it reports the
exact size they take, or delivers each of them and writes nowhere else.
-/
theorem query_answered_of_run
    {registry : Registry}
    {actions : List Action}
    (counts : ∀ action ∈ actions, action.Counts)
    (ran : run? step? initial actions = some registry)
    (flags : UInt32)
    (pAddressList : Option Nat)
    (capacity : Nat)
    (memory : StructLoad.Bytes) :
    QueryAnswered ((registry.selected flags).take intMax) pAddressList
      capacity memory
      (queryAddressList registry.ndAddrList registry.ndV1AddrList flags
        pAddressList capacity memory) := by
  have sound := sound_of_run counts ran
  have known : ∀ address ∈ registry.selected flags, address.Known := by
    intro address present
    rcases List.mem_append.mp present with modern | legacy
    · split at modern
      · exact (sound.modern address modern).known
      · contradiction
    · split at legacy
      · exact (sound.legacy address legacy).known
      · contradiction
  have all :
      listed registry.ndAddrList registry.ndV1AddrList flags =
        (registry.selected flags).take intMax := by
    have kept :
        (registry.selected flags).filter (fun address => address.Known) =
          registry.selected flags :=
      List.filter_eq_self.mpr fun address present =>
        decide_eq_true (known address present)
    exact congrArg (List.take intMax) kept
  rw [← all]
  exact queryAddressList_spec registry.ndAddrList registry.ndV1AddrList
    flags capacity memory pAddressList

/-- A query without a buffer is told the size of the one stored address. -/
theorem query_answered_sample :
    (queryAddressList sampleRegistry.ndAddrList
        sampleRegistry.ndV1AddrList 0 none 0 fun _ => 0).cbAddressList =
      40 := by
  have answered :=
    (query_answered_of_run counts_sampleRun ran_sampleRun 0 none 0
      fun _ => 0).size (by decide +kernel) (by simp)
  rw [answered]
  decide +kernel

end Registry

end GameCapturer.Framework
