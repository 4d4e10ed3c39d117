import GameCapturer.Foundation.PlaceAssertion
import GameCapturer.Foundation.StepFunction
import GameCapturer.Framework.Provider

namespace GameCapturer.Framework

open Foundation Foundation.StepFunction Foundation.PlaceAssertion

/-!
# Loading the library of a provider from several threads

Several callers may be in `GetClassObject` of one provider at the same time;
each may load the library, and one of them installs its handle.  `TryUnload`
must be serialised with all of them.  The model interleaves the accesses one by
one.
-/

/-- The functions that the library of a provider exports. -/
structure Exports where
  getClassObject : Bool
  canUnloadNow : Bool
  deriving Repr, DecidableEq

/-- The functions of a provider that threads call. -/
inductive LoadEntry where
  | getClassObject
  | tryUnload
  deriving Repr, DecidableEq

/-- The next access of a thread; `discard` remembers whether it has failed. -/
inductive LoadPlace where
  | outside
  | test
  | load
  | procGetClassObject
  | procCanUnloadNow
  | install
  | discard (failed : Bool)
  | call
  | testUnload
  | ask
  | free
  | clear
  deriving Repr, DecidableEq

/-- The places at which a thread has a library handle of its own. -/
def LoadPlace.Holds : LoadPlace → Prop
  | procGetClassObject | procCanUnloadNow | install | discard _ => True
  | outside | test | load | call | testUnload | ask | free | clear => False

instance : DecidablePred LoadPlace.Holds := fun place => by
  cases place <;> unfold LoadPlace.Holds <;> infer_instance

/-- The places inside `TryUnload`. -/
def LoadPlace.Unloads : LoadPlace → Prop
  | testUnload | ask | free | clear => True
  | outside | test | load | procGetClassObject | procCanUnloadNow
  | install | discard _ | call => False

/-- What the system and the library answer to one access. -/
structure LoadAnswer where
  loadLibrary : Bool
  getClassObject : HResult
  canUnloadNow : Provider.CanUnloadNow

/-- One access of `GetClassObject` or `TryUnload`, by its place. -/
def LoadPlace.access
    (exports : Exports)
    (answer : LoadAnswer)
    (provider : Provider) : LoadPlace → LoadPlace × Provider
  | outside => (outside, provider)
  | test => (if provider.hProvider then call else load, provider)
  | load =>
      if answer.loadLibrary then
        (procGetClassObject,
          { provider with libraryRefs := provider.libraryRefs + 1 })
      else
        (outside, provider)
  | procGetClassObject =>
      (if exports.getClassObject then procCanUnloadNow else discard true,
        { provider with pfnDllGetClassObject := exports.getClassObject })
  | procCanUnloadNow =>
      (if exports.canUnloadNow then install else discard true,
        { provider with pfnDllCanUnloadNow := exports.canUnloadNow })
  | install =>
      if provider.hProvider then
        (discard false, provider)
      else
        (call, { provider with hProvider := true })
  | discard failed =>
      (if failed then outside else call,
        { provider with libraryRefs := provider.libraryRefs - 1 })
  | call =>
      (outside,
        if Failed answer.getClassObject then
          provider
        else
          { provider with interfaces := provider.interfaces + 1 })
  | testUnload =>
      (if provider.hProvider then ask else outside, provider)
  | ask =>
      (if answer.canUnloadNow provider = ndSuccess then free else outside,
        provider)
  | free =>
      (clear, { provider with libraryRefs := provider.libraryRefs - 1 })
  | clear => (outside, { provider with hProvider := false })

/-- The provider, the threads and which of them hold a handle. -/
structure Loading where
  provider : Provider
  holders : List Nat
  places : Nat → LoadPlace

/-- A thread enters a function or moves on, or an interface is released. -/
inductive LoadAction where
  | enter (thread : Nat) (entry : LoadEntry)
  | advance (thread : Nat) (answer : LoadAnswer)
  | release

namespace Loading

/-- Nobody is in a function of the provider. -/
def quiet (provider : Provider) : Loading where
  provider
  holders := []
  places := fun _ => .outside

/-- A thread moves on with what it has changed. -/
def move
    (state : Loading)
    (thread : Nat)
    (result : LoadPlace × Provider) : Loading where
  provider := result.2
  holders :=
    recount LoadPlace.Holds thread (state.places thread) result.1
      state.holders
  places := Function.update state.places thread result.1

/-- One step of a thread. -/
def step? (exports : Exports) : StepFunction Loading LoadAction
  | state, .enter thread entry =>
      if state.places thread = .outside then
        match entry with
        | .getClassObject => some (state.move thread (.test, state.provider))
        | .tryUnload =>
            some (state.move thread (.testUnload, state.provider))
      else
        none
  | state, .advance thread answer =>
      if state.places thread = .outside then
        none
      else
        some (state.move thread
          ((state.places thread).access exports answer state.provider))
  | state, .release =>
      state.provider.release?.map fun provider => { state with provider }

/-- The next access of a thread uses a library or function that is gone. -/
def Faults (state : Loading) (thread : Nat) : Prop :=
  match state.places thread with
  | .call =>
      state.provider.pfnDllGetClassObject = false ∨
        state.provider.libraryRefs = 0
  | .ask =>
      state.provider.pfnDllCanUnloadNow = false ∨
        state.provider.libraryRefs = 0
  | .procGetClassObject | .procCanUnloadNow | .install | .discard _
  | .free =>
      state.provider.libraryRefs = 0
  | _ => False

/-- The serialisation that callers provide, and a library that counts. -/
def Serialised (state : Loading) : LoadAction → Prop
  | .enter _ .getClassObject =>
      ∀ other, ¬ (state.places other).Unloads
  | .enter _ .tryUnload =>
      ∀ other, state.places other = .outside
  | .advance _ answer => Provider.Counts answer.canUnloadNow
  | .release => True

/-- What a place asserts of the provider. -/
def Asserted (exports : Exports) (place : LoadPlace) (provider : Provider) :
    Prop :=
  match place with
  | .procCanUnloadNow =>
      exports.getClassObject = true ∧
        provider.pfnDllGetClassObject = true
  | .install =>
      (exports.getClassObject = true ∧
          provider.pfnDllGetClassObject = true) ∧
        exports.canUnloadNow = true ∧
        provider.pfnDllCanUnloadNow = true
  | .discard failed => failed = false → provider.hProvider = true
  | .call | .ask => provider.hProvider = true
  | .free =>
      provider.hProvider = true ∧
        provider.interfaces = 0 ∧ provider.adapters = 0
  | .clear =>
      provider.libraryRefs = 0 ∧
        provider.interfaces = 0 ∧ provider.adapters = 0
  | _ => True

/-- What holds in every serialised run. -/
structure Invariant (exports : Exports) (state : Loading) : Prop where
  census : Census LoadPlace.Holds state.holders state.places
  annotated :
    Annotated (Asserted exports) state.places state.provider
  refs :
    (∀ thread, state.places thread ≠ .clear) →
    state.provider.libraryRefs =
      state.holders.length + if state.provider.hProvider then 1 else 0
  functions :
    state.provider.hProvider = true →
      (exports.getClassObject = true ∧
          state.provider.pfnDllGetClassObject = true) ∧
        exports.canUnloadNow = true ∧
        state.provider.pfnDllCanUnloadNow = true
  objects :
    state.provider.interfaces ≠ 0 ∨ state.provider.adapters ≠ 0 →
    state.provider.hProvider = true
  exclusive :
    ∀ thread,
      (state.places thread).Unloads →
      ∀ other, other ≠ thread → state.places other = .outside

section Accesses

variable
  {exports : Exports}
  {place other : LoadPlace}
  {answer : LoadAnswer}
  {provider : Provider}

/-- No access outside `TryUnload` interferes with the places outside it. -/
theorem asserted_other
    (inside : ¬ place.Unloads)
    (outside : ¬ other.Unloads)
    (asserted : Asserted exports other provider) :
    Asserted exports other (place.access exports answer provider).2 := by
  cases place with
  | testUnload | ask | free | clear =>
      exact absurd trivial inside
  | outside | test =>
      exact asserted
  | load =>
      simp only [LoadPlace.access]
      split
      · cases other with
        | testUnload | ask | free | clear =>
            exact absurd trivial outside
        | _ => exact asserted
      · exact asserted
  | procGetClassObject =>
      cases other with
      | testUnload | ask | free | clear =>
          exact absurd trivial outside
      | procCanUnloadNow =>
          exact ⟨asserted.1, asserted.1⟩
      | install =>
          exact ⟨⟨asserted.1.1, asserted.1.1⟩, asserted.2⟩
      | _ => exact asserted
  | procCanUnloadNow =>
      cases other with
      | testUnload | ask | free | clear =>
          exact absurd trivial outside
      | install =>
          exact ⟨asserted.1, asserted.2.1, asserted.2.1⟩
      | _ => exact asserted
  | install =>
      simp only [LoadPlace.access]
      split
      · exact asserted
      · cases other with
        | testUnload | ask | free | clear =>
            exact absurd trivial outside
        | discard failed =>
            exact fun _ => rfl
        | call => exact rfl
        | _ => exact asserted
  | discard failed =>
      cases other with
      | testUnload | ask | free | clear =>
          exact absurd trivial outside
      | _ => exact asserted
  | call =>
      simp only [LoadPlace.access]
      split
      · exact asserted
      · cases other with
        | testUnload | ask | free | clear =>
            exact absurd trivial outside
        | _ => exact asserted

/-- An access establishes what its next place asserts. -/
theorem asserted_own
    (counts : Provider.Counts answer.canUnloadNow)
    (asserted : Asserted exports place provider)
    (only : place = .free → provider.libraryRefs = 1) :
    Asserted exports (place.access exports answer provider).1
      (place.access exports answer provider).2 := by
  cases place with
  | outside | call | clear =>
      trivial
  | test | testUnload =>
      simp only [LoadPlace.access]
      split
      · assumption
      · trivial
  | load =>
      simp only [LoadPlace.access]
      split <;> trivial
  | procGetClassObject =>
      simp only [LoadPlace.access]
      split
      · rename_i exported
        exact ⟨exported, exported⟩
      · exact Bool.noConfusion
  | procCanUnloadNow =>
      simp only [LoadPlace.access]
      split
      · rename_i exported
        exact ⟨asserted, exported, exported⟩
      · exact Bool.noConfusion
  | install =>
      simp only [LoadPlace.access]
      split
      · rename_i installed
        exact fun _ => installed
      · exact rfl
  | discard failed =>
      cases failed with
      | false => exact asserted rfl
      | true => trivial
  | ask =>
      simp only [LoadPlace.access]
      split
      · rename_i allowed
        exact ⟨asserted, counts provider allowed⟩
      · trivial
  | free =>
      refine ⟨?_, asserted.2⟩
      show provider.libraryRefs - 1 = 0
      rw [only rfl]

/-- Installed functions are known. -/
theorem functions_access
    (functions :
      provider.hProvider = true → Asserted exports .install provider)
    (asserted : Asserted exports place provider)
    (loaded :
      (place.access exports answer provider).2.hProvider = true) :
    Asserted exports .install
      (place.access exports answer provider).2 := by
  cases place with
  | outside | test | testUnload | ask =>
      exact functions loaded
  | load =>
      cases answered : answer.loadLibrary with
      | false =>
          simp only [LoadPlace.access, answered, Bool.false_eq_true,
            ↓reduceIte] at loaded ⊢
          exact functions loaded
      | true =>
          simp only [LoadPlace.access, answered, ↓reduceIte] at loaded ⊢
          exact functions loaded
  | procGetClassObject =>
      obtain ⟨⟨exported, -⟩, rest⟩ := functions loaded
      exact ⟨⟨exported, exported⟩, rest⟩
  | procCanUnloadNow =>
      obtain ⟨first, exported, -⟩ := functions loaded
      exact ⟨first, exported, exported⟩
  | install =>
      simp only [LoadPlace.access] at loaded ⊢
      split
      · exact asserted
      · exact asserted
  | discard failed =>
      exact functions loaded
  | call =>
      by_cases failed : Failed answer.getClassObject
      · simp only [LoadPlace.access, failed, ↓reduceIte] at loaded ⊢
        exact functions loaded
      · simp only [LoadPlace.access, failed, ↓reduceIte] at loaded ⊢
        exact functions loaded
  | free =>
      exact functions loaded
  | clear =>
      contradiction

/-- While an object of the library is live the library is installed. -/
theorem objects_access
    (objects :
      provider.interfaces ≠ 0 ∨ provider.adapters ≠ 0 →
      provider.hProvider = true)
    (asserted : Asserted exports place provider) :
    let later := (place.access exports answer provider).2
    later.interfaces ≠ 0 ∨ later.adapters ≠ 0 →
      later.hProvider = true := by
  dsimp only
  intro live
  cases place with
  | outside | test | testUnload | ask | procGetClassObject |
      procCanUnloadNow | discard | free =>
      exact objects live
  | load =>
      cases answered : answer.loadLibrary with
      | false =>
          simp only [LoadPlace.access, answered, Bool.false_eq_true,
            ↓reduceIte] at live ⊢
          exact objects live
      | true =>
          simp only [LoadPlace.access, answered, ↓reduceIte] at live ⊢
          exact objects live
  | install =>
      simp only [LoadPlace.access]
      split
      · assumption
      · rfl
  | call =>
      simp only [LoadPlace.access]
      split
      · exact asserted
      · exact asserted
  | clear =>
      obtain ⟨-, interfaces, adapters⟩ := asserted
      exact absurd live (by simp [LoadPlace.access, interfaces, adapters])

/--
References are gained with a handle of the thread and lost with it, and one is
passed on when the handle is installed.
-/
theorem refs_balance
    (uncleared : place ≠ .clear)
    (unfreed : (place.access exports answer provider).1 ≠ .clear)
    (positive : place.Holds → 0 < provider.libraryRefs) :
    let result := place.access exports answer provider
    result.2.libraryRefs + (if place.Holds then 1 else 0) +
        (if provider.hProvider then 1 else 0) =
      provider.libraryRefs + (if result.1.Holds then 1 else 0) +
        if result.2.hProvider then 1 else 0 := by
  dsimp only
  cases place with
  | clear =>
      exact absurd rfl uncleared
  | free =>
      exact absurd rfl unfreed
  | outside =>
      rfl
  | test | testUnload =>
      cases loaded : provider.hProvider <;>
        simp [LoadPlace.access, LoadPlace.Holds, loaded]
  | load =>
      cases answered : answer.loadLibrary <;>
        simp [LoadPlace.access, LoadPlace.Holds, answered]
  | procGetClassObject =>
      cases exported : exports.getClassObject <;>
        simp [LoadPlace.access, LoadPlace.Holds, exported]
  | procCanUnloadNow =>
      cases exported : exports.canUnloadNow <;>
        simp [LoadPlace.access, LoadPlace.Holds, exported]
  | install =>
      cases installed : provider.hProvider <;>
        simp [LoadPlace.access, LoadPlace.Holds, installed]
  | discard failed =>
      have some := Nat.sub_add_cancel (positive trivial)
      cases failed <;> simp [LoadPlace.access, LoadPlace.Holds, some]
  | ask =>
      by_cases allowed : answer.canUnloadNow provider = ndSuccess <;>
        simp [LoadPlace.access, LoadPlace.Holds, allowed]
  | call =>
      by_cases failed : Failed answer.getClassObject <;>
        simp [LoadPlace.access, LoadPlace.Holds, failed]

/-- A thread gets into `TryUnload` only by calling it. -/
theorem unloads_access
    (unloads : (place.access exports answer provider).1.Unloads) :
    place.Unloads := by
  cases place with
  | testUnload | ask | free | clear =>
      trivial
  | outside | call =>
      contradiction
  | test | load | procGetClassObject | procCanUnloadNow | install =>
      simp only [LoadPlace.access] at unloads
      split at unloads <;> contradiction
  | discard failed =>
      cases failed <;> contradiction

end Accesses

section Steps

variable
  {exports : Exports}
  {state next : Loading}
  {thread : Nat}
  {answer : LoadAnswer}
  {action : LoadAction}

/-- A thread inside `TryUnload` is the only one that is inside. -/
theorem Invariant.alone
    (invariant : Invariant exports state)
    (unloads : (state.places thread).Unloads) :
    state.holders = [] := by
  refine List.eq_nil_iff_forall_not_mem.mpr fun other present => ?_
  have holds := (invariant.census.mem other).mp present
  by_cases here : other = thread
  · subst here
    cases place : state.places other <;> rw [place] at holds unloads <;>
      contradiction
  · rw [invariant.exclusive thread unloads other here] at holds
    contradiction

/-- A thread that is inside finds the references accounted. -/
theorem Invariant.refs_of_inside
    (invariant : Invariant exports state)
    (inside : state.places thread ≠ .outside)
    (uncleared : state.places thread ≠ .clear) :
    state.provider.libraryRefs =
      state.holders.length +
        if state.provider.hProvider then 1 else 0 := by
  refine invariant.refs fun other clears => ?_
  by_cases same : other = thread
  · exact uncleared (same ▸ clears)
  · exact inside (invariant.exclusive other (by rw [clears]; trivial)
      thread (Ne.symm same))

/-- An access keeps the references accounted. -/
theorem Invariant.refs_access
    (invariant : Invariant exports state)
    (inside : state.places thread ≠ .outside)
    (uncleared :
      ((state.places thread).access exports answer
        state.provider).1 ≠ .clear) :
    let result :=
      (state.places thread).access exports answer state.provider
    result.2.libraryRefs =
      (recount LoadPlace.Holds thread (state.places thread) result.1
        state.holders).length +
        if result.2.hProvider then 1 else 0 := by
  dsimp only
  have counted :=
    @Census.length_recount _ _ _ _ _ _ thread
      ((state.places thread).access exports answer state.provider).1 _
      invariant.census
  by_cases clears : state.places thread = .clear
  · have asserted := invariant.annotated thread
    rw [invariant.alone (by rw [clears]; trivial)] at counted ⊢
    rw [clears] at asserted counted ⊢
    have none := counted
    simp only [LoadPlace.access, LoadPlace.Holds, ↓reduceIte,
      Nat.add_zero, List.length_nil] at none ⊢
    rw [none]
    exact asserted.1
  · have total := invariant.refs_of_inside inside clears
    have positive (holds : (state.places thread).Holds) :
        0 < state.provider.libraryRefs := by
      have member := invariant.census.length_pos holds
      omega
    have balance :=
      @refs_balance exports _ answer _ clears uncleared positive
    omega

/-- The last reference is the installed one when the library is freed. -/
theorem Invariant.refs_of_free
    (invariant : Invariant exports state)
    (here : state.places thread = .free) :
    state.provider.libraryRefs = 1 := by
  have unloads : (state.places thread).Unloads := by
    rw [here]
    trivial
  have loaded := invariant.annotated thread
  rw [here] at loaded
  rw [invariant.refs_of_inside (by rw [here]; exact nofun)
    (by rw [here]; exact nofun), invariant.alone unloads, loaded.1]
  rfl

/-- An access of a thread keeps the invariant. -/
theorem Invariant.advance
    (invariant : Invariant exports state)
    (inside : state.places thread ≠ .outside)
    (counts : Provider.Counts answer.canUnloadNow) :
    Invariant exports
      (state.move thread
        ((state.places thread).access exports answer
          state.provider)) where
  census := invariant.census.step
  annotated := by
    refine invariant.annotated.step
      (asserted_own counts (invariant.annotated thread)
        invariant.refs_of_free) ?_
    intro other different asserted
    by_cases unloads : (state.places thread).Unloads
    · rw [invariant.exclusive thread unloads other different]
      trivial
    · refine asserted_other unloads (fun busy => inside ?_) asserted
      exact invariant.exclusive other busy thread (Ne.symm different)
  refs := by
    intro uncleared
    refine invariant.refs_access inside ?_
    have own := uncleared thread
    simp only [move, Function.update_self] at own
    exact own
  functions := functions_access invariant.functions
    (invariant.annotated thread)
  objects := objects_access invariant.objects
    (invariant.annotated thread)
  exclusive := by
    intro busy unloads other different
    simp only [move] at unloads ⊢
    by_cases here : busy = thread
    · subst here
      rw [Function.update_self] at unloads
      rw [Function.update_of_ne different]
      exact invariant.exclusive busy (unloads_access unloads) other
        different
    · rw [Function.update_of_ne here] at unloads
      exact absurd
        (invariant.exclusive busy unloads thread (Ne.symm here)) inside

/-- Entering a function keeps the invariant. -/
theorem Invariant.enter
    {place : LoadPlace}
    (invariant : Invariant exports state)
    (outside : state.places thread = .outside)
    (unheld : ¬ place.Holds)
    (asserted : Asserted exports place state.provider)
    (alone :
      place.Unloads ∧ (∀ other, state.places other = .outside) ∨
        ¬ place.Unloads ∧ ∀ other, ¬ (state.places other).Unloads) :
    Invariant exports (state.move thread (place, state.provider)) where
  census := invariant.census.step
  annotated := invariant.annotated.step asserted fun _ _ => id
  refs := by
    intro uncleared
    have counted :=
      @Census.length_recount _ _ _ _ _ _ thread place _ invariant.census
    have idle : ¬ LoadPlace.outside.Holds := id
    simp only [outside, unheld, idle, ↓reduceIte, Nat.add_zero]
      at counted
    simp only [move, outside, counted]
    refine invariant.refs fun other clears => ?_
    by_cases here : other = thread
    · rw [here, outside] at clears
      contradiction
    · have still := uncleared other
      simp only [move, Function.update_of_ne here] at still
      exact still clears
  functions := invariant.functions
  objects := invariant.objects
  exclusive := by
    intro busy unloads other different
    simp only [move] at unloads ⊢
    rcases alone with ⟨-, all⟩ | ⟨never, none⟩
    · by_cases here : busy = thread
      · subst here
        rw [Function.update_of_ne different]
        exact all other
      · rw [Function.update_of_ne here, all busy] at unloads
        contradiction
    · by_cases here : busy = thread
      · subst here
        rw [Function.update_self] at unloads
        exact absurd unloads never
      · rw [Function.update_of_ne here] at unloads
        exact absurd unloads (none busy)

/-- Releasing an interface keeps the invariant. -/
theorem Invariant.released
    {provider : Provider}
    (invariant : Invariant exports state)
    (released : state.provider.release? = some provider) :
    Invariant exports { state with provider } := by
  obtain ⟨live, answered⟩ :=
    Option.ite_none_left_eq_some.mp released
  cases answered
  have objects := invariant.objects (.inl live)
  refine { invariant with annotated := ?_, objects := fun _ => objects }
  intro thread
  have asserted := invariant.annotated thread
  generalize state.places thread = place at *
  cases place with
  | free =>
      exact absurd asserted.2.1 live
  | clear =>
      exact absurd asserted.2.1 live
  | _ => exact asserted

/-- Every serialised step keeps the invariant. -/
theorem Invariant.step
    (invariant : Invariant exports state)
    (serialised : state.Serialised action)
    (stepped : step? exports state action = some next) :
    Invariant exports next := by
  cases action with
  | enter thread entry =>
      obtain ⟨outside, answered⟩ :=
        Option.ite_none_right_eq_some.mp stepped
      cases entry with
      | getClassObject =>
          cases answered
          exact invariant.enter outside id trivial
            (.inr ⟨id, serialised⟩)
      | tryUnload =>
          cases answered
          exact invariant.enter outside id trivial
            (.inl ⟨trivial, serialised⟩)
  | advance thread answer =>
      obtain ⟨inside, answered⟩ :=
        Option.ite_none_left_eq_some.mp stepped
      cases answered
      exact invariant.advance inside serialised
  | release =>
      obtain ⟨provider, released, answered⟩ :=
        Option.map_eq_some_iff.mp stepped
      cases answered
      exact invariant.released released

/-- Nobody is inside, and the library is unloaded. -/
theorem invariant_quiet
    {provider : Provider}
    (consistent : provider.Consistent)
    (unloaded : provider.hProvider = false) :
    Invariant exports (quiet provider) where
  census := ⟨List.nodup_nil, fun _ => iff_of_false List.not_mem_nil id⟩
  annotated := fun _ => trivial
  refs := fun _ => consistent.refs.trans (Nat.zero_add _).symm
  functions := fun loaded => by
    rw [show provider.hProvider = true from loaded] at unloaded
    contradiction
  objects := fun live => live.elim consistent.interfaces
    consistent.adapters
  exclusive := fun _ unloads => absurd unloads id

/-- Every thread finds what it uses. -/
theorem Invariant.not_faults
    (invariant : Invariant exports state)
    (thread : Nat) :
    ¬ state.Faults thread := by
  have referenced
      (inside : state.places thread ≠ .outside)
      (uncleared : state.places thread ≠ .clear)
      (owned :
        (state.places thread).Holds ∨ state.provider.hProvider = true) :
      state.provider.libraryRefs ≠ 0 := by
    rw [invariant.refs_of_inside inside uncleared]
    rcases owned with holds | loaded
    · exact Nat.ne_of_gt
        (Nat.add_pos_left (invariant.census.length_pos holds) _)
    · rw [loaded]
      exact Nat.succ_ne_zero _
  have asserted := invariant.annotated thread
  have functions := invariant.functions
  unfold Faults
  generalize state.places thread = place at *
  cases place with
  | outside | test | load | testUnload | clear =>
      exact id
  | procGetClassObject | procCanUnloadNow | install | discard =>
      exact referenced nofun nofun (.inl trivial)
  | free =>
      exact referenced nofun nofun (.inr asserted.1)
  | call =>
      have known := (functions asserted).1.2
      rintro (unknown | unloaded)
      · rw [known] at unknown
        contradiction
      · exact referenced nofun nofun (.inr asserted) unloaded
  | ask =>
      have known := (functions asserted).2.2
      rintro (unknown | unloaded)
      · rw [known] at unknown
        contradiction
      · exact referenced nofun nofun (.inr asserted) unloaded

/--
Any number of threads may be in `GetClassObject` at a time: as long as callers
serialise `TryUnload` with them, none calls a function that is not known or a
library that is unloaded.  Every handle but the installed one is given back.
-/
theorem loading_safe_of_run
    {provider : Provider}
    {actions : List LoadAction}
    (consistent : provider.Consistent)
    (unloaded : provider.hProvider = false)
    (serialised :
      EveryStep (step? exports) Serialised (quiet provider) actions)
    (ran : run? (step? exports) (quiet provider) actions = some state) :
    (∀ thread, ¬ state.Faults thread) ∧
      ((∀ thread, state.places thread = .outside) →
        state.provider.Consistent) := by
  have invariant :=
    invariant_of_everyStep
      (fun invariant serialised stepped =>
        Invariant.step invariant serialised stepped)
      (invariant_quiet consistent unloaded) serialised ran
  refine ⟨invariant.not_faults, fun outside => ?_⟩
  have none : state.holders = [] := by
    refine List.eq_nil_iff_forall_not_mem.mpr fun thread present => ?_
    have holds := (invariant.census.mem thread).mp present
    rw [outside thread] at holds
    contradiction
  exact {
    refs := by
      rw [invariant.refs fun thread => by
        rw [outside thread]; exact LoadPlace.noConfusion, none]
      exact Nat.zero_add _
    functions := fun loaded =>
      have known := invariant.functions loaded
      ⟨known.1.2, known.2.2⟩
    interfaces := fun live => invariant.objects (.inl live)
    adapters := fun live => invariant.objects (.inr live)
  }

end Steps

/-!
### Two threads
-/

/-- The library is loaded and hands out an interface, or refuses to. -/
def loads (getClassObject : HResult) : LoadAnswer where
  loadLibrary := true
  getClassObject
  canUnloadNow := Provider.countingLibrary

/-- Both exported. -/
def exportsBoth : Exports where
  getClassObject := true
  canUnloadNow := true

/-- A new provider. -/
def fresh : Provider :=
  .construct 0 7 ndVersion2

/-- Two threads load the library at the same time. -/
def sampleRace : List LoadAction :=
  [.enter 0 .getClassObject, .enter 1 .getClassObject] ++
    [0, 1, 0, 1, 0, 1, 0, 1, 0, 1].map fun thread =>
      .advance thread (loads ndSuccess)

/-- Callers of `GetClassObject` alone need no serialisation. -/
theorem serialised_of_getClassObject
    {exports : Exports}
    {provider : Provider}
    {actions : List LoadAction}
    (counts :
      ∀ action ∈ actions,
        (∃ thread, action = .enter thread .getClassObject) ∨
          ∃ thread answer,
            action = .advance thread answer ∧
              Provider.Counts answer.canUnloadNow) :
    EveryStep (step? exports) Serialised (quiet provider) actions := by
  refine
    @everyStep_of_invariant _ _ (step? exports) Serialised
      (fun state => ∀ thread, ¬ (state.places thread).Unloads) _ ?_ ?_ _
      _ (fun _ => id) counts
  · rintro state next action none allowed stepped thread unloads
    rcases allowed with ⟨entered, rfl⟩ | ⟨advanced, answer, rfl, -⟩
    · obtain ⟨-, answered⟩ := Option.ite_none_right_eq_some.mp stepped
      cases answered
      simp only [move] at unloads
      by_cases here : thread = entered
      · subst here
        rw [Function.update_self] at unloads
        exact unloads
      · rw [Function.update_of_ne here] at unloads
        exact none thread unloads
    · obtain ⟨-, answered⟩ := Option.ite_none_left_eq_some.mp stepped
      cases answered
      simp only [move] at unloads
      by_cases here : thread = advanced
      · subst here
        rw [Function.update_self] at unloads
        exact none thread (unloads_access unloads)
      · rw [Function.update_of_ne here] at unloads
        exact none thread unloads
  · rintro state action none (⟨entered, rfl⟩ | ⟨thread, answer, rfl, own⟩)
    · exact none
    · exact own

/-- Two threads that load the library at once both stay safe. -/
theorem loading_safe_sample :
    ∃ state : Loading,
      state.places 0 = .call ∧
        state.places 1 = .discard false ∧
        ∀ thread, ¬ state.Faults thread := by
  have serialised :
      EveryStep (step? exportsBoth) Serialised (quiet fresh)
        sampleRace := by
    refine serialised_of_getClassObject fun action present => ?_
    rcases List.mem_append.mp present with entered | advanced
    · simp only [List.mem_cons, List.not_mem_nil, or_false] at entered
      exact .inl (entered.elim (fun first => ⟨0, first⟩)
        fun second => ⟨1, second⟩)
    · obtain ⟨thread, -, rfl⟩ := List.mem_map.mp advanced
      exact .inr ⟨thread, _, rfl, Provider.counts_countingLibrary⟩
  have ran :
      (run? (step? exportsBoth) (quiet fresh) sampleRace).map
          (fun state => (state.places 0, state.places 1)) =
        some (.call, .discard false) := by
    decide +kernel
  obtain ⟨state, ran, places⟩ := Option.map_eq_some_iff.mp ran
  obtain ⟨first, second⟩ := Prod.mk.inj places
  have consistent : fresh.Consistent :=
    (Provider.settled_construct 0 7 ndVersion2).consistent
  exact ⟨state, first, second,
    (loading_safe_of_run consistent rfl serialised ran).1⟩

-- `OpenAdapter` tries to unload after every call, so two threads in it are not
-- serialised: one unloads the library that the other is about to call.
example :
    let answer := fun status : HResult =>
      (⟨true, status, Provider.countingLibrary⟩ : LoadAnswer)
    let actions : List LoadAction :=
      .enter 0 .getClassObject ::
        List.replicate 6 (.advance 0 (answer ndUnsuccessful)) ++
        [.enter 1 .getClassObject, .advance 1 (answer ndSuccess),
          .enter 0 .tryUnload] ++
        List.replicate 3 (.advance 0 (answer ndSuccess))
    (run? (step? ⟨true, true⟩) (quiet (.construct 0 7 ndVersion2))
          actions).map
        (fun state => (state.places 1, state.provider.libraryRefs)) =
      some (.call, 0) := by
  decide +kernel

/-!
### A call that is not interrupted
-/

/-- The answers to a whole call, as each of its accesses gets them. -/
def answerOf
    (answers : Provider.AcquireAnswers)
    (canUnloadNow : Provider.CanUnloadNow) : LoadAnswer where
  loadLibrary := answers.loadLibrary
  getClassObject := answers.getClassObject
  canUnloadNow

/-- What a library exports, as `GetProcAddress` answers. -/
def exportsOf (answers : Provider.AcquireAnswers) : Exports where
  getClassObject := answers.procGetClassObject
  canUnloadNow := answers.procCanUnloadNow

/-- One thread is inside, at a place. -/
def alone
    (thread : Nat)
    (place : LoadPlace)
    (provider : Provider) : Loading where
  provider
  holders := if place.Holds then [thread] else []
  places := Function.update (fun _ => .outside) thread place

/-- A thread that is outside is not inside. -/
theorem alone_outside
    {thread : Nat}
    {provider : Provider} :
    alone thread .outside provider = quiet provider := by
  have outside :
      Function.update (fun _ => LoadPlace.outside) thread .outside =
        fun _ => .outside :=
    Function.update_eq_self thread fun _ => LoadPlace.outside
  simp only [alone, quiet, outside]
  rfl

/-- A thread that is alone stays alone. -/
theorem move_alone
    {thread : Nat}
    {place next : LoadPlace}
    {provider later : Provider} :
    (alone thread place provider).move thread (next, later) =
      alone thread next later := by
  have members :
      recount LoadPlace.Holds thread place next
          (if place.Holds then [thread] else []) =
        if next.Holds then [thread] else [] := by
    unfold recount
    by_cases after : next.Holds
    · by_cases before : place.Holds <;> simp [after, before]
    · by_cases before : place.Holds <;> simp [after, before]
  simp only [move, alone, Function.update_self, Function.update_idem,
    members]

/-- The access of a thread that is alone. -/
theorem run?_alone
    {exports : Exports}
    {thread : Nat}
    {place : LoadPlace}
    {provider : Provider}
    {answer : LoadAnswer}
    {rest : List LoadAction}
    (inside : place ≠ .outside) :
    run? (step? exports) (alone thread place provider)
        (.advance thread answer :: rest) =
      run? (step? exports)
        (alone thread (place.access exports answer provider).1
          (place.access exports answer provider).2) rest := by
  have here : (alone thread place provider).places thread = place := by
    simp only [alone, Function.update_self]
  have stepped :
      step? exports (alone thread place provider)
          (.advance thread answer) =
        some (alone thread (place.access exports answer provider).1
          (place.access exports answer provider).2) := by
    simp only [step?, here, inside, ↓reduceIte]
    exact congrArg some move_alone
  simp only [run?, stepped, Option.bind_some]

/-- A call of `GetClassObject` that is alone does what it does as a whole. -/
theorem run?_of_getClassObject
    {provider next : Provider}
    {status : HResult}
    {answers : Provider.AcquireAnswers}
    {canUnloadNow : Provider.CanUnloadNow}
    {thread : Nat}
    (answered :
      provider.getClassObject? answers = some (status, next)) :
    ∃ count,
      run? (step? (exportsOf answers)) (quiet provider)
          (.enter thread .getClassObject ::
            List.replicate count
              (.advance thread (answerOf answers canUnloadNow))) =
        some (quiet next) := by
  have stepped :
      step? (exportsOf answers) (quiet provider)
          (.enter thread .getClassObject) =
        some (alone thread .test provider) := by
    rw [← @alone_outside thread]
    simp only [step?, alone, Function.update_self, ↓reduceIte]
    exact congrArg some move_alone
  simp only [run?, stepped, Option.bind_some]
  unfold Provider.getClassObject? Provider.load at answered
  cases installed : provider.hProvider with
  | true =>
      refine ⟨2, ?_⟩
      simp only [installed, ↓reduceIte] at answered
      split at answered
      · contradiction
      · by_cases refused : Failed answers.getClassObject <;>
          simp only [refused, ↓reduceIte] at answered <;>
          cases answered <;>
          simp [run?_alone, LoadPlace.access, installed, alone_outside,
            answerOf, refused]
  | false =>
      cases loaded : answers.loadLibrary with
      | false =>
          simp only [installed, loaded] at answered
          cases answered
          exact ⟨2, by
            simp [run?_alone, LoadPlace.access, installed, alone_outside,
              answerOf, loaded]⟩
      | true =>
          cases first : answers.procGetClassObject with
          | false =>
              simp only [installed, loaded, first] at answered
              cases answered
              exact ⟨4, by
                simp [run?_alone, LoadPlace.access, installed,
                  alone_outside, answerOf, exportsOf, loaded, first]⟩
          | true =>
              cases second : answers.procCanUnloadNow with
              | false =>
                  simp only [installed, loaded, first, second] at answered
                  cases answered
                  exact ⟨5, by
                    simp [run?_alone, LoadPlace.access, installed,
                      alone_outside, answerOf, exportsOf, loaded, first,
                      second]⟩
              | true =>
                  refine ⟨6, ?_⟩
                  by_cases refused : Failed answers.getClassObject <;>
                    simp only [installed, loaded, first, second, refused]
                      at answered <;>
                    cases answered <;>
                    simp [run?_alone, LoadPlace.access, installed,
                      alone_outside, answerOf, exportsOf, loaded, first,
                      second, refused]

end Loading

end GameCapturer.Framework
