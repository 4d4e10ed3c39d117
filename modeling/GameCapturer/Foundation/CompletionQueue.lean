import Mathlib.Data.List.Nodup
import Mathlib.Data.List.Perm.Basic

/-!
# Requests, completions and a shared queue

An asynchronous provider keeps the requests it has accepted, moves each to a
completion queue when it finishes, and hands queue entries to whoever polls
first.  Requests are conserved: whatever was accepted is in flight, queued or
taken, exactly once.  A poller that is alone with a single outstanding request
can only take the completion of that request.
-/

namespace Foundation.CompletionQueue

variable {Request Status : Type}

/-- A finished request as an entry of the completion queue. -/
structure Completion (Request Status : Type) where
  request : Request
  status : Status
  deriving Repr, DecidableEq

/-- Accepted requests by where they are; `taken` is kept as a record. -/
structure Provider (Request Status : Type) where
  inflight : List Request
  queue : List (Completion Request Status)
  taken : List (Completion Request Status)
  deriving Repr, DecidableEq

namespace Provider

variable {provider next : Provider Request Status}

/-- Nothing has been accepted yet. -/
def empty : Provider Request Status where
  inflight := []
  queue := []
  taken := []

/-- Requests whose completion has not been taken. -/
def outstanding (provider : Provider Request Status) : List Request :=
  provider.inflight ++ provider.queue.map Completion.request

/-- Every request accepted so far. -/
def accepted (provider : Provider Request Status) : List Request :=
  provider.outstanding ++ provider.taken.map Completion.request

/-- Accept a request. -/
def submit
    (provider : Provider Request Status)
    (request : Request) : Provider Request Status :=
  { provider with inflight := provider.inflight ++ [request] }

/-- Finish a request that is in flight. -/
def finish?
    [DecidableEq Request]
    (provider : Provider Request Status)
    (request : Request)
    (status : Status) : Option (Provider Request Status) :=
  if request ∈ provider.inflight then
    some {
      provider with
      inflight := provider.inflight.erase request
      queue := provider.queue ++ [{ request, status }]
    }
  else
    none

/-- Take the completion at the head of the queue. -/
def take?
    (provider : Provider Request Status) :
    Option (Completion Request Status × Provider Request Status) :=
  match provider.queue with
  | [] => none
  | completion :: rest =>
      some (completion, {
        provider with
        queue := rest
        taken := provider.taken ++ [completion]
      })

/-- Taking a completion removes the head of the queue and records it. -/
theorem take?_eq_some_iff
    {completion : Completion Request Status} :
    provider.take? = some (completion, next) ↔
      ∃ rest,
        provider.queue = completion :: rest ∧
          next = {
            provider with
            queue := rest
            taken := provider.taken ++ [completion]
          } := by
  cases queued : provider.queue with
  | nil =>
      simp [take?, queued]
  | cons head rest =>
      simp only [take?, queued, Option.some_inj, Prod.mk.injEq,
        List.cons.injEq]
      constructor
      · rintro ⟨rfl, rfl⟩
        exact ⟨rest, ⟨rfl, rfl⟩, rfl⟩
      · rintro ⟨_, ⟨rfl, rfl⟩, rfl⟩
        exact ⟨rfl, rfl⟩

/-- Accepting a request adds it to the accepted ones. -/
theorem accepted_submit (request : Request) :
    (provider.submit request).accepted.Perm
      (request :: provider.accepted) := by
  simp only [accepted, outstanding, submit, List.append_assoc,
    List.singleton_append]
  exact List.perm_middle

section Finish

variable [DecidableEq Request] {request : Request} {status : Status}

/-- Finishing moves a request in flight to the end of the queue. -/
theorem finish?_eq_some_iff :
    provider.finish? request status = some next ↔
      request ∈ provider.inflight ∧
        next = {
          provider with
          inflight := provider.inflight.erase request
          queue := provider.queue ++ [{ request, status }]
        } := by
  simp only [finish?, Option.ite_none_right_eq_some, Option.some_inj]
  exact and_congr_right fun _ => eq_comm

/-- Finishing a request keeps it outstanding. -/
theorem outstanding_finish
    (finished : provider.finish? request status = some next) :
    next.outstanding.Perm provider.outstanding := by
  obtain ⟨member, rfl⟩ := finish?_eq_some_iff.mp finished
  simp only [outstanding, List.map_append, List.map_cons,
    List.map_nil, ← List.append_assoc]
  have moved :
      (request ::
          (provider.inflight.erase request ++
            provider.queue.map Completion.request)).Perm
        (provider.inflight ++
          provider.queue.map Completion.request) :=
    (List.perm_cons_erase member).symm.append_right _
  exact (List.perm_append_singleton _ _).trans moved

/-- Finishing a request takes no completion. -/
theorem taken_finish
    (finished : provider.finish? request status = some next) :
    next.taken = provider.taken := by
  obtain ⟨-, rfl⟩ := finish?_eq_some_iff.mp finished
  rfl

/-- Finishing a request keeps the accepted ones. -/
theorem accepted_finish
    (finished : provider.finish? request status = some next) :
    next.accepted.Perm provider.accepted := by
  unfold accepted
  rw [taken_finish finished]
  exact (outstanding_finish finished).append_right _

end Finish

section Take

variable {completion : Completion Request Status}

/-- A taken completion was outstanding and no longer is. -/
theorem outstanding_take
    (took : provider.take? = some (completion, next)) :
    provider.outstanding.Perm
      (completion.request :: next.outstanding) := by
  obtain ⟨rest, queued, rfl⟩ := take?_eq_some_iff.mp took
  simp only [outstanding, queued, List.map_cons]
  exact List.perm_middle

/-- The record of taken completions grows by the one taken. -/
theorem taken_take
    (took : provider.take? = some (completion, next)) :
    next.taken = provider.taken ++ [completion] := by
  obtain ⟨rest, queued, rfl⟩ := take?_eq_some_iff.mp took
  rfl

/-- Taking a completion keeps the accepted requests. -/
theorem accepted_take
    (took : provider.take? = some (completion, next)) :
    next.accepted.Perm provider.accepted := by
  obtain ⟨rest, queued, rfl⟩ := take?_eq_some_iff.mp took
  simp only [accepted, outstanding, queued, List.map_append,
    List.map_cons, List.map_nil, List.append_assoc,
    List.cons_append]
  refine List.Perm.append_left _ ?_
  rw [← List.append_assoc]
  exact List.perm_append_singleton _ _

/-- With one request outstanding, its completion is the only one to take. -/
theorem take_of_outstanding_singleton
    {request : Request}
    (single : provider.outstanding = [request])
    (took : provider.take? = some (completion, next)) :
    completion.request = request ∧ next.outstanding = [] := by
  have only := outstanding_take took
  rw [single, List.singleton_perm] at only
  obtain ⟨same, idle⟩ := List.cons.inj only
  exact ⟨same.symm, idle.symm⟩

end Take

/-- With nothing outstanding there is no completion to take. -/
theorem take?_of_outstanding_nil
    (idle : provider.outstanding = []) :
    provider.take? = none := by
  have queued : provider.queue = [] := by
    simpa using (List.append_eq_nil_iff.mp idle).2
  rw [take?, queued]

end Provider

end Foundation.CompletionQueue
