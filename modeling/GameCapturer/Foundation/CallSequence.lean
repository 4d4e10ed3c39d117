import Mathlib.Data.List.Basic
import Mathlib.Data.List.Nodup
import Mathlib.Data.List.Infix

/-!
# Sequences of asynchronous calls

A straight-line caller issues its calls in program order.  Each call answers at
once, or reports that it is pending and the caller blocks until the final
outcome arrives.  After a final outcome the caller goes on or stops, as its
checks say.  Whatever the outcomes are, a call is begun only when every call
before it has settled with an outcome its checks let pass.
-/

namespace Foundation.CallSequence

variable {Call Outcome : Type}

/-- How a caller treats the outcomes of its calls. -/
structure Discipline (Call Outcome : Type) where
  awaits : Call → Outcome → Bool
  passes : Call → Outcome → Bool

/-- Where the caller stands with its next call. -/
inductive Phase where
  | ready
  | issued
  | pending
  deriving Repr, DecidableEq

/-- The settled calls, the calls to come, and the outcome that stopped it. -/
structure Progress (Call Outcome : Type) where
  done : List (Call × Outcome)
  remaining : List Call
  phase : Phase
  stopped : Option (Call × Outcome)
  deriving Repr, DecidableEq

/-- What happens to the next call. -/
inductive Event (Outcome : Type) where
  | issue
  | answer (outcome : Outcome)
  | finish (outcome : Outcome)
  deriving Repr, DecidableEq

namespace Progress

/-- A caller before its first call. -/
def start (program : List Call) : Progress Call Outcome where
  done := []
  remaining := program
  phase := .ready
  stopped := none

/-- The call that settles by an event, with its final outcome. -/
def settled?
    (progress : Progress Call Outcome)
    (discipline : Discipline Call Outcome) :
    Event Outcome → Option (Call × Outcome)
  | .issue => none
  | .answer outcome =>
      match progress.remaining, progress.phase with
      | call :: _, .issued =>
          if discipline.awaits call outcome then
            none
          else
            some (call, outcome)
      | _, _ => none
  | .finish outcome =>
      match progress.remaining, progress.phase with
      | call :: _, .pending => some (call, outcome)
      | _, _ => none

/-- Record a settled call and go on, or stop. -/
def settle
    (progress : Progress Call Outcome)
    (discipline : Discipline Call Outcome)
    (call : Call)
    (outcome : Outcome) : Progress Call Outcome :=
  if discipline.passes call outcome then
    {
      progress with
      done := progress.done ++ [(call, outcome)]
      remaining := progress.remaining.tail
      phase := .ready
    }
  else
    { progress with stopped := some (call, outcome) }

/-- The phase after an event that settles no call. -/
def nextPhase? : Phase → Event Outcome → Option Phase
  | .ready, .issue => some .issued
  | .issued, .answer _ => some .pending
  | _, _ => none

/-- Advance by one event; a stopped or completed caller takes no step. -/
def advance?
    (progress : Progress Call Outcome)
    (discipline : Discipline Call Outcome)
    (event : Event Outcome) : Option (Progress Call Outcome) :=
  if progress.stopped.isSome ∨ progress.remaining = [] then
    none
  else
    match progress.settled? discipline event with
    | some (call, outcome) =>
        some (progress.settle discipline call outcome)
    | none =>
        (nextPhase? progress.phase event).map
          fun phase => { progress with phase }

/-- The caller has at least issued the call. -/
def Begun
    (progress : Progress Call Outcome)
    (call : Call) : Prop :=
  call ∈ progress.done.map Prod.fst ∨
    (progress.remaining.head? = some call ∧
      progress.phase ≠ .ready)

instance
    [DecidableEq Call]
    (progress : Progress Call Outcome)
    (call : Call) :
    Decidable (progress.Begun call) :=
  inferInstanceAs (Decidable (_ ∨ _))

section Advance

variable
  {discipline : Discipline Call Outcome}
  {progress next : Progress Call Outcome}
  {event : Event Outcome}
  {call : Call}
  {outcome : Outcome}

/-- Only the next call can settle. -/
theorem head?_of_settled
    (settles :
      progress.settled? discipline event = some (call, outcome)) :
    progress.remaining.head? = some call := by
  unfold settled? at settles
  split at settles
  · contradiction
  · split at settles
    · rename_i remaining _
      split at settles
      · contradiction
      · cases settles
        rw [remaining]
        rfl
    · contradiction
  · split at settles
    · rename_i remaining _
      cases settles
      rw [remaining]
      rfl
    · contradiction

/-- One event settles a call, stops the caller, or changes its phase. -/
theorem advance?_cases
    (advanced : progress.advance? discipline event = some next) :
    (∃ call rest outcome,
        progress.settled? discipline event = some (call, outcome) ∧
          progress.remaining = call :: rest ∧
          ((discipline.passes call outcome = true ∧
              next = {
                progress with
                done := progress.done ++ [(call, outcome)]
                remaining := rest
                phase := .ready
              }) ∨
            (discipline.passes call outcome = false ∧
              next = {
                progress with stopped := some (call, outcome)
              }))) ∨
      (progress.settled? discipline event = none ∧
        ∃ phase,
          phase ≠ .ready ∧ next = { progress with phase }) := by
  unfold advance? at advanced
  split at advanced
  · contradiction
  cases settles : progress.settled? discipline event with
  | some pair =>
      obtain ⟨call, outcome⟩ := pair
      obtain ⟨rest, remaining⟩ :=
        List.head?_eq_some_iff.mp (head?_of_settled settles)
      simp only [settles, settle, remaining, List.tail_cons,
        Option.some_inj] at advanced
      refine .inl ⟨call, rest, outcome, rfl, remaining, ?_⟩
      split at advanced
      · rename_i passes
        exact .inl ⟨passes, advanced.symm⟩
      · rename_i fails
        refine .inr ⟨by simpa using fails, ?_⟩
        rw [← advanced, ← remaining]
  | none =>
      simp only [settles, Option.map_eq_some_iff] at advanced
      obtain ⟨phase, changed, rfl⟩ := advanced
      refine .inr ⟨rfl, phase, ?_, rfl⟩
      unfold nextPhase? at changed
      split at changed
      · cases changed
        simp
      · cases changed
        simp
      · contradiction

/-- The record grows by what settled and passed. -/
theorem done_advance
    (advanced : progress.advance? discipline event = some next)
    {pair : Call × Outcome}
    (member : pair ∈ next.done) :
    pair ∈ progress.done ∨
      progress.settled? discipline event = some pair := by
  obtain ⟨_, _, _, settles, -, ⟨-, rfl⟩ | ⟨-, rfl⟩⟩ | ⟨-, _, -, rfl⟩ :=
    advance?_cases advanced
  · rcases List.mem_append.mp member with earlier | last
    · exact .inl earlier
    · exact .inr (settles.trans
        (congrArg some (List.mem_singleton.mp last).symm))
  · exact .inl member
  · exact .inl member

/-- What has begun stays begun. -/
theorem Begun.advance
    (begun : progress.Begun call)
    (advanced : progress.advance? discipline event = some next) :
    next.Begun call := by
  obtain ⟨head, rest, outcome, -, remaining, passed | stopped⟩ |
      ⟨-, phase, notReady, rfl⟩ :=
    advance?_cases advanced
  · obtain ⟨-, rfl⟩ := passed
    refine .inl ?_
    simp only [List.map_append, List.map_cons, List.map_nil]
    rcases begun with earlier | ⟨isHead, -⟩
    · exact List.mem_append_left _ earlier
    · rw [remaining] at isHead
      cases isHead
      exact List.mem_append_right _ (List.mem_singleton.mpr rfl)
  · obtain ⟨-, rfl⟩ := stopped
    exact begun
  · exact begun.imp_right fun head => ⟨head.1, notReady⟩

end Advance

/-- A progress reached by following a program under a discipline. -/
structure Follows
    (progress : Progress Call Outcome)
    (discipline : Discipline Call Outcome)
    (program : List Call) : Prop where
  order :
    progress.done.map Prod.fst ++ progress.remaining = program
  passed :
    ∀ pair ∈ progress.done, discipline.passes pair.1 pair.2 = true

/-- A caller that has not begun follows its program. -/
theorem follows_start
    (discipline : Discipline Call Outcome)
    (program : List Call) :
    (start program).Follows discipline program where
  order := rfl
  passed := List.forall_mem_nil _

namespace Follows

variable
  {discipline : Discipline Call Outcome}
  {progress next : Progress Call Outcome}
  {program : List Call}
  (follows : progress.Follows discipline program)

include follows

/-- Every event keeps to the program. -/
theorem advance
    {event : Event Outcome}
    (advanced : progress.advance? discipline event = some next) :
    next.Follows discipline program := by
  obtain ⟨call, rest, outcome, -, remaining, passed | stopped⟩ |
      ⟨-, phase, -, rfl⟩ :=
    advance?_cases advanced
  · obtain ⟨passes, rfl⟩ := passed
    refine {
      order := ?_
      passed := ?_
    }
    · rw [← follows.order, remaining]
      simp only [List.map_append, List.map_cons, List.map_nil,
        List.append_assoc, List.cons_append, List.nil_append]
    · intro pair member
      rcases List.mem_append.mp member with earlier | last
      · exact follows.passed pair earlier
      · rw [List.mem_singleton.mp last]
        exact passes
  · obtain ⟨-, rfl⟩ := stopped
    exact { follows with }
  · exact { follows with }

/-- After the whole program every call has settled and passed. -/
theorem settled_of_completed
    (completed : progress.remaining = [])
    {call : Call}
    (member : call ∈ program) :
    ∃ outcome,
      (call, outcome) ∈ progress.done ∧
        discipline.passes call outcome = true := by
  rw [← follows.order, completed, List.append_nil] at member
  obtain ⟨⟨_, outcome⟩, settled, rfl⟩ := List.mem_map.mp member
  exact ⟨outcome, settled, follows.passed _ settled⟩

/-- A call settles at most once. -/
theorem outcome_unique
    (distinct : program.Nodup)
    {call : Call}
    {outcome other : Outcome}
    (settled : (call, outcome) ∈ progress.done)
    (otherSettled : (call, other) ∈ progress.done) :
    outcome = other := by
  rw [← follows.order] at distinct
  have once := (List.nodup_append.mp distinct).1
  have same :=
    List.inj_on_of_nodup_map once settled otherSettled rfl
  exact congrArg Prod.snd same

/-- When a call has begun, the calls before it are done. -/
theorem prefix_of_begun
    {leading trailing : List Call}
    {call : Call}
    (split : program = leading ++ call :: trailing)
    (distinct : program.Nodup)
    (begun : progress.Begun call) :
    leading <+: progress.done.map Prod.fst := by
  -- Without repetitions the program splits at the call in one way only.
  have unique :
      ∀ {front back : List Call},
        program = front ++ call :: back → front = leading := by
    intro front back other
    have outside := distinct
    rw [other, List.nodup_middle, List.nodup_cons,
      List.mem_append, not_or] at outside
    exact ((List.append_cons_inj_of_notMem
      outside.1.1 outside.1.2).mp (other.symm.trans split)).1
  rcases begun with settled | ⟨isHead, -⟩
  · obtain ⟨front, back, parts⟩ := List.append_of_mem settled
    have whole := follows.order.symm
    rw [parts, List.append_assoc, List.cons_append] at whole
    rw [parts, unique whole]
    exact List.prefix_append _ _
  · obtain ⟨rest, remaining⟩ := List.head?_eq_some_iff.mp isHead
    have whole := follows.order.symm
    rw [remaining] at whole
    rw [unique whole]

/-- Once a call has begun, every call before it has settled and passed. -/
theorem settled_of_begun
    {leading trailing : List Call}
    {call earlier : Call}
    (split : program = leading ++ call :: trailing)
    (distinct : program.Nodup)
    (begun : progress.Begun call)
    (before : earlier ∈ leading) :
    ∃ outcome,
      (earlier, outcome) ∈ progress.done ∧
        discipline.passes earlier outcome = true := by
  have done :=
    (follows.prefix_of_begun split distinct begun).subset before
  obtain ⟨⟨_, outcome⟩, settled, rfl⟩ := List.mem_map.mp done
  exact ⟨outcome, settled, follows.passed _ settled⟩

end Follows

end Progress

end Foundation.CallSequence
