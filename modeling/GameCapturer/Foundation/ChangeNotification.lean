import GameCapturer.Foundation.StepFunction

/-!
# One-shot change notifications

A request for notification completes at the next change after it was issued.  A
handler takes the completion, issues the request again and only then reads what
has changed.  There is one request, so it is in one place at a time; and while
it is armed, nothing has changed since the last read.
-/

namespace Foundation

namespace ChangeNotification

open StepFunction

/--
Where the request is, who is between issuing it and reading, and whether the
last read is up to date.
-/
structure Watch (Thread : Type) where
  armed : Bool
  queued : Bool
  taken : Option Thread
  refreshing : Option Thread
  current : Bool
  deriving Repr, DecidableEq

/-- A change, or a step of a handler; issuing and reading may fail. -/
inductive Event (Thread : Type) where
  | change
  | take (thread : Thread)
  | rearm (thread : Thread) (succeeds : Bool)
  | refresh (thread : Thread) (succeeds : Bool)
  | renew
  deriving Repr, DecidableEq

variable {Thread : Type}

/-- One event; `renew` is a read on another occasion. -/
def step? [DecidableEq Thread] : StepFunction (Watch Thread) (Event Thread)
  | watch, .change =>
      some {
        watch with
        armed := false
        queued := watch.queued || watch.armed
        current := false
      }
  | watch, .take thread =>
      if watch.queued ∧ watch.taken = none then
        some { watch with queued := false, taken := some thread }
      else
        none
  | watch, .rearm thread succeeds =>
      if watch.taken = some thread ∧ watch.refreshing = none then
        some {
          watch with
          armed := succeeds
          taken := none
          refreshing := some thread
        }
      else
        none
  | watch, .refresh thread succeeds =>
      if watch.refreshing = some thread then
        some {
          watch with
          refreshing := none
          current := succeeds || watch.current
        }
      else
        none
  | watch, .renew =>
      some { watch with current := true }

/-- Neither issuing the request nor reading fails. -/
def Event.Succeeds : Event Thread → Prop
  | .rearm _ succeeds | .refresh _ succeeds => succeeds = true
  | _ => True

/-- The request is in at most one place. -/
structure Single (watch : Watch Thread) : Prop where
  armed : watch.armed = true → watch.queued = false ∧ watch.taken = none
  queued : watch.queued = true → watch.taken = none

/-- The request is somewhere, and armed only while the read is up to date. -/
structure Attentive (watch : Watch Thread) : Prop where
  single : Single watch
  somewhere :
    watch.armed = true ∨ watch.queued = true ∨ watch.taken ≠ none
  current :
    watch.armed = true →
    watch.refreshing = none → watch.current = true

/-- No completion is on its way, and nobody is about to read. -/
structure Quiet (watch : Watch Thread) : Prop where
  unqueued : watch.queued = false
  untaken : watch.taken = none
  settled : watch.refreshing = none

/-- While all is quiet, the last read is up to date. -/
theorem Attentive.current_of_quiet
    {watch : Watch Thread}
    (attentive : Attentive watch)
    (quiet : Quiet watch) :
    watch.current = true := by
  refine attentive.current ?_ quiet.settled
  rcases attentive.somewhere with armed | queued | taken
  · exact armed
  · rw [quiet.unqueued] at queued
    contradiction
  · exact absurd quiet.untaken taken

section Steps

variable [DecidableEq Thread]

variable
  {watch next : Watch Thread}
  {event : Event Thread}

/-- Every event keeps the request in one place. -/
theorem Single.step
    (single : Single watch)
    (stepped : step? watch event = some next) :
    Single next := by
  cases event with
  | change =>
      cases stepped
      refine ⟨by simp, fun queued => ?_⟩
      rcases Bool.or_eq_true_iff.mp queued with queued | armed
      · exact single.queued queued
      · exact (single.armed armed).2
  | take thread =>
      obtain ⟨⟨queued, -⟩, answered⟩ :=
        Option.ite_none_right_eq_some.mp stepped
      cases answered
      refine ⟨fun armed => ?_, by simp⟩
      have impossible := (single.armed armed).1
      rw [queued] at impossible
      contradiction
  | rearm thread succeeds =>
      obtain ⟨⟨taken, -⟩, answered⟩ :=
        Option.ite_none_right_eq_some.mp stepped
      cases answered
      have unqueued : watch.queued = false := by
        by_contra queued
        rw [Bool.not_eq_false] at queued
        rw [single.queued queued] at taken
        contradiction
      exact ⟨fun _ => ⟨unqueued, rfl⟩, fun _ => rfl⟩
  | refresh thread succeeds =>
      obtain ⟨-, answered⟩ := Option.ite_none_right_eq_some.mp stepped
      cases answered
      exact ⟨single.armed, single.queued⟩
  | renew =>
      cases stepped
      exact ⟨single.armed, single.queued⟩

/-- Events that succeed never lose the request or a change. -/
theorem Attentive.step
    (attentive : Attentive watch)
    (succeeds : event.Succeeds)
    (stepped : step? watch event = some next) :
    Attentive next := by
  have single := attentive.single.step stepped
  cases event with
  | change =>
      cases stepped
      refine ⟨single, ?_, by simp⟩
      rcases attentive.somewhere with armed | queued | taken
      · exact .inr (.inl (by simp [armed]))
      · exact .inr (.inl (by simp [queued]))
      · exact .inr (.inr taken)
  | take thread =>
      obtain ⟨⟨queued, -⟩, answered⟩ :=
        Option.ite_none_right_eq_some.mp stepped
      cases answered
      refine ⟨single, .inr (.inr (by simp)), fun armed => ?_⟩
      have impossible := (attentive.single.armed armed).1
      rw [queued] at impossible
      contradiction
  | rearm thread issued =>
      obtain ⟨-, answered⟩ := Option.ite_none_right_eq_some.mp stepped
      cases answered
      exact ⟨single, .inl succeeds, fun _ none => by simp at none⟩
  | refresh thread read =>
      obtain ⟨-, answered⟩ := Option.ite_none_right_eq_some.mp stepped
      cases answered
      refine ⟨single, attentive.somewhere, fun _ _ => ?_⟩
      simp [show read = true from succeeds]
  | renew =>
      cases stepped
      exact ⟨single, attentive.somewhere, fun _ _ => rfl⟩

/-- While all is quiet, nobody reads but on another occasion. -/
theorem Quiet.change_or_renew
    (quiet : Quiet watch)
    (stepped : step? watch event = some next) :
    event = .change ∨ event = .renew := by
  cases event with
  | change =>
      exact .inl rfl
  | take thread =>
      obtain ⟨⟨queued, -⟩, -⟩ := Option.ite_none_right_eq_some.mp stepped
      rw [quiet.unqueued] at queued
      contradiction
  | rearm thread succeeds =>
      obtain ⟨⟨taken, -⟩, -⟩ := Option.ite_none_right_eq_some.mp stepped
      rw [quiet.untaken] at taken
      contradiction
  | refresh thread succeeds =>
      obtain ⟨refreshing, -⟩ := Option.ite_none_right_eq_some.mp stepped
      rw [quiet.settled] at refreshing
      contradiction
  | renew =>
      exact .inr rfl

/-- All stays quiet until the next change that completes a request. -/
theorem Quiet.step
    (quiet : Quiet watch)
    (unheard : event ≠ .change ∨ watch.armed = false)
    (stepped : step? watch event = some next) :
    Quiet next ∧ (watch.armed = false → next.armed = false) := by
  rcases quiet.change_or_renew stepped with rfl | rfl
  · cases stepped
    have disarmed := unheard.resolve_left (absurd rfl)
    refine ⟨⟨?_, quiet.untaken, quiet.settled⟩, fun _ => rfl⟩
    simp [quiet.unqueued, disarmed]
  · cases stepped
    exact ⟨⟨quiet.unqueued, quiet.untaken, quiet.settled⟩, id⟩

/-- All stays quiet through events that complete no request. -/
theorem Quiet.run
    {final : Watch Thread}
    {events : List (Event Thread)}
    (quiet : Quiet watch)
    (unheard :
      (∀ event ∈ events, event ≠ .change) ∨ watch.armed = false)
    (ran : run? step? watch events = some final) :
    Quiet final ∧ (watch.armed = false → final.armed = false) := by
  induction events generalizing watch with
  | nil =>
      cases ran
      exact ⟨quiet, id⟩
  | cons event rest inductionHypothesis =>
      obtain ⟨middle, stepped, later⟩ := run?_cons_eq_some_iff.mp ran
      rw [List.forall_mem_cons] at unheard
      obtain ⟨middleQuiet, disarmed⟩ :=
        quiet.step (unheard.imp_left And.left) stepped
      obtain ⟨finalQuiet, stays⟩ :=
        inductionHypothesis middleQuiet (unheard.imp And.right disarmed)
          later
      exact ⟨finalQuiet, stays ∘ disarmed⟩

end Steps

end ChangeNotification

end Foundation
