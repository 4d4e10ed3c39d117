import Mathlib.Data.List.Nodup
import Mathlib.Logic.Function.Basic

/-!
# Threads at places with assertions

Each thread is at a place of its program, and each place asserts something of
the shared state.  A step has to establish the assertion at its new place and to
keep the assertions at the places of the other threads.  A census lists the
threads that are at certain places, so that what they hold can be counted.
-/

namespace Foundation

namespace PlaceAssertion

variable {Thread Place Shared : Type}

/-- Every thread finds what its place asserts. -/
def Annotated
    (asserted : Place → Shared → Prop)
    (places : Thread → Place)
    (shared : Shared) : Prop :=
  ∀ thread, asserted (places thread) shared

/-- The threads at certain places, each once. -/
structure Census
    (counts : Place → Prop)
    (members : List Thread)
    (places : Thread → Place) : Prop where
  nodup : members.Nodup
  mem : ∀ thread, thread ∈ members ↔ counts (places thread)

/-- A thread at a counted place is a member. -/
theorem Census.length_pos
    {counts : Place → Prop}
    {members : List Thread}
    {places : Thread → Place}
    {thread : Thread}
    (census : Census counts members places)
    (counted : counts (places thread)) :
    0 < members.length :=
  List.length_pos_of_mem ((census.mem thread).mpr counted)

section Steps

variable [DecidableEq Thread]

variable
  {asserted : Place → Shared → Prop}
  {counts : Place → Prop}
  {members : List Thread}
  {places : Thread → Place}
  {thread other : Thread}
  {place : Place}
  {shared later : Shared}

/-- A step that does not interfere keeps every assertion. -/
theorem Annotated.step
    (annotated : Annotated asserted places shared)
    (own : asserted place later)
    (stable :
      ∀ other,
        other ≠ thread →
        asserted (places other) shared →
        asserted (places other) later) :
    Annotated asserted (Function.update places thread place) later := by
  intro other
  by_cases here : other = thread
  · subst here
    rwa [Function.update_self]
  · rw [Function.update_of_ne here]
    exact stable other here (annotated other)

/-- The census after a thread has moved. -/
def recount
    (counts : Place → Prop)
    [DecidablePred counts]
    (thread : Thread)
    (before after : Place)
    (members : List Thread) : List Thread :=
  if counts after then
    if counts before then members else thread :: members
  else
    members.erase thread

/-- Recounting the thread that moved counts all threads again. -/
theorem Census.step
    [DecidablePred counts]
    (census : Census counts members places) :
    Census counts
      (recount counts thread (places thread) place members)
      (Function.update places thread place) := by
  have elsewhere {other : Thread} (different : other ≠ thread) :
      counts (Function.update places thread place other) ↔
        counts (places other) := by
    rw [Function.update_of_ne different]
  unfold recount
  split
  · rename_i after
    split
    · rename_i before
      refine ⟨census.nodup, fun other => ?_⟩
      by_cases here : other = thread
      · subst here
        rw [Function.update_self]
        exact iff_of_true ((census.mem other).mpr before) after
      · rw [elsewhere here, census.mem]
    · rename_i before
      have absent : thread ∉ members := fun present =>
        before ((census.mem thread).mp present)
      refine ⟨census.nodup.cons absent, fun other => ?_⟩
      by_cases here : other = thread
      · subst here
        rw [Function.update_self]
        exact iff_of_true List.mem_cons_self after
      · rw [elsewhere here, List.mem_cons, or_iff_right here, census.mem]
  · rename_i after
    refine ⟨census.nodup.erase thread, fun other => ?_⟩
    rw [census.nodup.mem_erase_iff]
    by_cases here : other = thread
    · subst here
      rw [Function.update_self]
      exact iff_of_false (fun both => both.1 rfl) after
    · rw [elsewhere here, census.mem]
      exact and_iff_right here

/-- The census changes by the thread that moved. -/
theorem Census.length_recount
    [DecidablePred counts]
    (census : Census counts members places) :
    (recount counts thread (places thread) place members).length +
        (if counts (places thread) then 1 else 0) =
      members.length + if counts place then 1 else 0 := by
  unfold recount
  by_cases before : counts (places thread)
  · have present := (census.mem thread).mpr before
    by_cases after : counts place
    · simp only [after, before, ↓reduceIte]
    · simp only [after, before, ↓reduceIte, Nat.add_zero]
      rw [List.length_erase_of_mem present]
      exact Nat.sub_add_cancel (List.length_pos_of_mem present)
  · have absent : thread ∉ members := fun present =>
      before ((census.mem thread).mp present)
    by_cases after : counts place
    · simp only [after, before, ↓reduceIte, Nat.add_zero,
        List.length_cons]
    · simp only [after, before, ↓reduceIte, Nat.add_zero,
        List.erase_of_not_mem absent]

end Steps

end PlaceAssertion

end Foundation
