import Mathlib.Logic.Function.Basic

/-!
# A lock word taken by compare and exchange

Threads are at places; some places own the lock.  A thread enters by exchanging
the word 0 for 1 and leaves by decrementing the word.  The rules below keep the
word and the places in step, so that at most one thread owns the lock.
-/

namespace Foundation

namespace SpinLock

variable {Thread Place : Type}

/-- The new word of `InterlockedCompareExchange(&word, exchange, comparand)`. -/
def compareExchange (word exchange comparand : Int32) : Int32 :=
  if word = comparand then exchange else word

/-- The word is 1 while exactly one thread owns the lock, and else 0. -/
inductive Guarded
    (owns : Place → Prop)
    (word : Int32)
    (places : Thread → Place) : Prop where
  | free
      (zero : word = 0)
      (none : ∀ thread, ¬ owns (places thread))
  | taken
      (one : word = 1)
      (owner : Thread)
      (own : owns (places owner))
      (only : ∀ thread, owns (places thread) → thread = owner)

variable
  {owns : Place → Prop}
  {word : Int32}
  {places : Thread → Place}
  {thread other : Thread}
  {place : Place}

namespace Guarded

/-- Two owners are the same thread. -/
theorem unique
    (guarded : Guarded owns word places)
    (own : owns (places thread))
    (alsoOwn : owns (places other)) :
    other = thread := by
  cases guarded with
  | free zero none =>
      exact absurd own (none thread)
  | taken one owner ownerOwns only =>
      rw [only thread own, only other alsoOwn]

/-- Reading a word other than 1 means that nobody owns the lock. -/
theorem none_of_ne_one
    (guarded : Guarded owns word places)
    (notOne : word ≠ 1) :
    word = 0 ∧ ∀ thread, ¬ owns (places thread) := by
  cases guarded with
  | free zero none =>
      exact ⟨zero, none⟩
  | taken one owner own only =>
      exact absurd one notOne

variable [DecidableEq Thread]

/-- A successful exchange takes the lock. -/
theorem acquire
    (guarded : Guarded owns word places)
    (notOne : word ≠ 1)
    (own : owns place) :
    Guarded owns (compareExchange word 1 0)
      (Function.update places thread place) := by
  obtain ⟨zero, none⟩ := guarded.none_of_ne_one notOne
  refine .taken (if_pos zero) thread ?_ ?_
  · rwa [Function.update_self]
  · intro other ownOther
    by_contra different
    rw [Function.update_of_ne different] at ownOther
    exact none other ownOther

/-- A step that neither takes nor gives back the lock. -/
theorem move
    (guarded : Guarded owns word places)
    (same : owns place ↔ owns (places thread)) :
    Guarded owns word (Function.update places thread place) := by
  have unchanged (other : Thread) :
      owns (Function.update places thread place other) ↔
        owns (places other) := by
    by_cases here : other = thread
    · subst here
      rw [Function.update_self, same]
    · rw [Function.update_of_ne here]
  cases guarded with
  | free zero none =>
      exact .free zero fun other own =>
        none other ((unchanged other).mp own)
  | taken one owner own only =>
      exact .taken one owner ((unchanged owner).mpr own)
        fun other ownOther => only other ((unchanged other).mp ownOther)

/-- Decrementing the word gives the lock back. -/
theorem release
    (guarded : Guarded owns word places)
    (own : owns (places thread))
    (notOwn : ¬ owns place) :
    Guarded owns (word - 1) (Function.update places thread place) := by
  cases guarded with
  | free zero none =>
      exact absurd own (none thread)
  | taken one owner ownerOwns only =>
      refine .free (by rw [one]; rfl) ?_
      intro other ownOther
      by_cases here : other = thread
      · subst here
        rw [Function.update_self] at ownOther
        exact notOwn ownOther
      · rw [Function.update_of_ne here] at ownOther
        exact here ((only other ownOther).trans (only thread own).symm)

end Guarded

/-- A variable names the thread at one of certain places, if there is one. -/
def Tracks
    (holds : Place → Prop)
    (holder : Option Thread)
    (places : Thread → Place) : Prop :=
  ∀ thread, holder = some thread ↔ holds (places thread)

namespace Tracks

variable
  {holds : Place → Prop}
  {holder : Option Thread}
  {places : Thread → Place}
  {thread : Thread}
  {place : Place}

/-- Nobody is at such a place when the variable names nobody. -/
theorem none_of_eq_none
    (tracks : Tracks holds none places) :
    ¬ holds (places thread) :=
  fun here => nomatch (tracks thread).mpr here

variable [DecidableEq Thread]

/-- A move that neither comes to such a place nor leaves one. -/
theorem move
    (tracks : Tracks holds holder places)
    (same : holds place ↔ holds (places thread)) :
    Tracks holds holder (Function.update places thread place) := by
  intro other
  by_cases here : other = thread
  · subst here
    rw [Function.update_self, same]
    exact tracks other
  · rw [Function.update_of_ne here]
    exact tracks other

/-- Coming to such a place, while nobody else is. -/
theorem gain
    (tracks : Tracks holds none places)
    (here : holds place) :
    Tracks holds (some thread) (Function.update places thread place) := by
  intro other
  by_cases same : other = thread
  · subst same
    rw [Function.update_self]
    exact iff_of_true rfl here
  · rw [Function.update_of_ne same]
    exact iff_of_false (fun equal => same (Option.some_inj.mp equal).symm)
      tracks.none_of_eq_none

/-- Leaving such a place. -/
theorem lose
    (tracks : Tracks holds (some thread) places)
    (away : ¬ holds place) :
    Tracks holds none (Function.update places thread place) := by
  intro other
  by_cases same : other = thread
  · subst same
    rw [Function.update_self]
    exact iff_of_false nofun away
  · rw [Function.update_of_ne same]
    exact iff_of_false nofun fun here =>
      same (Option.some_inj.mp ((tracks other).mpr here)).symm

end Tracks

end SpinLock

end Foundation
