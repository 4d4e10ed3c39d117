import Mathlib.Data.List.Basic
import Mathlib.Data.List.Nodup
import Mathlib.Logic.Function.Basic

/-!
# Sequences of single-cell moves

A straight-line copy is a list of moves, each reading one cell of a source that
the copy does not change and writing one cell of a store.  The effect of any
prefix of such a list is determined by the last move into each cell, so an
interrupted copy can be described exactly.
-/

namespace Foundation

/-- One assignment `target := source` of a copy. -/
structure Move (Source Target : Type) where
  target : Target
  source : Source
  deriving Repr, DecidableEq

namespace Move

variable {Source Target Value : Type} [DecidableEq Target]

/-- Perform one move on the store. -/
def apply
    (read : Source → Value)
    (store : Target → Value)
    (move : Move Source Target) :
    Target → Value :=
  Function.update store move.target (read move.source)

/-- Perform the moves of a list in order. -/
def applyAll
    (read : Source → Value)
    (moves : List (Move Source Target))
    (store : Target → Value) :
    Target → Value :=
  moves.foldl (apply read) store

/-- The value that a list of moves leaves in a cell, if it writes that cell. -/
def lastWritten
    (read : Source → Value) :
    List (Move Source Target) → Target → Option Value
  | [], _ => none
  | move :: rest, cell =>
      match lastWritten read rest cell with
      | some value => some value
      | none =>
          if move.target = cell then
            some (read move.source)
          else
            none

@[simp] theorem applyAll_nil
    (read : Source → Value)
    (store : Target → Value) :
    applyAll read [] store = store :=
  rfl

@[simp] theorem applyAll_cons
    (read : Source → Value)
    (move : Move Source Target)
    (rest : List (Move Source Target))
    (store : Target → Value) :
    applyAll read (move :: rest) store =
      applyAll read rest (apply read store move) :=
  rfl

/-- Performing a concatenation performs its parts in order. -/
theorem applyAll_append
    (read : Source → Value)
    (leading trailing : List (Move Source Target))
    (store : Target → Value) :
    applyAll read (leading ++ trailing) store =
      applyAll read trailing (applyAll read leading store) :=
  List.foldl_append

/-- A store after a list of moves holds the last value moved into each cell. -/
theorem applyAll_apply
    (read : Source → Value)
    (moves : List (Move Source Target))
    (store : Target → Value)
    (cell : Target) :
    applyAll read moves store cell =
      (lastWritten read moves cell).getD (store cell) := by
  induction moves generalizing store with
  | nil =>
      rfl
  | cons move rest inductionHypothesis =>
      rw [applyAll_cons, inductionHypothesis, lastWritten]
      cases lastWritten read rest cell with
      | some value =>
          rfl
      | none =>
          by_cases same : move.target = cell
          · subst same
            simp [apply]
          · simp [apply, same, Function.update_of_ne (Ne.symm same)]

/-- A cell is left unwritten exactly when no move targets it. -/
theorem lastWritten_eq_none_iff
    {read : Source → Value}
    {moves : List (Move Source Target)}
    {cell : Target} :
    lastWritten read moves cell = none ↔
      ∀ move ∈ moves, move.target ≠ cell := by
  induction moves with
  | nil =>
      simp [lastWritten]
  | cons move rest inductionHypothesis =>
      rw [lastWritten, List.forall_mem_cons]
      cases tail : lastWritten read rest cell with
      | some value =>
          simp only [reduceCtorEq, false_iff, not_and]
          intro _ untouched
          rw [inductionHypothesis.mpr untouched] at tail
          contradiction
      | none =>
          have untouched := inductionHypothesis.mp tail
          simp only [ite_eq_right_iff, reduceCtorEq, imp_false]
          exact ⟨fun first => ⟨first, untouched⟩, And.left⟩

/-- A move whose target no other move shares leaves its value there. -/
theorem lastWritten_of_nodup
    {read : Source → Value}
    {moves : List (Move Source Target)}
    (distinct : (moves.map Move.target).Nodup)
    {move : Move Source Target}
    (member : move ∈ moves) :
    lastWritten read moves move.target =
      some (read move.source) := by
  induction moves with
  | nil =>
      simp at member
  | cons first rest inductionHypothesis =>
      rw [List.map_cons, List.nodup_cons] at distinct
      rw [lastWritten]
      rcases List.mem_cons.mp member with isFirst | inRest
      · subst isFirst
        have untouched :
            lastWritten read rest move.target = none := by
          apply lastWritten_eq_none_iff.mpr
          intro later laterMember same
          exact distinct.1
            (same ▸ List.mem_map_of_mem laterMember)
        simp [untouched]
      · rw [inductionHypothesis distinct.2 inRest]

/-- Moves into the same cells leave the same cells unwritten. -/
theorem lastWritten_eq_none_congr
    {read otherRead : Source → Value}
    {moves others : List (Move Source Target)}
    (targets : moves.map Move.target = others.map Move.target)
    (cell : Target) :
    lastWritten read moves cell = none ↔
      lastWritten otherRead others cell = none := by
  have membership :
      ∀ target,
        target ∈ moves.map Move.target ↔
          target ∈ others.map Move.target := by
    simp [targets]
  simp only [lastWritten_eq_none_iff]
  constructor
  · intro untouched move member same
    obtain ⟨twin, twinMember, twinTarget⟩ :=
      List.mem_map.mp
        ((membership cell).mpr
          (List.mem_map.mpr ⟨move, member, same⟩))
    exact untouched twin twinMember twinTarget
  · intro untouched move member same
    obtain ⟨twin, twinMember, twinTarget⟩ :=
      List.mem_map.mp
        ((membership cell).mp
          (List.mem_map.mpr ⟨move, member, same⟩))
    exact untouched twin twinMember twinTarget

/-- A copy hides an earlier copy into the same cells. -/
theorem applyAll_applyAll_of_targets
    {read otherRead : Source → Value}
    {moves others : List (Move Source Target)}
    (targets : moves.map Move.target = others.map Move.target)
    (store : Target → Value) :
    applyAll read moves (applyAll otherRead others store) =
      applyAll read moves store := by
  funext cell
  rw [applyAll_apply, applyAll_apply read moves store]
  cases written : lastWritten read moves cell with
  | some value =>
      rfl
  | none =>
      have untouched :
          lastWritten otherRead others cell = none :=
        (lastWritten_eq_none_congr targets cell).mp written
      rw [applyAll_apply, untouched]
      rfl

/-- One more move of an interrupted copy. -/
theorem applyAll_take_succ
    {read : Source → Value}
    {moves : List (Move Source Target)}
    {count : Nat}
    {move : Move Source Target}
    (following : moves[count]? = some move)
    (store : Target → Value) :
    applyAll read (moves.take (count + 1)) store =
      apply read (applyAll read (moves.take count) store) move := by
  rw [List.take_add_one, following, applyAll_append]
  rfl

section Sequence

variable {sequence : Nat → Move Source Target}

/-- A sequence of moves with pairwise distinct targets. -/
def Scattered (sequence : Nat → Move Source Target) : Prop :=
  Function.Injective fun index => (sequence index).target

omit [DecidableEq Target] in
/-- The first moves of a scattered sequence have distinct targets. -/
theorem Scattered.nodup
    (scattered : Scattered sequence)
    (count : Nat) :
    (((List.range count).map sequence).map Move.target).Nodup := by
  rw [List.map_map]
  exact List.nodup_range.map scattered

/--
After the first `count` moves of a scattered sequence, the target of move
`index` holds that move's value exactly when the move is among them.
-/
theorem Scattered.lastWritten_range
    (scattered : Scattered sequence)
    (read : Source → Value)
    (count index : Nat) :
    lastWritten read ((List.range count).map sequence)
        (sequence index).target =
      if index < count then
        some (read (sequence index).source)
      else
        none := by
  split
  · rename_i included
    exact lastWritten_of_nodup (scattered.nodup count)
      (List.mem_map_of_mem (List.mem_range.mpr included))
  · rename_i excluded
    apply lastWritten_eq_none_iff.mpr
    intro move member same
    obtain ⟨other, otherIncluded, rfl⟩ :=
      List.mem_map.mp member
    have sameIndex : other = index := scattered same
    subst sameIndex
    exact excluded (List.mem_range.mp otherIncluded)

end Sequence

end Move

end Foundation
