import Mathlib.Data.List.Basic
import Mathlib.Data.List.Range

/-!
# Nested counting loops

A nest of counting loops visits its index tuples in row-major order, so it can
be flattened to one counting loop whose body recovers the indices by division.
This module states the flattening for lists of emitted items and the matching
arithmetic of row-major positions.
-/

namespace Foundation

namespace LoopNest

variable {Item : Type}

/-- Row-major positions of an inner loop stay inside its outer block. -/
theorem position_lt
    {outer outerCount inner innerCount : Nat}
    (outerBound : outer < outerCount)
    (innerBound : inner < innerCount) :
    outer * innerCount + inner < outerCount * innerCount :=
  calc
    outer * innerCount + inner
        < outer * innerCount + innerCount := by omega
    _ = (outer + 1) * innerCount := by rw [Nat.succ_mul]
    _ ≤ outerCount * innerCount :=
        Nat.mul_le_mul_right innerCount outerBound

/-- The outer index of a row-major position. -/
theorem position_div
    (outer : Nat)
    {inner innerCount : Nat}
    (innerBound : inner < innerCount) :
    (outer * innerCount + inner) / innerCount = outer := by
  have positive : 0 < innerCount := by omega
  rw [Nat.mul_comm, Nat.mul_add_div positive,
    Nat.div_eq_of_lt innerBound, Nat.add_zero]

/-- The inner index of a row-major position. -/
theorem position_mod
    (outer : Nat)
    {inner innerCount : Nat}
    (innerBound : inner < innerCount) :
    (outer * innerCount + inner) % innerCount = inner := by
  rw [Nat.mul_comm, Nat.mul_add_mod, Nat.mod_eq_of_lt innerBound]

/-- Two nested emitting loops are one loop over row-major positions. -/
theorem flatMap_range_map_range
    (emit : Nat → Nat → Item)
    (outerCount innerCount : Nat) :
    (List.range outerCount).flatMap
        (fun outer => (List.range innerCount).map (emit outer)) =
      (List.range (outerCount * innerCount)).map
        (fun position =>
          emit (position / innerCount) (position % innerCount)) := by
  induction outerCount with
  | zero =>
      simp
  | succ outerCount inductionHypothesis =>
      have lastBlock :
          (List.range innerCount).map (emit outerCount) =
            ((List.range innerCount).map
                (outerCount * innerCount + ·)).map
              (fun position =>
                emit (position / innerCount)
                  (position % innerCount)) := by
        rw [List.map_map]
        apply List.map_congr_left
        intro inner member
        have innerBound := List.mem_range.mp member
        simp only [Function.comp_apply,
          position_div outerCount innerBound,
          position_mod outerCount innerBound]
      rw [List.range_succ, List.flatMap_append,
        inductionHypothesis, Nat.succ_mul, List.range_add,
        List.map_append, ← lastBlock]
      simp

end LoopNest

end Foundation
