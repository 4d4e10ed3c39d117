import GameCapturer.Foundation.StepFunction
import Mathlib.Data.List.Infix

/-!
# A register with one writer and one reader

The abstract machine records every write, and at every read the values written
so far.  The last of them is the value an atomic register returns, so a system
that simulates this machine returns the most recent write at each read, and the
recorded prefixes show that its reads never go back to an older value.
-/

namespace Foundation.SharedRegister

variable {Value : Type}

/-- One operation on the register. -/
inductive Operation (Value : Type) where
  | write (value : Value)
  | read
  deriving Repr, DecidableEq

/-- All values written, and the values written before each read. -/
structure History (Value : Type) where
  written : List Value
  reads : List (List Value)
  deriving Repr, DecidableEq

/-- No operation has taken place. -/
def History.empty : History Value where
  written := []
  reads := []

/-- Both operations are always enabled. -/
def step? : StepFunction (History Value) (Operation Value)
  | history, .write value =>
      some { history with written := history.written ++ [value] }
  | history, .read =>
      some { history with reads := history.reads ++ [history.written] }

/-- Every read saw a prefix of the writes, and each read saw the next's. -/
structure History.Monotone (history : History Value) : Prop where
  past : ∀ seen ∈ history.reads, seen <+: history.written
  forward : history.reads.Pairwise (· <+: ·)

/-- One operation keeps the reads in order. -/
theorem History.Monotone.step
    {history next : History Value}
    {operation : Operation Value}
    (monotone : history.Monotone)
    (stepped : step? history operation = some next) :
    next.Monotone := by
  cases operation with
  | write value =>
      cases stepped
      exact {
        past := fun seen member =>
          (monotone.past seen member).trans
            (List.prefix_append _ _)
        forward := monotone.forward
      }
  | read =>
      cases stepped
      refine {
        past := ?_
        forward := ?_
      }
      · intro seen member
        rcases List.mem_append.mp member with earlier | last
        · exact monotone.past seen earlier
        · rw [List.mem_singleton.mp last]
      · refine List.pairwise_append.mpr
          ⟨monotone.forward, List.pairwise_singleton _ _, ?_⟩
        intro seen member last lastMember
        rw [List.mem_singleton.mp lastMember]
        exact monotone.past seen member

/-- Reads never go back: each saw all the writes that an earlier one saw. -/
theorem History.Monotone.of_run
    {history : History Value}
    {operations : List (Operation Value)}
    (ran :
      StepFunction.run? step? .empty operations = some history) :
    history.Monotone :=
  StepFunction.invariant_of_run History.Monotone.step
    { past := by simp [History.empty]
      forward := List.Pairwise.nil }
    ran

end Foundation.SharedRegister
