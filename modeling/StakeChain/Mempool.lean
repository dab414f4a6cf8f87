/-
# The mempool

Transactions that wait for a block, in the order of submission.  A block takes all of them or
none: `drain` hands the queue over and empties it only when what was done with it succeeded.
-/
import StakeChain.Transaction

namespace StakeChain

/-- Transactions waiting for a block, oldest first. -/
structure Mempool where
  pending : List Transaction
deriving DecidableEq, Repr

namespace Mempool

/-- Nothing waits. -/
def empty : Mempool := ⟨[]⟩

/-- The mempool with a new transaction at its end, and the transaction. -/
def submit (pool : Mempool) (payload : String) : Transaction × Mempool :=
  let tx := Transaction.ofPayload payload
  (tx, ⟨pool.pending ++ [tx]⟩)

/-- The mempool once something was done with all that waits in it: empty after success, the
same after failure. -/
def after {ε α : Type} (pool : Mempool) : Except ε α → Mempool
  | .ok _ => empty
  | .error _ => pool

/-- Do something with all that waits, and empty the mempool only on success. -/
def drain {ε α : Type} (pool : Mempool) (use : List Transaction → Except ε α) :
    Except ε α × Mempool :=
  let result := use pool.pending
  (result, pool.after result)

section Drain

variable {ε α : Type} {pool : Mempool} {use : List Transaction → Except ε α}

/-- A success takes all that waits. -/
theorem drain_of_ok {a : α} (h : use pool.pending = .ok a) : pool.drain use = (.ok a, empty) := by
  rw [drain, h]
  rfl

/-- A failure takes nothing. -/
theorem drain_of_error {e : ε} (h : use pool.pending = .error e) :
    pool.drain use = (.error e, pool) := by
  rw [drain, h]
  rfl

end Drain

end Mempool

end StakeChain
