/-
# The ledger

One ledger: a clock, a staking pool, a mint with its registry, chain and source, and a mempool.
The pool and the registry know nothing of each other; an owner of a stake may also be a
validator, and nothing links the two records.
-/
import StakeChain.Chain.Fault
import StakeChain.Mempool
import StakeChain.Mint
import StakeChain.Registry.Quorum
import StakeChain.Staking.Summary

namespace StakeChain

/-- A ledger whose elections draw from a source of type `σ`. -/
structure Ledger (σ : Type) extends Mint σ where
  clock : Time
  stakes : StakePool
  mempool : Mempool

namespace Ledger

variable {σ : Type}

/-- A ledger that holds its first block only, stamped with the clock's time. -/
def new (config : Config) (clock : Time) (source : σ) : Ledger σ where
  chain := .new clock
  source := source
  terms := config.production
  registry := .new config.registry
  clock := clock
  stakes := .new config.staking
  mempool := .empty

/-- Set the clock. -/
def setClock (l : Ledger σ) (now : Time) : Ledger σ := { l with clock := now }

/-- Move the clock. -/
def advance (l : Ledger σ) (span : Time) : Ledger σ := l.setClock (l.clock + span)

variable [DrawSource σ]

/-- Produce a block of these transactions. -/
def produce (l : Ledger σ) (transactions : List Transaction) (now : Time) :
    Except LedgerError Block × Ledger σ :=
  let (result, mint) := l.toMint.produce transactions now
  (result, { l with toMint := mint })

/-- Produce a block of all that waits in the mempool, which is emptied once the block is on the
chain. -/
def producePending (l : Ledger σ) (now : Time) : Except LedgerError Block × Ledger σ :=
  let (result, l) := l.produce l.mempool.pending now
  (result, { l with mempool := l.mempool.after result })

/-- **To produce from the mempool is to drain it into a production.** -/
theorem producePending_eq_drain (l : Ledger σ) (now : Time) :
    l.producePending now =
      let (result, mempool) := l.mempool.drain fun pending => (l.produce pending now).1
      (result, { (l.produce l.mempool.pending now).2 with mempool }) := rfl

variable {l : Ledger σ} {now : Time}

/-- A block from the mempool leaves nothing waiting. -/
theorem producePending_of_ok {b : Block} (h : (l.produce l.mempool.pending now).1 = .ok b) :
    l.producePending now =
      (.ok b, { (l.produce l.mempool.pending now).2 with mempool := .empty }) := by
  rw [producePending_eq_drain, Mempool.drain_of_ok h]

/-- A production from the mempool that fails is one of the same transactions that fails. -/
theorem producePending_of_error {e : LedgerError}
    (h : (l.produce l.mempool.pending now).1 = .error e) :
    l.producePending now = (.error e, (l.produce l.mempool.pending now).2) := by
  rw [producePending_eq_drain, Mempool.drain_of_error h]
  rfl

end Ledger

end StakeChain
