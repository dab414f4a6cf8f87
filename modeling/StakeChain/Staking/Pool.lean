/-
# The staking pool

At most one active stake an owner.  A stake is opened for a lock period, may be claimed from and
increased while it is active, and is closed once the lock has run out; the record stays, inactive,
until its owner opens another.  A refused operation gives a cause and no new pool.
-/
import StakeChain.Config
import StakeChain.Error
import StakeChain.Staking.Stake
import StakeChain.Table
import StakeChain.Text.Blank

namespace StakeChain

/-- The stakes by owner, and the terms they are held under. -/
structure StakePool where
  terms : StakingTerms
  stakes : Table Stake

namespace StakePool

/-- A pool without stakes. -/
def new (terms : StakingTerms) : StakePool := ⟨terms, .empty⟩

/-! ## Questions -/

/-- The record of an owner, active or closed. -/
def find (p : StakePool) (owner : String) : Except LedgerError Stake :=
  match p.stakes.get? owner with
  | some s => .ok s
  | none => .error (.unknownStake owner)

/-- The active record of an owner. -/
def active (p : StakePool) (owner : String) : Except LedgerError Stake := do
  let s ← p.find owner
  if s.isActive then .ok s else .error (.stakeClosed owner)

/-- All records in the order of their owners. -/
def list (p : StakePool) : List Stake := p.stakes.values

/-- The reward that an owner could claim. -/
def accrued (p : StakePool) (owner : String) (now : Time) : Except LedgerError Amount := do
  let s ← p.active owner
  .ok (s.unclaimed now p.terms.annualRate)

/-! ## Changes -/

/-- The pool with this record for its owner. -/
def put (p : StakePool) (owner : String) (s : Stake) : StakePool :=
  { p with stakes := p.stakes.insert owner s }

/-- Lock a balance.  A record that an earlier closing left behind is replaced. -/
def openStake (p : StakePool) (owner : String) (amount : Amount) (now : Time) :
    Except LedgerError (Stake × StakePool) :=
  if Text.allBlank owner then .error .blankIdentifier
  else if amount < p.terms.minimumStake then .error (.stakeTooSmall p.terms.minimumStake amount)
  else if amount = .zero then .error .zeroAmount
  else if (p.stakes.get? owner).any (·.isActive) then .error (.stakeExists owner)
  else
    let s : Stake :=
      { owner, amount
        startedAt := now
        unlockAt := Time.after now p.terms.lockPeriod
        rewardsClaimed := .zero
        isActive := true
        lastClaimAt := now
        settledRewards := .zero }
    .ok (s, p.put owner s)

/-- Pay out everything earned so far. -/
def claim (p : StakePool) (owner : String) (now : Time) :
    Except LedgerError (Amount × StakePool) := do
  let s ← p.active owner
  let reward := s.unclaimed now p.terms.annualRate
  let claimed ← s.rewardsClaimed.add reward
  .ok (reward, p.put owner
    { s with
      rewardsClaimed := claimed
      settledRewards := .zero
      lastClaimAt := max s.lastClaimAt now })

/-- Add to the balance.  What the old balance has earned is settled first; the lock stays. -/
def increase (p : StakePool) (owner : String) (delta : Amount) (now : Time) :
    Except LedgerError (Stake × StakePool) :=
  if delta = .zero then .error .zeroAmount
  else do
    let s ← p.active owner
    let amount ← s.amount.add delta
    let s : Stake :=
      { s with
        amount
        settledRewards := s.unclaimed now p.terms.annualRate
        lastClaimAt := max s.lastClaimAt now }
    .ok (s, p.put owner s)

/-- Release the balance and the reward, once the lock has run out. -/
def close (p : StakePool) (owner : String) (now : Time) :
    Except LedgerError (Withdrawal × StakePool) := do
  let s ← p.active owner
  if s.isUnlocked now then
    let rewards := s.unclaimed now p.terms.annualRate
    let claimed ← s.rewardsClaimed.add rewards
    .ok (⟨owner, s.amount, rewards⟩, p.put owner
      { s with
        rewardsClaimed := claimed
        settledRewards := .zero
        lastClaimAt := max s.lastClaimAt now
        isActive := false })
  else .error (.stakeLocked owner s.unlockAt)

end StakePool

end StakeChain
