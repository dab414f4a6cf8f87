/-
# Stakes

A stake is a locked balance that earns a reward proportional to its size, the yearly rate and the
time it has been held.  The reward is computed when it is asked for: what was settled before the
last change of the balance, plus what the present balance has earned since (`Stake.unclaimed`).

The product of balance, rate and time is taken in 128 bits.  One that does not fit is worth more
than any amount, and the reward is then the largest amount.
-/
import StakeChain.Amount.Basic
import StakeChain.Time

namespace StakeChain

/-- Seconds in a year of 365.25 days. -/
def secondsPerYear : Nat := 31557600

/-- Hundredths of a percent in the whole. -/
def basisPoints : Nat := 10000

/-- The number of 128-bit words. -/
def wideSize : Nat := UInt64.size * UInt64.size

/-- A product, when it fits in 128 bits. -/
def product128? (a b : Nat) : Option Nat := if a * b < wideSize then some (a * b) else none

/-- The reward of a balance over a span of time, in whole units, the rest dropped.  No time, or
time running backwards, earns nothing. -/
def linearReward (principal : Amount) (annualRate : UInt32) (elapsed : Time) : Amount :=
  if elapsed ≤ 0 then .zero
  else
    let product := do
      let n ← product128? principal.toNat annualRate.toNat
      product128? n elapsed.toInt.toNat
    match product with
    | some n => .clamp (n / (basisPoints * secondsPerYear))
    | none => .clamp (wideSize - 1)

/-- A locked balance. -/
structure Stake where
  owner : String
  amount : Amount
  startedAt : Time
  unlockAt : Time
  /-- All rewards paid out so far. -/
  rewardsClaimed : Amount
  isActive : Bool
  /-- The present balance earns from here on. -/
  lastClaimAt : Time
  /-- Earned before the last change of the balance and not yet claimed. -/
  settledRewards : Amount
deriving DecidableEq, Repr

namespace Stake

/-- The reward that could be claimed at `now`. -/
def unclaimed (s : Stake) (now : Time) (annualRate : UInt32) : Amount :=
  s.settledRewards.addClamped (linearReward s.amount annualRate (Time.since now s.lastClaimAt))

/-- The lock has run out. -/
def isUnlocked (s : Stake) (now : Time) : Bool := decide (s.unlockAt ≤ now)

end Stake

/-- What closing a stake releases. -/
structure Withdrawal where
  owner : String
  principal : Amount
  rewards : Amount
deriving DecidableEq, Repr

end StakeChain
