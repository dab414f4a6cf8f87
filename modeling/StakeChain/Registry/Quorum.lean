/-
# Quorum

The stake-majority check: enough validators are live, and they hold more than 51 parts in a
hundred of all registered stake.  One pass over the registry takes the counts and the exact
sums; the sums are held within an amount only when they are reported.
-/
import StakeChain.Registry.Basic

namespace StakeChain

/-- Counts and exact sums of stake over a list of validators. -/
structure Tally where
  liveCount : Nat
  liveStake : Nat
  totalStake : Nat
deriving DecidableEq, Repr

namespace Tally

/-- Nothing counted. -/
def zero : Tally := ⟨0, 0, 0⟩

/-- One more validator. -/
def count (now window : Time) (t : Tally) (v : Validator) : Tally :=
  let units := v.stake.toNat
  if v.isLive now window then ⟨t.liveCount + 1, t.liveStake + units, t.totalStake + units⟩
  else { t with totalStake := t.totalStake + units }

/-- More than 51 parts in a hundred of the stake is live. -/
def isMajority (t : Tally) : Bool := decide (t.totalStake * 51 < t.liveStake * 100)

end Tally

/-- The outcome of the check. -/
structure Quorum where
  liveValidators : Nat
  totalValidators : Nat
  liveStake : Amount
  totalStake : Amount
  reached : Bool
deriving DecidableEq, Repr

namespace Registry

/-- Counts and sums over the whole registry. -/
def tally (r : Registry) (now : Time) : Tally :=
  r.list.foldl (Tally.count now r.terms.activityWindow) .zero

/-- The check with `minimum` as the least number of live validators. -/
def quorum (r : Registry) (now : Time) (minimum : Nat) : Quorum :=
  let t := r.tally now
  { liveValidators := t.liveCount
    totalValidators := r.size
    liveStake := .clamp t.liveStake
    totalStake := .clamp t.totalStake
    reached := decide (minimum ≤ t.liveCount) && t.isMajority }

end Registry

end StakeChain
