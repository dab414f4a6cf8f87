/-
# Views in JSON

How the parts of a ledger are shown.  A validator is shown with whether it is live and a stake
with the reward that could be claimed, both as of the ledger's clock and both asked of the ledger
anew.
-/
import StakeChain.Amount.Text
import StakeChain.Block.Json
import StakeChain.Ledger.Basic

namespace StakeChain

/-- A fault as a JSON object. -/
def Fault.toJson (f : Fault) : Json :=
  .record [("index", .nat f.index.toNat), ("reason", .text f.reason.label)]

/-- The fields of a validator. -/
def Validator.fields (v : Validator) : List (String × Json) := [
  ("identifier", .text v.identifier),
  ("staked_amount", v.stake.toJson),
  ("registered_at", .int v.registeredAt.toInt),
  ("last_active_at", .int v.lastActiveAt.toInt),
  ("is_active", .bool v.isActive)]

/-- A validator as a JSON object. -/
def Validator.toJson (v : Validator) : Json := .record v.fields

/-- The outcome of the quorum check as a JSON object. -/
def Quorum.toJson (q : Quorum) : Json :=
  .record [
    ("active_validators", .nat q.liveValidators),
    ("total_validators", .nat q.totalValidators),
    ("active_stake", q.liveStake.toJson),
    ("total_stake", q.totalStake.toJson),
    ("reached", .bool q.reached)]

/-- The fields of a stake. -/
def Stake.fields (s : Stake) : List (String × Json) := [
  ("owner", .text s.owner),
  ("amount", s.amount.toJson),
  ("started_at", .int s.startedAt.toInt),
  ("unlock_at", .int s.unlockAt.toInt),
  ("rewards_claimed", s.rewardsClaimed.toJson),
  ("is_active", .bool s.isActive),
  ("last_claim_at", .int s.lastClaimAt.toInt),
  ("settled_rewards", s.settledRewards.toJson)]

/-- A stake as a JSON object. -/
def Stake.toJson (s : Stake) : Json := .record s.fields

/-- What closing a stake released, as a JSON object. -/
def Withdrawal.toJson (w : Withdrawal) : Json :=
  .record [
    ("owner", .text w.owner),
    ("principal", w.principal.toJson),
    ("rewards", w.rewards.toJson)]

/-- The fields of the terms of staking. -/
def StakingTerms.fields (t : StakingTerms) : List (String × Json) := [
  ("minimum_stake", t.minimumStake.toJson),
  ("lock_period_secs", .int t.lockPeriod.toInt),
  ("annual_rate_bps", .nat t.annualRate.toNat)]

/-- The terms of staking as a JSON object. -/
def StakingTerms.toJson (t : StakingTerms) : Json := .record t.fields

/-- The summary of a staking pool as a JSON object, with the terms. -/
def PoolSummary.toJson (s : PoolSummary) : Json :=
  .record ([
    ("total_staked", s.totalStaked.toJson),
    ("unclaimed_rewards", s.unclaimedRewards.toJson),
    ("active_stakes", .nat s.activeStakes),
    ("total_stakers", .nat s.totalStakers)] ++ s.terms.fields)

namespace Ledger

variable {σ : Type}

/-- A validator with whether it is live now. -/
def showValidator (l : Ledger σ) (v : Validator) : Json :=
  .record (v.fields ++ [("live", .bool (l.registry.isLive v.identifier l.clock))])

/-- A stake with the reward that could be claimed now, `null` for a closed one. -/
def showStake (l : Ledger σ) (s : Stake) : Json :=
  .record (s.fields ++
    [("accrued", .option Amount.toJson (l.stakes.accrued s.owner l.clock).toOption)])

/-- The ledger at a glance. -/
def showStats (l : Ledger σ) : Json :=
  let live := l.registry.live l.clock
  .record [
    ("height", .nat l.chain.length),
    ("latest_hash", .text l.chain.head.hash),
    ("latest_timestamp", .int l.chain.head.timestamp.toInt),
    ("validators", .nat l.registry.size),
    ("active_validators", .nat live.length),
    ("active_validator_stake",
      ((live.map (·.stake)).foldl Amount.addClamped .zero).toJson),
    ("block_reward", l.terms.reward.toJson),
    ("pending_transactions", .nat l.mempool.pending.length),
    ("pool", (l.stakes.summary l.clock).toJson)]

end Ledger

end StakeChain
