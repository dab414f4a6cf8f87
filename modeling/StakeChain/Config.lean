/-
# Configuration

The terms that a ledger runs under, in three groups: for the staking pool, for the registry of
validators and for the production of blocks.  `Config.read` starts from the defaults and takes
over each named setting that is present, in a fixed order, so the first bad one is the one
reported.  A lock period below zero and a limit of no attempts are refused after all settings
have been read.
-/
import StakeChain.Amount.Text
import StakeChain.Text.Quoted
import StakeChain.Time

namespace StakeChain

/-- Terms of the staking pool. -/
structure StakingTerms where
  minimumStake : Amount
  /-- Seconds between opening a stake and the first moment it may be closed. -/
  lockPeriod : Time
  /-- Yearly reward in hundredths of a percent. -/
  annualRate : UInt32
deriving DecidableEq, Repr

/-- Terms of the registry of validators. -/
structure RegistryTerms where
  minimumStake : Amount
  /-- Seconds for which a heartbeat keeps a validator live. -/
  activityWindow : Time
deriving DecidableEq, Repr

/-- Terms of block production. -/
structure ProductionTerms where
  reward : Amount
  /-- How often a block is rebuilt when the head moves; at least one attempt is made. -/
  maxAttempts : UInt32
deriving DecidableEq, Repr

/-- The terms of a ledger. -/
structure Config where
  staking : StakingTerms
  registry : RegistryTerms
  production : ProductionTerms
deriving DecidableEq, Repr

/-- A setting whose value is refused. -/
structure RefusedSetting where
  key : String
  value : String
deriving DecidableEq, Repr

/-- The report of a refused setting. -/
def RefusedSetting.message (e : RefusedSetting) : String :=
  s!"{e.key}={Text.Quoted.encode e.value} is not a valid value"

namespace Config

/-- Stakes of 100 coins locked for thirty days at five percent; validators with 1000 coins, live
for five minutes after a heartbeat; two coins a block, three attempts. -/
def default : Config where
  staking := ⟨⟨10000000000⟩, 2592000, 500⟩
  registry := ⟨⟨100000000000⟩, 300⟩
  production := ⟨⟨200000000⟩, 3⟩

instance : Inhabited Config := ⟨default⟩

/-- One setting: its value without blanks at the ends, or `fallback` when it is absent.  A
refused value is reported as it was given. -/
def setting {α : Type} (lookup : String → Option String) (key : String)
    (value? : List Char → Option α) (fallback : α) : Except RefusedSetting α :=
  match lookup key with
  | none => .ok fallback
  | some raw =>
    match value? (Text.trim raw.toList) with
    | some value => .ok value
    | none => .error ⟨key, raw⟩

/-- The configuration that the settings describe. -/
def read (lookup : String → Option String) : Except RefusedSetting Config := do
  let base := default
  let minimumStake ← setting lookup "POS_MIN_STAKE" Amount.ofChars? base.staking.minimumStake
  let lockPeriod ← setting lookup "POS_LOCK_PERIOD_SECS" Text.int64? base.staking.lockPeriod
  let annualRate ← setting lookup "POS_ANNUAL_RATE_BPS" Text.uint32? base.staking.annualRate
  let validatorStake ←
    setting lookup "POS_MIN_VALIDATOR_STAKE" Amount.ofChars? base.registry.minimumStake
  let reward ← setting lookup "POS_BLOCK_REWARD" Amount.ofChars? base.production.reward
  let window ←
    setting lookup "POS_ACTIVITY_WINDOW_SECS" Text.int64? base.registry.activityWindow
  let attempts ←
    setting lookup "POS_MAX_PRODUCE_ATTEMPTS" Text.uint32? base.production.maxAttempts
  if lockPeriod < 0 then
    .error ⟨"POS_LOCK_PERIOD_SECS", toString lockPeriod.toInt⟩
  else if attempts = 0 then
    .error ⟨"POS_MAX_PRODUCE_ATTEMPTS", "0"⟩
  else
    .ok ⟨⟨minimumStake, lockPeriod, annualRate⟩, ⟨validatorStake, window⟩, ⟨reward, attempts⟩⟩

end Config

end StakeChain
