/-
# Validators

A validator has a stake, which is its weight in elections, and sends heartbeats.  It is live
while its flag is set and its last heartbeat is no older than the activity window.
-/
import StakeChain.Amount.Basic
import StakeChain.Time

namespace StakeChain

/-- A registered validator. -/
structure Validator where
  identifier : String
  stake : Amount
  registeredAt : Time
  /-- The time of the latest heartbeat. -/
  lastActiveAt : Time
  /-- The administrative flag; liveness needs a heartbeat as well. -/
  isActive : Bool
deriving DecidableEq, Repr

namespace Validator

/-- The flag is set and the last heartbeat is no older than `window`. -/
def isLive (v : Validator) (now window : Time) : Bool :=
  v.isActive && decide (Time.since now v.lastActiveAt ≤ window)

/-- The validator after a heartbeat; an older one than the latest changes nothing. -/
def heartbeat (v : Validator) (now : Time) : Validator :=
  { v with lastActiveAt := max v.lastActiveAt now }

end Validator

end StakeChain
