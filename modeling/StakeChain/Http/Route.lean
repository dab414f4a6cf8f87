/-
# Routes

Which question a method and a path ask.  Where a fixed segment and a name could both stand, the
fixed one is tried first, so no validator's own page is found under `quorum`.  Fixed segments are
compared as the path was split; a name is then read in full.  A method that a path does not know
is no route, like a path that nothing knows.
-/
import StakeChain.Http.Path

namespace StakeChain.Http

/-- A question to the ledger, with the names in its path. -/
inductive Route where
  | health
  | stats
  | chain
  | block (index : String)
  | validate
  | produce
  | checkBlock
  | submit
  | pending
  | validators
  | register
  | quorum
  | validator (identifier : String)
  | heartbeat (identifier : String)
  | setActive (identifier : String)
  | remove (identifier : String)
  | stakes
  | openStake
  | stake (owner : String)
  | claim (owner : String)
  | increase (owner : String)
  | closeStake (owner : String)
deriving DecidableEq, Repr

namespace Route

/-- The questions that change nothing. -/
def ofGet? : List String → Option Route
  | ["health"] => some .health
  | ["stats"] => some .stats
  | ["chain"] => some .chain
  | ["chain", index] => some (.block (decodeSegment index))
  | ["validate"] => some .validate
  | ["transactions", "pending"] => some .pending
  | ["validators"] => some .validators
  | ["validators", "quorum"] => some .quorum
  | ["validators", identifier] => some (.validator (decodeSegment identifier))
  | ["stakes"] => some .stakes
  | ["stakes", owner] => some (.stake (decodeSegment owner))
  | _ => none

/-- The questions that may change the ledger, and the check of a block. -/
def ofPost? : List String → Option Route
  | ["blocks"] => some .produce
  | ["blocks", "validate"] => some .checkBlock
  | ["transactions"] => some .submit
  | ["validators"] => some .register
  | ["validators", identifier, "heartbeat"] => some (.heartbeat (decodeSegment identifier))
  | ["validators", identifier, "active"] => some (.setActive (decodeSegment identifier))
  | ["stakes"] => some .openStake
  | ["stakes", owner, "claim"] => some (.claim (decodeSegment owner))
  | ["stakes", owner, "increase"] => some (.increase (decodeSegment owner))
  | ["stakes", owner, "close"] => some (.closeStake (decodeSegment owner))
  | _ => none

/-- The one question that removes something. -/
def ofDelete? : List String → Option Route
  | ["validators", identifier] => some (.remove (decodeSegment identifier))
  | _ => none

/-- The question that a method and the segments of a path ask. -/
def of? (method : String) (segments : List String) : Option Route :=
  if method = "GET" then ofGet? segments
  else if method = "POST" then ofPost? segments
  else if method = "DELETE" then ofDelete? segments
  else none

end Route

end StakeChain.Http
