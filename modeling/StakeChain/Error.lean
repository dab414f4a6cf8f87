/-
# Why an operation is refused

Every refusal names its cause and carries what a caller needs to see of it.  The wording stands
in `message`, the coarse class that a caller branches on in `kind`.  Two of the causes say that
the head of the chain is not where the caller thought (`isAppendRace`); whoever builds a block
may try again on the new head.
-/
import StakeChain.Amount.Text
import StakeChain.Time

namespace StakeChain

/-- The coarse class of a refusal. -/
inductive ErrorKind where
  /-- The request itself is malformed. -/
  | validation
  /-- It names something that does not exist. -/
  | notFound
  /-- It collides with what is already there. -/
  | conflict
  /-- What it names is not in a state that allows it. -/
  | state
deriving DecidableEq, Repr

/-- The word for a class. -/
def ErrorKind.label : ErrorKind → String
  | .validation => "validation"
  | .notFound => "not_found"
  | .conflict => "conflict"
  | .state => "state"

/-- The cause of a refusal. -/
inductive LedgerError where
  | blankIdentifier
  | zeroAmount
  | amountOverflow
  | stakeTooSmall (minimum got : Amount)
  | validatorStakeTooSmall (minimum got : Amount)
  | wrongBlockHash (index : UInt64) (stored computed : String)
  | forgedTransaction (index : UInt64) (txid : String)
  | unknownValidator (identifier : String)
  | unknownStake (owner : String)
  | noSuchBlock (index : UInt64) (length : Nat)
  | validatorExists (identifier : String)
  | stakeExists (owner : String)
  | wrongIndex (expected got : UInt64)
  | wrongPreviousHash (expected got : String)
  | headKeptMoving (attempts : UInt32)
  | stakeClosed (owner : String)
  | stakeLocked (owner : String) (unlockAt : Time)
  | noLiveValidator
  | validatorNotLive (identifier : String)
deriving DecidableEq, Repr

namespace LedgerError

/-- The class of a cause. -/
def kind : LedgerError → ErrorKind
  | blankIdentifier | zeroAmount | amountOverflow | stakeTooSmall .. | validatorStakeTooSmall ..
  | wrongBlockHash .. | forgedTransaction .. => .validation
  | unknownValidator _ | unknownStake _ | noSuchBlock .. => .notFound
  | validatorExists _ | stakeExists _ | wrongIndex .. | wrongPreviousHash ..
  | headKeptMoving _ => .conflict
  | stakeClosed _ | stakeLocked .. | noLiveValidator | validatorNotLive _ => .state

/-- The cause in words. -/
def message : LedgerError → String
  | blankIdentifier => "identifier must not be empty"
  | zeroAmount => "amount must be positive"
  | amountOverflow => "amount overflow"
  | stakeTooSmall minimum got =>
    s!"stake of {got.render} is below the minimum of {minimum.render}"
  | validatorStakeTooSmall minimum got =>
    s!"validator stake of {got.render} is below the minimum of {minimum.render}"
  | wrongBlockHash index stored computed =>
    s!"block #{index.toNat} carries hash {stored} but its content hashes to {computed}"
  | forgedTransaction index txid =>
    s!"block #{index.toNat} carries transaction {txid} whose id does not match its payload"
  | unknownValidator identifier => s!"validator '{identifier}' not found"
  | unknownStake owner => s!"stake for '{owner}' not found"
  | noSuchBlock index length => s!"block #{index.toNat} out of range (chain length {length})"
  | validatorExists identifier => s!"validator '{identifier}' already registered"
  | stakeExists owner => s!"'{owner}' already holds an active stake"
  | wrongIndex expected got => s!"expected block index {expected.toNat}, got {got.toNat}"
  | wrongPreviousHash expected got =>
    s!"previous hash {got} does not match chain head {expected}"
  | headKeptMoving attempts =>
    s!"chain head kept moving, gave up after {attempts.toNat} attempts"
  | stakeClosed owner => s!"stake for '{owner}' is not active"
  | stakeLocked owner unlockAt => s!"stake for '{owner}' is locked until {unlockAt.toInt}"
  | noLiveValidator => "no active validators"
  | validatorNotLive identifier => s!"validator '{identifier}' is not active"

/-- The head of the chain is not the block that a candidate was built on. -/
def isAppendRace : LedgerError → Bool
  | wrongIndex .. | wrongPreviousHash .. => true
  | _ => false

end LedgerError

/-- The sum of two amounts; one that does not fit is refused. -/
def Amount.add (a b : Amount) : Except LedgerError Amount :=
  match a.add? b with
  | some c => .ok c
  | none => .error .amountOverflow

theorem Amount.add_eq_ok_iff {a b c : Amount} : a.add b = .ok c ↔ c.toNat = a.toNat + b.toNat := by
  unfold Amount.add
  cases h : a.add? b with
  | some d =>
    rw [Except.ok.injEq, ← add?_eq_some_iff, h, Option.some.injEq]
  | none =>
    rw [← add?_eq_some_iff, h]
    simp

/-- A sum is refused for one reason only. -/
theorem Amount.add_eq_error_iff {a b : Amount} {e : LedgerError} :
    a.add b = .error e ↔ UInt64.size ≤ a.toNat + b.toNat ∧ e = .amountOverflow := by
  unfold Amount.add
  cases h : a.add? b with
  | some d =>
    have hsum := add?_eq_some_iff.mp h
    have := d.toNat_lt
    simp only [reduceCtorEq, false_iff]
    omega
  | none => simp [add?_eq_none_iff.mp h, eq_comm]

/-- Two steps in a row succeed when the first does and the second does after it. -/
theorem bind_eq_ok_iff {ε α β : Type} {x : Except ε α} {f : α → Except ε β} {b : β} :
    x >>= f = .ok b ↔ ∃ a, x = .ok a ∧ f a = .ok b := by
  cases x <;> simp [bind, Except.bind]

end StakeChain
