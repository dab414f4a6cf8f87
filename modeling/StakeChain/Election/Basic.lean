/-
# Elections

A leader is elected with probability proportional to stake.  The stakes are laid end to end in
the order of the list, a number is drawn below their exact total, and the leader is the one
whose stretch it falls in: the first whose running sum exceeds it.  Without any stake there is
nothing to draw for and the last of the list leads; a number past the total elects the last too.
-/
import StakeChain.Election.Source
import StakeChain.Registry.Basic

namespace StakeChain

/-- The exact total of the stakes. -/
def totalStake (candidates : List Validator) : Nat := Amount.total (candidates.map (·.stake))

/-- The first candidate whose running sum, started at `before`, exceeds the number. -/
def winner? (number : Nat) : (before : Nat) → List Validator → Option Validator
  | _, [] => none
  | before, v :: rest =>
    let sum := before + v.stake.toNat
    if number < sum then some v else winner? number sum rest

namespace Urn

variable {σ : Type} [DrawSource σ]

/-- Elect one of the candidates, with one draw at most. -/
def elect (u : Urn σ) (candidates : List Validator) : Except LedgerError Validator × Urn σ :=
  match candidates.getLast? with
  | none => (.error .noLiveValidator, u)
  | some last =>
    let total := totalStake candidates
    if total = 0 then (.ok last, u)
    else
      let (number, u) := u.draw total
      (.ok ((winner? number 0 candidates).getD last), u)

/-- Elect `times` times, one after another. -/
def electTimes (candidates : List Validator) :
    (times : Nat) → Urn σ → List (Except LedgerError Validator) × Urn σ
  | 0, u => ([], u)
  | times + 1, u =>
    let (winner, u) := u.elect candidates
    let (winners, u) := electTimes candidates times u
    (winner :: winners, u)

end Urn

end StakeChain
