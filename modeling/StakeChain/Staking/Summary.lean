/-
# The pool at a glance

Counts and totals over the stakes, and the terms.  The totals cover the active stakes and stop at
the largest amount.
-/
import StakeChain.Staking.Pool

namespace StakeChain

/-- Counts and totals over the stakes of a pool. -/
structure PoolSummary where
  totalStaked : Amount
  unclaimedRewards : Amount
  activeStakes : Nat
  /-- All owners with a record, active or closed. -/
  totalStakers : Nat
  terms : StakingTerms
deriving DecidableEq, Repr

namespace PoolSummary

/-- The summary of a pool without stakes. -/
def blank (terms : StakingTerms) : PoolSummary := ⟨.zero, .zero, 0, 0, terms⟩

/-- One more record; a closed one adds only to the number of owners. -/
def add (now : Time) (t : PoolSummary) (s : Stake) : PoolSummary :=
  let t := { t with totalStakers := t.totalStakers + 1 }
  if s.isActive then
    { t with
      totalStaked := t.totalStaked.addClamped s.amount
      unclaimedRewards := t.unclaimedRewards.addClamped (s.unclaimed now t.terms.annualRate)
      activeStakes := t.activeStakes + 1 }
  else t

/-- **The pass in closed form**: everything but the number of owners is about the active stakes. -/
theorem foldl_add (now : Time) : ∀ (records : List Stake) (t : PoolSummary),
    let active := records.filter (·.isActive)
    records.foldl (add now) t =
      { totalStaked := (active.map (·.amount)).foldl .addClamped t.totalStaked
        unclaimedRewards :=
          (active.map (·.unclaimed now t.terms.annualRate)).foldl .addClamped t.unclaimedRewards
        activeStakes := t.activeStakes + active.length
        totalStakers := t.totalStakers + records.length
        terms := t.terms }
  | [], t => rfl
  | s :: rest, t => by
    intro active
    rw [List.foldl_cons, foldl_add now rest]
    cases hs : s.isActive with
    | true =>
      have hcons : active = s :: rest.filter (·.isActive) := List.filter_cons_of_pos hs
      simp only [hcons, add, hs, if_true, List.map_cons, List.foldl_cons, List.length_cons,
        mk.injEq, true_and, and_true]
      omega
    | false =>
      have hcons : active = rest.filter (·.isActive) := List.filter_cons_of_neg (by simp [hs])
      simp only [hcons, add, hs, List.length_cons, Bool.false_eq_true, if_false, mk.injEq, true_and,
        and_true]
      omega

end PoolSummary

/-- The summary at a time. -/
def StakePool.summary (p : StakePool) (now : Time) : PoolSummary :=
  p.list.foldl (PoolSummary.add now) (.blank p.terms)

end StakeChain
