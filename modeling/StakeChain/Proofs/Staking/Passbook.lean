/-
# Passbooks

A passbook is what an owner can write down about a stake from the operations that succeeded and
their answers alone: the opening, and each claim and increase after it with its time.  It fixes
the exact interest that the stake is entitled to (`Passbook.interest`): each balance earns from
one entry to the next, and a clock that goes backwards earns nothing until it has caught up.

`Passbook.Describes` is the invariant between a passbook and the record that the pool keeps.
What the record has paid and settled is what the passbook has earned up to the last entry, less
whatever rest was dropped at the entries, and so what it has paid and could still pay is right
at any time (`Passbook.Describes.accountsFor`).
-/
import StakeChain.Proofs.Staking.Reward

namespace StakeChain

/-! ## 1. What is written down -/

/-- What changes a stake while it is held. -/
inductive Entry where
  | claimed (reward : Amount)
  | increased (delta : Amount)
deriving DecidableEq, Repr

/-- What an entry adds to the balance. -/
def Entry.deposit : Entry → Nat
  | .claimed _ => 0
  | .increased delta => delta.toNat

/-- What an entry pays out. -/
def Entry.payment : Entry → Nat
  | .claimed reward => reward.toNat
  | .increased _ => 0

/-- The opening of a stake and the entries since, with their times. -/
inductive Passbook where
  | opened (time : Time) (deposit : Amount)
  | entered (before : Passbook) (time : Time) (entry : Entry)
deriving DecidableEq, Repr

namespace Passbook

/-- The latest time written down. -/
def anchor : Passbook → Int
  | opened time _ => time.toInt
  | entered before time _ => max before.anchor time.toInt

/-- The present balance. -/
def balance : Passbook → Nat
  | opened _ deposit => deposit.toNat
  | entered before _ entry => before.balance + entry.deposit

/-- All that was paid out. -/
def paid : Passbook → Nat
  | opened _ _ => 0
  | entered before _ entry => before.paid + entry.payment

/-- The number of entries since the opening. -/
def entries : Passbook → Nat
  | opened _ _ => 0
  | entered before _ _ => before.entries + 1

/-- The seconds from the latest time written down to `now`. -/
def span (k : Passbook) (now : Time) : Int := max k.anchor now.toInt - k.anchor

/-- The exact interest up to the last entry. -/
def earned (rate : UInt32) : Passbook → ℚ
  | opened _ _ => 0
  | entered before time _ =>
    before.earned rate + exactReward before.balance rate (before.span time)

/-- **The exact interest up to `now`.** -/
def interest (k : Passbook) (rate : UInt32) (now : Time) : ℚ :=
  k.earned rate + exactReward k.balance rate (k.span now)

/-- Each span between entries fits 64 bits. -/
def SpansFit : Passbook → Prop
  | opened _ _ => True
  | entered before time _ => before.SpansFit ∧ before.span time ≤ Int64.maxValue.toInt

/-- **A total that the passbook accounts for at `now`**: it does not exceed the exact interest,
and where spans and interest fit 64 bits it falls short of it by less than one unit for each
entry and one more. -/
structure AccountsFor (k : Passbook) (rate : UInt32) (now : Time) (total : Nat) : Prop where
  notMore : (total : ℚ) ≤ k.interest rate now
  barelyLess : k.SpansFit → k.span now ≤ Int64.maxValue.toInt →
    k.interest rate now < UInt64.size → k.interest rate now - total < k.entries + 1

/-! ## 2. The record of the pool -/

theorem span_nonneg (k : Passbook) (now : Time) : 0 ≤ k.span now := by
  unfold span
  omega

theorem earned_nonneg (rate : UInt32) : ∀ k : Passbook, 0 ≤ k.earned rate
  | opened _ _ => le_refl 0
  | entered k time _ =>
    add_nonneg (earned_nonneg rate k) (exactReward_nonneg k.balance rate (k.span_nonneg time))

/-- **The invariant**: the record `s` is what the passbook says.  Each entry drops less than one
unit. -/
structure Describes (k : Passbook) (rate : UInt32) (s : Stake) : Prop where
  active : s.isActive = true
  amount : s.amount.toNat = k.balance
  anchor : s.lastClaimAt.toInt = k.anchor
  paid : s.rewardsClaimed.toNat = k.paid
  notMore : ((s.rewardsClaimed.toNat + s.settledRewards.toNat : Nat) : ℚ) ≤ k.earned rate
  barelyLess : k.SpansFit → k.earned rate < UInt64.size →
    k.earned rate - (s.rewardsClaimed.toNat + s.settledRewards.toNat : Nat) ≤ k.entries

namespace Describes

variable {k : Passbook} {rate : UInt32} {s : Stake}

/-- **What was paid and what could be paid is accounted for at any time**, also before the last
entry. -/
theorem accountsFor (h : k.Describes rate s) (now : Time) :
    k.AccountsFor rate now (s.rewardsClaimed.toNat + (s.unclaimed now rate).toNat) := by
  have hearned := k.earned_nonneg rate
  have hexact := exactReward_nonneg k.balance rate (k.span_nonneg now)
  have hupper := linearReward_le_exactReward s.amount rate now s.lastClaimAt
  have hlower := exactReward_lt_linearReward_add_one s.amount rate now s.lastClaimAt
  rw [h.amount, h.anchor] at hupper hlower
  have hnotMore := h.notMore
  have hunclaimed := Amount.toNat_addClamped s.settledRewards
    (linearReward s.amount rate (Time.since now s.lastClaimAt))
  rw [← Stake.unclaimed] at hunclaimed
  generalize linearReward s.amount rate (Time.since now s.lastClaimAt) = reward at *
  have htotal : ((s.rewardsClaimed.toNat + (s.settledRewards.toNat + reward.toNat) : Nat) : ℚ) ≤
      k.interest rate now := by
    unfold interest span
    push_cast at hnotMore ⊢
    linarith
  constructor
  · refine le_trans ?_ htotal
    rw [Nat.cast_le]
    omega
  · intro hspans hspan hfits
    have hall : s.rewardsClaimed.toNat + (s.settledRewards.toNat + reward.toNat) < UInt64.size := by
      exact_mod_cast lt_of_le_of_lt htotal hfits
    -- below the largest amount nothing is cut off
    have hsum : (s.unclaimed now rate).toNat = s.settledRewards.toNat + reward.toNat := by omega
    unfold interest at hfits ⊢
    have hless := h.barelyLess hspans (by linarith)
    have hreward := hlower hspan (by unfold span at hfits; linarith)
    rw [hsum]
    unfold span
    push_cast at hless hreward ⊢
    linarith

/-- The record that an opening leaves. -/
theorem opened {s : Stake} {now : Time} {deposit : Amount} (hactive : s.isActive = true)
    (hamount : s.amount = deposit) (hanchor : s.lastClaimAt = now)
    (hclaimed : s.rewardsClaimed = .zero) (hsettled : s.settledRewards = .zero) :
    (Passbook.opened now deposit).Describes rate s where
  active := hactive
  amount := by rw [hamount]; rfl
  anchor := by rw [hanchor]; rfl
  paid := by rw [hclaimed]; rfl
  notMore := by simp [hclaimed, hsettled, earned]
  barelyLess := by simp [hclaimed, hsettled, earned, entries]

/-- **A record stays described when an entry moves what is unclaimed**, to what was paid or to
what is settled. -/
theorem entered {s' : Stake} {now : Time} {e : Entry} (h : k.Describes rate s)
    (hsettles : s.Settles rate now s') (hactive : s'.isActive = true)
    (hamount : s'.amount.toNat = s.amount.toNat + e.deposit)
    (hpaid : s'.rewardsClaimed.toNat = s.rewardsClaimed.toNat + e.payment) :
    (Passbook.entered k now e).Describes rate s' where
  active := hactive
  amount := by rw [hamount, h.amount]; rfl
  anchor := by rw [hsettles.anchor, Time.toInt_max, h.anchor]; rfl
  paid := by rw [hpaid, h.paid]; rfl
  notMore := by
    rw [hsettles.moved]
    exact (h.accountsFor now).notMore
  barelyLess := by
    rintro ⟨hspans, hspan⟩ hfits
    rw [hsettles.moved]
    have hless := (h.accountsFor now).barelyLess hspans hspan hfits
    exact le_of_lt (hless.trans_eq (Nat.cast_succ k.entries).symm)

end Describes

end Passbook

end StakeChain
