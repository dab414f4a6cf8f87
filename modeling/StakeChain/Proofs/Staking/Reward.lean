/-
# A reward against the exact interest

The reward of a balance over a span of time is the exact interest (`exactReward`) with the rest
dropped.  The three places where the computation stops at the end of a range, the span, the
product and the amount, can only make it smaller (`linearReward_le_exactReward`), and while the
span fits 64 bits and the interest an amount, none of them is reached, so less than one unit is
lost (`exactReward_lt_linearReward_add_one`).

What can be claimed from a record is what was put aside, up to the record's anchor
(`Stake.unclaimed_of_le_anchor`), and it never falls as time goes on (`Stake.unclaimed_mono`).
-/
import Mathlib.Algebra.Order.Floor.Semifield
import Mathlib.Data.Nat.Cast.Order.Field
import Mathlib.Data.Rat.Floor
import StakeChain.Staking.Stake

namespace StakeChain

/-! ## 1. What is computed -/

/-- Balance times rate times seconds counts interest in parts of a unit, so many to the unit. -/
def interestUnit : Nat := basisPoints * secondsPerYear

theorem product128?_eq_some {a b : Nat} (h : a * b < wideSize) : product128? a b = some (a * b) :=
  if_pos h

theorem product128?_eq_none {a b : Nat} (h : wideSize ≤ a * b) : product128? a b = none :=
  if_neg (Nat.not_lt.mpr h)

/-- **The reward as a quotient of natural numbers**, held within an amount.  A product beyond 128
bits makes no exception: its quotient is beyond 64. -/
theorem toNat_linearReward (principal : Amount) (rate : UInt32) (elapsed : Time) :
    (linearReward principal rate elapsed).toNat =
      min (principal.toNat * rate.toNat * elapsed.toInt.toNat / interestUnit)
        (UInt64.size - 1) := by
  unfold linearReward
  split
  · rename_i hnone
    have hzero : elapsed.toInt.toNat = 0 := by
      have : elapsed.toInt ≤ (0 : Time).toInt := Int64.le_iff_toInt_le.mp hnone
      exact Int.toNat_of_nonpos this
    simp [hzero]
  · have hrate : principal.toNat * rate.toNat < wideSize := by
      have hp : principal.toNat < UInt64.size := principal.toNat_lt
      have hr : rate.toNat < UInt64.size := Nat.lt_trans rate.toNat_lt (by decide)
      exact Nat.mul_lt_mul'' hp hr
    simp only [product128?_eq_some hrate, Option.bind_eq_bind, Option.bind_some]
    by_cases hwide : principal.toNat * rate.toNat * elapsed.toInt.toNat < wideSize
    · simp only [product128?_eq_some hwide, Amount.toNat_clamp]
      rfl
    · have hwide : wideSize ≤ principal.toNat * rate.toNat * elapsed.toInt.toNat :=
        Nat.not_lt.mp hwide
      have hquotient : UInt64.size ≤
          principal.toNat * rate.toNat * elapsed.toInt.toNat / interestUnit :=
        calc UInt64.size ≤ wideSize / interestUnit := by decide
          _ ≤ _ := Nat.div_le_div_right hwide
      have hall : UInt64.size - 1 ≤ wideSize - 1 := by decide
      simp only [product128?_eq_none hwide, Amount.toNat_clamp]
      omega

/-- Time earns from the anchor on; a span beyond 64 bits is cut. -/
theorem Time.toNat_since (now anchor : Time) :
    (Time.since now anchor).toInt.toNat =
      min (max anchor.toInt now.toInt - anchor.toInt).toNat Int64.maxValue.toInt.toNat := by
  have hmin : Int64.minValue.toInt ≤ 0 := by decide
  have hmax : 0 ≤ Int64.maxValue.toInt := by decide
  rw [Time.toInt_since]
  omega

/-! ## 2. The exact interest -/

/-- What a balance earns over a number of seconds, exactly. -/
def exactReward (principal : Nat) (rate : UInt32) (span : Int) : ℚ :=
  principal * rate.toNat * span / interestUnit

theorem exactReward_nonneg (principal : Nat) (rate : UInt32) {span : Int} (h : 0 ≤ span) :
    0 ≤ exactReward principal rate span := by
  unfold exactReward
  positivity

/-- The quotient is the exact interest without its rest, so not more than it ... -/
theorem natCast_div_le_exactReward (principal : Nat) (rate : UInt32) (span : Nat) :
    ((principal * rate.toNat * span / interestUnit : Nat) : ℚ) ≤
      exactReward principal rate span := by
  have h : ((principal * rate.toNat * span / interestUnit : Nat) : ℚ) ≤
      ((principal * rate.toNat * span : Nat) : ℚ) / interestUnit := Nat.cast_div_le
  unfold exactReward
  push_cast at h ⊢
  exact h

/-- ... and more than it with one added. -/
theorem exactReward_lt_natCast_div_add_one (principal : Nat) (rate : UInt32) (span : Nat) :
    exactReward principal rate span <
      ((principal * rate.toNat * span / interestUnit : Nat) : ℚ) + 1 := by
  have h := Nat.lt_floor_add_one (((principal * rate.toNat * span : Nat) : ℚ) / interestUnit)
  rw [Nat.floor_div_eq_div] at h
  unfold exactReward
  push_cast at h ⊢
  exact h

/-! ## 3. The two bounds -/

section

variable (principal : Amount) (rate : UInt32) (now anchor : Time)

/-- **A reward never exceeds the exact interest** from the anchor on, whatever stops at the end
of its range on the way. -/
theorem linearReward_le_exactReward :
    ((linearReward principal rate (Time.since now anchor)).toNat : ℚ) ≤
      exactReward principal.toNat rate (max anchor.toInt now.toInt - anchor.toInt) := by
  have hspan : (0 : Int) ≤ max anchor.toInt now.toInt - anchor.toInt := by omega
  obtain ⟨span, hspan⟩ := Int.eq_ofNat_of_zero_le hspan
  rw [toNat_linearReward, Time.toNat_since, hspan, Int.toNat_natCast]
  refine le_trans ?_ (natCast_div_le_exactReward principal.toNat rate span)
  rw [Nat.cast_le]
  calc min (principal.toNat * rate.toNat * min span Int64.maxValue.toInt.toNat / interestUnit)
        (UInt64.size - 1)
      ≤ principal.toNat * rate.toNat * min span Int64.maxValue.toInt.toNat / interestUnit :=
        Nat.min_le_left _ _
    _ ≤ principal.toNat * rate.toNat * span / interestUnit :=
        Nat.div_le_div_right (Nat.mul_le_mul_left _ (Nat.min_le_left _ _))

/-- **Less than one unit is lost** on a span and an interest that fit 64 bits. -/
theorem exactReward_lt_linearReward_add_one
    (hspan : max anchor.toInt now.toInt - anchor.toInt ≤ Int64.maxValue.toInt)
    (hfits : exactReward principal.toNat rate (max anchor.toInt now.toInt - anchor.toInt) <
      UInt64.size) :
    exactReward principal.toNat rate (max anchor.toInt now.toInt - anchor.toInt) <
      (linearReward principal rate (Time.since now anchor)).toNat + 1 := by
  have hnonneg : (0 : Int) ≤ max anchor.toInt now.toInt - anchor.toInt := by omega
  obtain ⟨span, hnat⟩ := Int.eq_ofNat_of_zero_le hnonneg
  have hmin : min span Int64.maxValue.toInt.toNat = span := by omega
  rw [hnat] at hfits
  have hquotient : principal.toNat * rate.toNat * span / interestUnit < UInt64.size := by
    exact_mod_cast lt_of_le_of_lt (natCast_div_le_exactReward principal.toNat rate span) hfits
  have hreward : (linearReward principal rate (Time.since now anchor)).toNat =
      principal.toNat * rate.toNat * span / interestUnit := by
    rw [toNat_linearReward, Time.toNat_since, hnat, Int.toNat_natCast, hmin]
    exact Nat.min_eq_left (by omega)
  rw [hreward, hnat]
  exact exactReward_lt_natCast_div_add_one principal.toNat rate span

end

/-! ## 4. Later is never less -/

/-- More at a higher rate over a longer span earns no less. -/
theorem linearReward_mono {principal more : Amount} {rate higher : UInt32} {elapsed longer : Time}
    (hmore : principal.toNat ≤ more.toNat) (hhigher : rate.toNat ≤ higher.toNat)
    (hlonger : elapsed.toInt.toNat ≤ longer.toInt.toNat) :
    (linearReward principal rate elapsed).toNat ≤ (linearReward more higher longer).toNat := by
  rw [toNat_linearReward, toNat_linearReward]
  have hquotient : principal.toNat * rate.toNat * elapsed.toInt.toNat / interestUnit ≤
      more.toNat * higher.toNat * longer.toInt.toNat / interestUnit :=
    Nat.div_le_div_right (Nat.mul_le_mul (Nat.mul_le_mul hmore hhigher) hlonger)
  omega

/-- **What can be claimed from a record never falls as time goes on.** -/
theorem Stake.unclaimed_mono (s : Stake) (rate : UInt32) {now later : Time} (h : now ≤ later) :
    (s.unclaimed now rate).toNat ≤ (s.unclaimed later rate).toNat := by
  have hspan : (Time.since now s.lastClaimAt).toInt.toNat ≤
      (Time.since later s.lastClaimAt).toInt.toNat := by
    have := Int64.le_iff_toInt_le.mp h
    rw [Time.toNat_since, Time.toNat_since]
    omega
  have hreward := linearReward_mono (Nat.le_refl s.amount.toNat) (Nat.le_refl rate.toNat) hspan
  rw [unclaimed, unclaimed, Amount.toNat_addClamped, Amount.toNat_addClamped]
  omega

/-! ## 5. Around the anchor -/

namespace Stake

/-- **A record earns nothing before its anchor.** -/
theorem unclaimed_of_le_anchor (s : Stake) (rate : UInt32) {t : Time} (h : t ≤ s.lastClaimAt) :
    s.unclaimed t rate = s.settledRewards := by
  have hle := Int64.le_iff_toInt_le.mp h
  have hspan : (Time.since t s.lastClaimAt).toInt.toNat = 0 := by
    rw [Time.toNat_since]
    omega
  have hnothing : (linearReward s.amount rate (Time.since t s.lastClaimAt)).toNat = 0 := by
    rw [toNat_linearReward, hspan, Nat.mul_zero, Nat.zero_div, Nat.zero_min]
  have hsettled := s.settledRewards.toNat_lt
  refine Amount.toNat_inj.mp ?_
  rw [unclaimed, Amount.toNat_addClamped, hnothing]
  omega

/-- Where nothing was put aside, there is nothing to claim up to the anchor. -/
theorem unclaimed_eq_zero_of_le_anchor {s : Stake} (hsettled : s.settledRewards = .zero)
    (rate : UInt32) {t : Time} (h : t ≤ s.lastClaimAt) : s.unclaimed t rate = .zero :=
  (s.unclaimed_of_le_anchor rate h).trans hsettled

/-- **What a claim, an increase or a closing at `now` does to the rewards of a record**: what could
be claimed is paid or put aside, and the record earns from its anchor on. -/
structure Settles (s : Stake) (rate : UInt32) (now : Time) (s' : Stake) : Prop where
  anchor : s'.lastClaimAt = max s.lastClaimAt now
  moved : s'.rewardsClaimed.toNat + s'.settledRewards.toNat =
    s.rewardsClaimed.toNat + (s.unclaimed now rate).toNat

end Stake

end StakeChain
