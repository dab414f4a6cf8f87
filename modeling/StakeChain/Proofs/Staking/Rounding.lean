/-
# What rounding does to a reward

The interest of a balance is balance times rate times seconds, a number of up to 159 bits, in parts
of a unit.  It is computed in 128 bits and paid in 64, and there are two ways out where it does not
fit.  Neither shows: a product beyond 128 bits has a quotient beyond 64 (`toNat_linearReward`), so
what is paid is always the exact interest rounded down, or the largest amount
(`natCast_linearReward`).

Rounding down is monotone, so a reward never falls when the balance, the rate or the span grows
(`linearReward_mono`).  It is not additive: two parts of a span may each drop a rest, and the two
rests together may be worth a unit, but never two (`linearReward_add_le`, `linearReward_le_add`).

Main statement: `linearReward_rounds_down`.
-/
import Mathlib.Data.Rat.Floor
import StakeChain.Proofs.Staking.Reward

namespace StakeChain

/-! ## 1. The exact interest, rounded down -/

section

variable (principal : Amount) (rate : UInt32)

/-- The whole units of interest that a balance earns over a span. -/
def interest (elapsed : Time) : Nat :=
  principal.toNat * rate.toNat * elapsed.toInt.toNat / interestUnit

/-- The whole units are the exact interest rounded down. -/
theorem floor_exactReward {elapsed : Time} (h : 0 ≤ elapsed.toInt) :
    ⌊exactReward principal.toNat rate elapsed.toInt⌋ = interest principal rate elapsed := by
  obtain ⟨span, hspan⟩ := Int.eq_ofNat_of_zero_le h
  have hfloor := Rat.floor_natCast_div_natCast (principal.toNat * rate.toNat * span) interestUnit
  rw [interest, exactReward, hspan, Int.toNat_natCast]
  push_cast at hfloor ⊢
  exact hfloor

/-- **A reward is the exact interest rounded down**, or the largest amount where that is less. -/
theorem natCast_linearReward {elapsed : Time} (h : 0 ≤ elapsed.toInt) :
    ((linearReward principal rate elapsed).toNat : Int) =
      min ⌊exactReward principal.toNat rate elapsed.toInt⌋ (UInt64.size - 1) := by
  have hone : 1 ≤ UInt64.size := by decide
  rw [toNat_linearReward, floor_exactReward principal rate h, interest]
  omega

/-- No time and time running backwards earn nothing. -/
theorem linearReward_of_nonpos {elapsed : Time} (h : elapsed ≤ 0) :
    linearReward principal rate elapsed = .zero := if_pos h

/-! ## 2. A span in two parts -/

variable {first second whole : Time} (hfirst : 0 ≤ first.toInt) (hsecond : 0 ≤ second.toInt)
  (hwhole : first.toInt + second.toInt = whole.toInt)

include hfirst hsecond hwhole

/-- The whole has the units of its parts, and at most one more, where the two rests make up one. -/
theorem interest_whole :
    interest principal rate first + interest principal rate second ≤
        interest principal rate whole ∧
      interest principal rate whole ≤
        interest principal rate first + interest principal rate second + 1 := by
  have hspan : whole.toInt.toNat = first.toInt.toNat + second.toInt.toNat := by omega
  have hunit : 0 < interestUnit := by decide
  simp only [interest, hspan, Nat.mul_add, Nat.add_div hunit]
  split
  · exact ⟨Nat.le_add_right _ 1, Nat.le_refl _⟩
  · exact ⟨Nat.le_refl _, Nat.le_add_right _ 1⟩

/-- **Two parts earn no more than the whole**, unless the whole stops at the largest amount. -/
theorem linearReward_add_le
    (hfits : (linearReward principal rate whole).toNat < UInt64.size - 1) :
    (linearReward principal rate first).toNat + (linearReward principal rate second).toNat ≤
      (linearReward principal rate whole).toNat := by
  obtain ⟨hunits, -⟩ := interest_whole principal rate hfirst hsecond hwhole
  have hheld : ∀ {a b c most : Nat}, a + b ≤ c → min c most < most →
      min a most + min b most ≤ min c most := by omega
  rw [toNat_linearReward] at hfits
  rw [toNat_linearReward, toNat_linearReward, toNat_linearReward]
  exact hheld hunits hfits

/-- **Two parts lose at most one unit against the whole.** -/
theorem linearReward_le_add :
    (linearReward principal rate whole).toNat ≤
      (linearReward principal rate first).toNat + (linearReward principal rate second).toNat +
        1 := by
  obtain ⟨-, hunits⟩ := interest_whole principal rate hfirst hsecond hwhole
  -- a part that stops at the largest amount makes up for the whole, which stops there too
  have hheld : ∀ {a b c most : Nat}, c ≤ a + b + 1 →
      min c most ≤ min a most + min b most + 1 := by omega
  rw [toNat_linearReward, toNat_linearReward, toNat_linearReward]
  exact hheld hunits

end

/-! ## 3. The main result -/

/-- **A reward is the exact quotient, held within an amount**, for every balance, every rate and
every span.

* It is zero if the span is not positive, and otherwise balance times rate times seconds over ten
  thousand times the seconds of a year, rounded down, or the largest amount if that is less.
* It never falls when the balance, the rate or the span grows.
* However a span is split into two positive parts, the two rewards are together not more than the
  reward of the whole, if that is below the largest amount, and at most one unit less. -/
theorem linearReward_rounds_down (principal : Amount) (rate : UInt32) (elapsed : Time) :
    let reward := fun span => (linearReward principal rate span).toNat
    ((reward elapsed : Int) = if elapsed.toInt ≤ 0 then 0 else
        min ⌊(principal.toNat * rate.toNat * elapsed.toInt : ℚ) / (10000 * 31557600)⌋
          (2 ^ 64 - 1)) ∧
      (∀ (more : Amount) (higher : UInt32) (longer : Time),
        principal ≤ more → rate ≤ higher → elapsed ≤ longer →
        linearReward principal rate elapsed ≤ linearReward more higher longer) ∧
      ∀ first second : Time, 0 < first.toInt → 0 < second.toInt →
        first.toInt + second.toInt = elapsed.toInt →
        (reward elapsed < 2 ^ 64 - 1 → reward first + reward second ≤ reward elapsed) ∧
          reward elapsed ≤ reward first + reward second + 1 := by
  intro reward
  refine ⟨?_, ?_, ?_⟩
  · split
    · rename_i hnone
      have hzero : linearReward principal rate elapsed = .zero :=
        linearReward_of_nonpos principal rate (Int64.le_iff_toInt_le.mpr hnone)
      simp only [reward, hzero, Amount.toNat_zero, Nat.cast_zero]
    · rename_i hsome
      have hunit : (interestUnit : ℚ) = 10000 * 31557600 := by
        norm_num [interestUnit, basisPoints, secondsPerYear]
      have hexact := natCast_linearReward principal rate (Int.le_of_lt (Int.not_le.mp hsome))
      rw [exactReward, hunit] at hexact
      exact hexact
  · intro more higher longer hmore hhigher hlonger
    have hspan : elapsed.toInt.toNat ≤ longer.toInt.toNat :=
      Int.toNat_le_toNat (Int64.le_iff_toInt_le.mp hlonger)
    rw [Amount.le_iff_toNat] at hmore ⊢
    exact linearReward_mono hmore (UInt32.le_iff_toNat_le.mp hhigher) hspan
  · intro first second hfirst hsecond hwhole
    have hfirst := Int.le_of_lt hfirst
    have hsecond := Int.le_of_lt hsecond
    exact ⟨linearReward_add_le principal rate hfirst hsecond hwhole,
      linearReward_le_add principal rate hfirst hsecond hwhole⟩

/-- A thousand coins at five per cent earn 158 units in a second and 316 in two, but 475 in
three. -/
theorem linearReward_rounds_down_in_three_seconds :
    let coins : Amount := ⟨100000000000⟩
    let reward := fun span : Time => (linearReward coins 500 span).toNat
    0 < (1 : Time).toInt ∧ 0 < (2 : Time).toInt ∧
      (1 : Time).toInt + (2 : Time).toInt = (3 : Time).toInt ∧ reward 3 < 2 ^ 64 - 1 ∧
      reward 1 + reward 2 ≤ reward 3 ∧ reward 3 ≤ reward 1 + reward 2 + 1 ∧
      reward 1 = 158 ∧ reward 2 = 316 ∧ reward 3 = 475 ∧
      coins ≤ ⟨200000000000⟩ ∧ (500 : UInt32) ≤ 600 ∧ (3 : Time) ≤ 4 ∧
      linearReward coins 500 3 ≤ linearReward ⟨200000000000⟩ 600 4 := by
  intro coins reward
  have hmore : coins ≤ ⟨200000000000⟩ := by decide
  have hfits : reward 3 < 2 ^ 64 - 1 := by decide
  obtain ⟨-, hmono, hsplit⟩ := linearReward_rounds_down coins 500 3
  obtain ⟨hle, hge⟩ := hsplit 1 2 (by decide) (by decide) (by decide)
  exact ⟨by decide, by decide, by decide, hfits, hle hfits, hge, by decide, by decide, by decide,
    hmore, by decide, by decide, hmono ⟨200000000000⟩ 600 4 hmore (by decide) (by decide)⟩

end StakeChain
