/-
# What a draw decides

An election has two special branches.  Where there is no stake to draw for, the last candidate
leads without a draw; where the number lies past the total, the last candidate leads again.  In
between the draw decides (`Urn.DrawDecides`): the number falls into the stretch of one candidate,
and that one is elected.

Nothing is assumed of a source in the definitions.  A source whose numbers stay below their bounds
is called honest (`DrawSource.Honest`), and for an honest source the draw decides as soon as one
candidate has a stake (`Urn.drawDecides_of_honest`).
-/
import StakeChain.Election.Sources
import StakeChain.Proofs.Chain.Growth

namespace StakeChain

/-! ## 1. Honest sources -/

namespace DrawSource

variable {σ : Type} [DrawSource σ] {s t u : σ}

theorem Reaches.trans (h : Reaches s t) (h' : Reaches t u) : Reaches s u := by
  induction h' with
  | start => exact h
  | draw upper c _ ih => exact ih.draw upper c

/-- What every draw keeps holds of every state that draws lead to. -/
theorem Reaches.keeps {P : σ → Prop}
    (hdraw : ∀ {t : σ}, P t → ∀ (upper : Nat) (c : Chain), P (DrawSource.draw t upper c).next)
    (hs : P s) (h : Reaches s t) : P t := by
  induction h with
  | start => exact hs
  | draw upper c _ ih => exact hdraw ih upper c

/-- A source whose numbers stay below their bounds, in its next draw and in any later one. -/
def Honest (s : σ) : Prop :=
  ∀ t, Reaches s t → ∀ (upper : Nat) (c : Chain), 0 < upper →
    (DrawSource.draw t upper c).value < upper

theorem Honest.of_reaches (hs : Honest s) (h : Reaches s t) : Honest t := by
  intro u hu
  exact hs u (h.trans hu)

end DrawSource

namespace Source

open DrawSource

/-- A script stays a script. -/
theorem reaches_script {numbers : List Nat} {t : Source} (h : Reaches (script numbers) t) :
    ∃ rest, t = script rest := by
  refine h.keeps (P := fun t => ∃ rest, t = script rest) ?_ ⟨numbers, rfl⟩
  rintro _ ⟨rest, rfl⟩ upper c
  exact ⟨_, rfl⟩

theorem reaches_interloper {moves : Nat} {t : Source} (h : Reaches (interloper moves) t) :
    ∃ left, t = interloper left := by
  refine h.keeps (P := fun t => ∃ left, t = interloper left) ?_ ⟨moves, rfl⟩
  rintro _ ⟨left, rfl⟩ upper c
  cases left with
  | zero => exact ⟨0, rfl⟩
  | succ left => exact ⟨left, rfl⟩

/-- A script offers no blocks. -/
theorem quiet_script (numbers : List Nat) : Quiet (script numbers) := by
  intro t ht upper c
  obtain ⟨rest, rfl⟩ := reaches_script ht
  rfl

/-- Whatever an interloper does to the chain, it answers zero. -/
theorem honest_interloper (moves : Nat) : Honest (interloper moves) := by
  intro t ht upper c hupper
  obtain ⟨left, rfl⟩ := reaches_interloper ht
  cases left with
  | zero => exact hupper
  | succ left => exact hupper

end Source

/-! ## 2. Stretches -/

theorem totalStake_cons (v : Validator) (rest : List Validator) :
    totalStake (v :: rest) = v.stake.toNat + totalStake rest := rfl

theorem le_totalStake {v : Validator} {candidates : List Validator} (h : v ∈ candidates) :
    v.stake.toNat ≤ totalStake candidates := by
  induction candidates with
  | nil => simp at h
  | cons w rest ih =>
    rw [totalStake_cons]
    rcases List.mem_cons.mp h with rfl | h
    · omega
    · have := ih h
      omega

/-- **Nobody is found exactly when all sums are reached.** -/
theorem winner?_eq_none_iff {number before : Nat} {candidates : List Validator}
    (h : before ≤ number) :
    winner? number before candidates = none ↔ before + totalStake candidates ≤ number := by
  induction candidates generalizing before with
  | nil => exact iff_of_true rfl h
  | cons v rest ih =>
    rw [winner?, totalStake_cons, ← Nat.add_assoc]
    split
    · rename_i hlt
      exact iff_of_false (Option.some_ne_none v) (by omega)
    · rename_i hge
      exact ih (Nat.not_lt.mp hge)

/-! ## 3. Elections -/

namespace Urn

variable {σ : Type} [DrawSource σ] {u : Urn σ} {candidates : List Validator}

/-- **The draw decides an election**: there is a stake to draw for, and the number falls into the
stretch of the candidate that is elected. -/
def DrawDecides (u : Urn σ) (candidates : List Validator) : Prop :=
  totalStake candidates ≠ 0 ∧
    ∃ v, winner? (u.draw (totalStake candidates)).1 0 candidates = some v ∧
      u.elect candidates = (.ok v, (u.draw (totalStake candidates)).2)

/-- Where a number falls into a stretch, the election goes to whose it is. -/
theorem elect_of_winner? {v : Validator} (htotal : totalStake candidates ≠ 0)
    (hv : winner? (u.draw (totalStake candidates)).1 0 candidates = some v) :
    u.elect candidates = (.ok v, (u.draw (totalStake candidates)).2) := by
  unfold elect
  cases hlast : candidates.getLast? with
  | none =>
    obtain rfl := List.getLast?_eq_none_iff.mp hlast
    exact absurd rfl htotal
  | some last => simp [htotal, hv]

/-- **An honest draw decides every election in which somebody has a stake.** -/
theorem drawDecides_of_honest {v : Validator} (hhonest : DrawSource.Honest u.source)
    (hv : v ∈ candidates) (hstake : .zero < v.stake) : u.DrawDecides candidates := by
  have hpositive : 0 < totalStake candidates :=
    Nat.lt_of_lt_of_le (Amount.lt_iff_toNat.mp hstake) (le_totalStake hv)
  have htotal : totalStake candidates ≠ 0 := Nat.ne_of_gt hpositive
  have hdraw : (u.draw (totalStake candidates)).1 < totalStake candidates :=
    hhonest u.source .start _ _ hpositive
  have hfound : winner? (u.draw (totalStake candidates)).1 0 candidates ≠ none := by
    rw [Ne, winner?_eq_none_iff (Nat.zero_le _)]
    omega
  obtain ⟨w, hw⟩ := Option.ne_none_iff_exists'.mp hfound
  exact ⟨htotal, w, hw, elect_of_winner? htotal hw⟩

end Urn

end StakeChain
