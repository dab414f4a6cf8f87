/-
# A quorum is not lost by support

The quorum check weighs live stake against all stake, and an operation may move both sides.  There
are operations that can only help: a heartbeat, a switch to active, a credit to a validator that is
live, the removal of one that is not, and the registration of one that is live at once
(`Registry.supports`).  None of them makes fewer validators live, and what they add to the stake,
they add to the live part of it.

The check asks for more than 51 parts in a hundred.  What is kept is its margin, a hundred times the
live stake less 51 times all stake: it never falls (`Tally.NoWorse`), since a unit that is added to
both sides adds 49 to it.  So neither the sizes of the stakes nor the window matter, and the margin
may be kept for a sequence by keeping it for each operation (`Registry.Performed.noWorse`).

Main statement: `Registry.reached_run_of_supportsAll`.
-/
import StakeChain.Proofs.Registry.Tally

namespace StakeChain

/-! ## 1. The margin -/

namespace Tally

variable {now window : Time} {s t u : Tally} {v w : Validator}

/-- **No worse for the check**: no fewer are live, and the margin has not fallen. -/
structure NoWorse (s t : Tally) : Prop where
  live : s.liveCount ≤ t.liveCount
  margin : 100 * s.liveStake + 51 * t.totalStake ≤ 100 * t.liveStake + 51 * s.totalStake

theorem NoWorse.refl (t : Tally) : t.NoWorse t := ⟨Nat.le_refl _, Nat.le_refl _⟩

theorem NoWorse.trans (h : s.NoWorse t) (h' : t.NoWorse u) : s.NoWorse u := by
  obtain ⟨hlive, hmargin⟩ := h
  obtain ⟨hlive', hmargin'⟩ := h'
  constructor <;> omega

/-- One more validator that is live. -/
theorem noWorse_count (h : v.isLive now window = true) : t.NoWorse (count now window t v) := by
  rw [count_of_isLive h]
  constructor
  · exact Nat.le_succ _
  · simp only
    omega

/-- One less that is not. -/
theorem count_noWorse (h : v.isLive now window = false) : (count now window t v).NoWorse t := by
  rw [count_of_not_isLive h]
  constructor
  · exact Nat.le_refl _
  · simp only
    omega

end Tally

/-- **No weaker for the check**: the validator stays live if it was, and it has more stake only if it
is live with it. -/
structure Validator.NoWeaker (now window : Time) (v w : Validator) : Prop where
  identifier : w.identifier = v.identifier
  live : v.isLive now window = true → w.isLive now window = true
  stake : v.stake ≤ w.stake
  raised : w.stake = v.stake ∨ w.isLive now window = true

/-- One validator in the place of another that was no stronger. -/
theorem Validator.NoWeaker.noWorse {now window : Time} {v w : Validator} {t : Tally}
    (h : v.NoWeaker now window w) :
    (Tally.count now window t v).NoWorse (Tally.count now window t w) := by
  obtain ⟨-, hlive, hstake, hraised⟩ := h
  rw [Amount.le_iff_toNat] at hstake
  cases hv : v.isLive now window with
  | true =>
    rw [Tally.count_of_isLive hv, Tally.count_of_isLive (hlive hv)]
    constructor
    · exact Nat.le_refl _
    · simp only
      omega
  | false =>
    cases hw : w.isLive now window with
    | true =>
      rw [Tally.count_of_not_isLive hv, Tally.count_of_isLive hw]
      constructor
      · exact Nat.le_succ _
      · simp only
        omega
    | false =>
      -- nothing was raised here, because what is raised is live
      have hsame : w.stake = v.stake := hraised.resolve_right (by simp [hw])
      rw [Tally.count_of_not_isLive hv, Tally.count_of_not_isLive hw, hsame]
      exact .refl _

/-! ## 2. One validator -/

namespace Validator

variable {now window : Time} (v : Validator)

theorem noWeaker_heartbeat (time : Time) : v.NoWeaker now window (v.heartbeat time) := by
  refine ⟨rfl, ?_, Amount.le_iff_toNat.mpr (Nat.le_refl _), Or.inl rfl⟩
  have hlatest : v.lastActiveAt ≤ max v.lastActiveAt time := by
    rw [Int64.le_iff_toInt_le, Time.toInt_max]
    omega
  have hsince := Int64.le_iff_toInt_le.mp (Time.since_le_since now hlatest)
  simp only [isLive, heartbeat, Bool.and_eq_true, decide_eq_true_eq, Int64.le_iff_toInt_le]
  rintro ⟨hactive, hwindow⟩
  exact ⟨hactive, Int.le_trans hsince hwindow⟩

theorem noWeaker_activated : v.NoWeaker now window { v with isActive := true } := by
  refine ⟨rfl, ?_, Amount.le_iff_toNat.mpr (Nat.le_refl _), Or.inl rfl⟩
  intro hlive
  obtain ⟨-, hwindow⟩ := Bool.and_eq_true_iff.mp hlive
  exact hwindow

theorem noWeaker_credited {v : Validator} {stake amount : Amount}
    (hlive : v.isLive now window = true) (hstake : stake.toNat = v.stake.toNat + amount.toNat) :
    v.NoWeaker now window { v with stake } := by
  have hle : v.stake ≤ stake := by
    rw [Amount.le_iff_toNat]
    omega
  exact ⟨rfl, fun _ => hlive, hle, Or.inr hlive⟩

end Validator

/-! ## 3. One operation -/

namespace Registry

variable {r r' : Registry} {now : Time}

/-- **The operations that support a quorum at `now`.** -/
def supports (r : Registry) (now : Time) : ValidatorOperation → Bool
  | .register identifier stake time =>
    Validator.isLive ⟨identifier, stake, time, time, true⟩ now r.terms.activityWindow
  | .heartbeat _ _ => true
  | .setActive _ active => active
  | .credit identifier _ => r.isLive identifier now
  | .remove identifier => !r.isLive identifier now
  | .find _ => true

theorem isLive_of_get? {identifier : String} {v : Validator}
    (h : r.validators.get? identifier = some v) :
    r.isLive identifier now = v.isLive now r.terms.activityWindow := by
  rw [isLive, h]

/-- A validator is replaced by one that is no weaker. -/
theorem noWorse_updated {name : String} {w : Validator}
    {change : Validator → Except LedgerError Validator} (hr : r.update name change = .ok (w, r'))
    (hchange : ∀ v, r.validators.get? name = some v → change v = .ok w →
      v.NoWeaker now r.terms.activityWindow w) :
    (r.tally now).NoWorse (r'.tally now) := by
  obtain ⟨v, hv, hw, rfl⟩ := update_eq_ok_iff.mp hr
  have hweaker := hchange v hv hw
  obtain rfl := r.keyed hv
  rw [tally_of_get? hv, tally_put, hweaker.identifier]
  exact hweaker.noWorse

/-- **No supporting operation makes things worse**, whether it succeeds or is refused. -/
theorem Performed.noWorse {op : ValidatorOperation} {answer : Except LedgerError Answer}
    (h : r.Performed op answer r') (hsupports : r.supports now op = true) :
    (r.tally now).NoWorse (r'.tally now) := by
  cases h with
  | refused => exact .refl _
  | found _ => exact .refl _
  | registered hr =>
    obtain ⟨⟨-, -, hnone⟩, rfl, rfl⟩ := register_eq_ok_iff.mp hr
    rw [tally_put, drop_of_get?_eq_none hnone]
    exact Tally.noWorse_count hsupports
  | heard hr =>
    refine noWorse_updated hr ?_
    rintro v - ⟨⟩
    exact v.noWeaker_heartbeat _
  | switched hr =>
    obtain rfl : _ = true := hsupports
    refine noWorse_updated hr ?_
    rintro v - ⟨⟩
    exact v.noWeaker_activated
  | credited hr =>
    obtain ⟨u, stake, hu, hstake, rfl, rfl⟩ := credit_eq_ok_iff.mp hr
    have hlive : u.isLive now r.terms.activityWindow = true := isLive_of_get? hu ▸ hsupports
    refine noWorse_updated hr ?_
    rintro v hv -
    cases hu.symm.trans hv
    exact Validator.noWeaker_credited hlive hstake
  | removed hr =>
    obtain ⟨hv, rfl⟩ := remove_eq_ok_iff.mp hr
    have hnot := hsupports
    rw [supports, isLive_of_get? hv, Bool.not_eq_true'] at hnot
    obtain rfl := r.keyed hv
    rw [tally_of_get? hv]
    exact Tally.count_noWorse hnot

/-! ## 4. Several operations -/

/-- Each operation supports a quorum at `now` in the registry that it finds. -/
def supportsAll (r : Registry) (now : Time) : List ValidatorOperation → Bool
  | [] => true
  | op :: rest => r.supports now op && (r.perform op).2.supportsAll now rest

theorem noWorse_run : ∀ {ops : List ValidatorOperation} {r : Registry},
    r.supportsAll now ops = true → (r.tally now).NoWorse ((r.run ops).2.tally now)
  | [], r, _ => .refl _
  | op :: rest, r, h => by
    obtain ⟨hop, hrest⟩ := Bool.and_eq_true_iff.mp h
    exact ((r.perform_performed op).noWorse hop).trans (noWorse_run hrest)

/-- **A quorum is not lost by support.**  Take any registry in which the check at `now` with any
minimum is passed, and carry out any sequence of heartbeats at whatever times, of switches to active,
of credits to validators that are live at `now`, of removals of validators that are not, and of
registrations of validators that are live at `now`.  The check is still passed, whatever the window
and the stakes, and whether the operations succeed or are refused. -/
theorem reached_run_of_supportsAll (r : Registry) (now : Time) (minimum : Nat)
    (ops : List ValidatorOperation) (hreached : (r.quorum now minimum).reached = true)
    (hsupports : r.supportsAll now ops = true) :
    ((r.run ops).2.quorum now minimum).reached = true := by
  obtain ⟨hlive, hmargin⟩ := noWorse_run hsupports
  rw [reached_iff] at hreached ⊢
  omega

/-- A validator that had fallen silent comes back and is paid, another is removed before it can
come back, and one more comes in; the last credit does not fit and is refused. -/
theorem reached_run_of_supportsAll_after_silence :
    let r := ((new Config.default.registry).run
      [.register "A" ⟨600000000000⟩ 400, .register "B" ⟨300000000000⟩ 0,
        .register "C" ⟨200000000000⟩ 50]).2
    let ops : List ValidatorOperation :=
      [.heartbeat "B" 350, .credit "B" ⟨7⟩, .remove "C", .setActive "C" true,
        .register "D" ⟨100000000000⟩ 200, .credit "A" ⟨18446744073709551615⟩]
    (r.quorum 400 1).reached = true ∧ r.supportsAll 400 ops = true ∧
      ((r.run ops).2.quorum 400 1).reached = true := by
  intro r ops
  have hreached : (r.quorum 400 1).reached = true := by decide +kernel
  have hsupports : r.supportsAll 400 ops = true := by decide +kernel
  exact ⟨hreached, hsupports, reached_run_of_supportsAll r 400 1 ops hreached hsupports⟩

end Registry

end StakeChain
